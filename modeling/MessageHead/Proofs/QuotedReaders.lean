/-
The readers of quoted texts by modes. Skipping to a closing quote takes what
runs from inside to the first way out (`skip?_eq_some_iff`), and reading decodes
what skipping takes (`read?_eq`); splitting at a delimiter and joining with it
are inverse on whole texts (`split?_eq_ok_iff`).
-/
import MessageHead.Proofs.QuoteMode

namespace MessageHead.Quoted

/-! ## The readers by modes -/

theorem modes_of_skip? {s raw rest : Text} (h : skip? s = some (raw, rest)) :
    Within .inside raw ∧ Mode.inside.after raw = .outside := by
  fun_induction skip? s generalizing raw rest with
  | case1 => simp at h
  | case2 =>
    simp only [Option.some.injEq, Prod.mk.injEq] at h
    obtain ⟨rfl, rfl⟩ := h
    decide
  | case3 c s ih =>
    obtain ⟨⟨raw', rest'⟩, h', he⟩ := Option.map_eq_some_iff.1 h
    simp only [Prod.mk.injEq] at he
    obtain ⟨rfl, rfl⟩ := he
    obtain ⟨hw, ha⟩ := ih h'
    exact ⟨⟨fun h => absurd h (by decide), fun h => absurd h (by decide), hw⟩, ha⟩
  | case4 c s hq hb ih =>
    obtain ⟨⟨raw', rest'⟩, h', he⟩ := Option.map_eq_some_iff.1 h
    simp only [Prod.mk.injEq] at he
    obtain ⟨rfl, rfl⟩ := he
    obtain ⟨hw, ha⟩ := ih h'
    have hcb : c ≠ '\\' := by
      rintro rfl
      cases s with
      | nil => simp [skip?] at h'
      | cons d s => exact hb d s rfl rfl
    have hn : Mode.inside.next c = .inside := Mode.next_inert ⟨fun e => hq e, hcb⟩ _
    exact ⟨⟨fun h => absurd h (by decide), by rw [hn]; exact hw⟩, by rw [Mode.after_cons, hn]; exact ha⟩

theorem skip?_of_modes {raw : Text} (hw : Within .inside raw) (ha : Mode.inside.after raw = .outside)
    (rest : Text) :
    skip? (raw ++ rest) = some (raw, rest) := by
  fun_induction skip? raw with
  | case1 => simp at ha
  | case2 raw =>
    cases raw with
    | nil => rfl
    | cons c raw => exact absurd (hw.2.1 rfl) (by simp)
  | case3 c raw ih => simp [skip?, ih hw.2.2 ha]
  | case4 c raw hq hb ih =>
    have hcq : c ≠ '"' := fun e => hq e
    by_cases hcb : c = '\\'
    · subst hcb
      cases raw with
      | nil => exact absurd ha (by decide)
      | cons d raw => exact absurd rfl (hb d raw rfl)
    · have hn : Mode.inside.next c = .inside := Mode.next_inert ⟨hcq, hcb⟩ _
      have := ih (by have := hw.2; rwa [hn] at this) (by rwa [Mode.after_cons, hn] at ha)
      rw [List.cons_append, skip?]
      · rw [this]; rfl
      · exact hcq
      · exact fun _ _ e => absurd e hcb

/-- Skipping takes exactly what runs from inside to the first way out. -/
theorem skip?_eq_some_iff {s raw rest : Text} :
    skip? s = some (raw, rest) ↔ raw ++ rest = s ∧ Within .inside raw ∧ Mode.inside.after raw = .outside := by
  constructor
  · exact fun h => ⟨append_of_skip? h, modes_of_skip? h⟩
  · rintro ⟨rfl, hw, ha⟩
    exact skip?_of_modes hw ha rest

theorem skip?_eq_none_iff {s : Text} :
    skip? s = none ↔ Within .inside s ∧ Mode.inside.after s ≠ .outside := by
  constructor
  · intro h
    fun_induction skip? s with
    | case1 => decide
    | case2 => simp at h
    | case3 c s ih =>
      obtain ⟨hw, ha⟩ := ih (Option.map_eq_none_iff.1 h)
      exact ⟨⟨fun h => absurd h (by decide), fun h => absurd h (by decide), hw⟩, ha⟩
    | case4 c s hq hb ih =>
      obtain ⟨hw, ha⟩ := ih (Option.map_eq_none_iff.1 h)
      by_cases hcb : c = '\\'
      · subst hcb
        cases s with
        | nil => decide
        | cons d s => exact absurd rfl (hb d s rfl)
      · have hn : Mode.inside.next c = .inside := Mode.next_inert ⟨fun e => hq e, hcb⟩ _
        exact ⟨⟨fun h => absurd h (by decide), by rw [hn]; exact hw⟩, by rw [Mode.after_cons, hn]; exact ha⟩
  · rintro ⟨hw, ha⟩
    cases h : skip? s with
    | none => rfl
    | some p =>
      obtain ⟨raw, rest⟩ := p
      obtain ⟨rfl, _, ha'⟩ := skip?_eq_some_iff.1 h
      have hr := (Clear.append.1 hw).2
      rw [ha'] at hr
      cases rest with
      | nil => rw [List.append_nil] at ha; exact absurd ha' ha
      | cons c rest => exact absurd (hr.1 rfl) (by simp)

/-- Quotes that do not close do not close without a further quote. -/
theorem skip?_append_eq_none {s t : Text} (ht : '"' ∉ t) (h : skip? s = none) : skip? (s ++ t) = none := by
  obtain ⟨hw, ha⟩ := skip?_eq_none_iff.1 h
  refine skip?_eq_none_iff.2 ⟨Within.append.2 ⟨hw, Within.of_not_mem ht ha⟩, ?_⟩
  rw [Mode.after_append]
  exact Mode.after_ne_outside ht ha

theorem skip?_append {s raw rest : Text} (h : skip? s = some (raw, rest)) (t : Text) :
    skip? (s ++ t) = some (raw, rest ++ t) := by
  obtain ⟨rfl, hw⟩ := skip?_eq_some_iff.1 h
  exact skip?_eq_some_iff.2 ⟨by simp, hw⟩

/-! ## Quotes around a text -/

theorem count_encode {c : Char} (hc : c ≠ '\\') (s : Text) : (Escape.encode s).count c = s.count c := by
  induction s with
  | nil => rfl
  | cons d s ih =>
    rw [Escape.encode]
    split
    · rw [List.count_cons_of_ne (Ne.symm hc), List.count_cons, List.count_cons, ih]
    · rw [List.count_cons, List.count_cons, ih]

theorem count_decode {c : Char} (hc : c ≠ '\\') (s : Text) : (Escape.decode s).count c = s.count c := by
  fun_induction Escape.decode s with
  | case1 => rfl
  | case2 d s ih => rw [List.count_cons_of_ne (Ne.symm hc), List.count_cons, List.count_cons, ih]
  | case3 d s _ ih => rw [List.count_cons, List.count_cons, ih]

theorem encode_append (s t : Text) : Escape.encode (s ++ t) = Escape.encode s ++ Escape.encode t := by
  induction s with
  | nil => rfl
  | cons c s ih =>
    rw [List.cons_append, Escape.encode, Escape.encode, ih]
    split <;> rfl

theorem mem_encode {c : Char} (hc : c ≠ '\\') {s : Text} : c ∈ Escape.encode s ↔ c ∈ s := by
  rw [← List.count_pos_iff, ← List.count_pos_iff, count_encode hc]

theorem encode_eq_self {s : Text} (hq : '"' ∉ s) (hb : '\\' ∉ s) : Escape.encode s = s := by
  induction s with
  | nil => rfl
  | cons c s ih =>
    simp only [List.mem_cons, not_or] at hq hb
    rw [Escape.encode, if_neg (by simp [Ne.symm hq.1, Ne.symm hb.1]), ih hq.2 hb.2]

theorem decode_encode (s : Text) : Escape.decode (Escape.encode s) = s := by
  induction s with
  | nil => rfl
  | cons c s ih =>
    rw [Escape.encode]
    split
    · rw [Escape.decode, ih]
    · rename_i hc
      simp only [Bool.or_eq_true, beq_iff_eq, not_or] at hc
      rw [Escape.decode, ih]
      exact fun d t e => absurd e hc.2

theorem skipped_ne_nil {s raw rest : Text} (h : skip? s = some (raw, rest)) : raw ≠ [] := by
  rintro rfl
  exact absurd (modes_of_skip? h).2 (by decide)

theorem read?_eq (s : Text) :
    read? s = (skip? s).map fun (raw, rest) => (Escape.decode raw.dropLast, rest) := by
  fun_induction skip? s with
  | case1 => rfl
  | case2 => rfl
  | case3 c s ih =>
    rw [read?, ih]
    cases hs : skip? s with
    | none => rfl
    | some p => simp [List.dropLast_cons_of_ne_nil (skipped_ne_nil hs), Escape.decode]
  | case4 c s hq hb ih =>
    rw [read?, ih]
    · cases hs : skip? s with
      | none => rfl
      | some p =>
        have hc : c ≠ '\\' := by
          rintro rfl
          cases s with
          | nil => simp [skip?] at hs
          | cons d s => exact hb d s rfl rfl
        simp only [Option.map_some, List.dropLast_cons_of_ne_nil (skipped_ne_nil hs)]
        rw [Escape.decode]
        exact fun _ _ e => absurd e hc
    · exact hq
    · exact hb

/-- A text that stays inside is read up to the quote behind it. -/
theorem read?_within {s : Text} (hw : Within .inside s) (ha : Mode.inside.after s = .inside) (rest : Text) :
    read? (s ++ '"' :: rest) = some (Escape.decode s, rest) := by
  have hs : skip? (s ++ '"' :: rest) = some (s ++ ['"'], rest) := by
    refine skip?_eq_some_iff.2 ⟨by simp, Within.append.2 ⟨hw, by rw [ha]; decide⟩, ?_⟩
    rw [Mode.after_append, ha]
    rfl
  rw [read?_eq, hs]
  simp

/-- **A quoted text is read back**, whatever follows it. -/
theorem read?_encode (s rest : Text) : read? (Escape.encode s ++ '"' :: rest) = some (s, rest) := by
  rw [read?_within (.encode s) (Mode.inside_after_encode s), decode_encode]

theorem inner?_quoted (s : Text) : inner? ('"' :: s ++ ['"']) = some s := by
  simp [inner?]

theorem eq_of_inner? {s t : Text} (h : inner? s = some t) : s = '"' :: t ++ ['"'] := by
  unfold inner? at h
  split at h
  · rename_i u
    split at h
    · rename_i hl
      simp only [Option.some.injEq] at h
      have hne : u ≠ [] := by rintro rfl; simp at hl
      have := List.dropLast_concat_getLast hne
      rw [List.getLast?_eq_some_getLast hne, Option.some.injEq] at hl
      rw [hl, h] at this
      rw [List.cons_append, this]
    · simp at h
  · simp at h

theorem inner?_eq_none {s : Text} (h : '"' ∉ s) : inner? s = none := by
  cases hi : inner? s with
  | none => rfl
  | some t => rw [eq_of_inner? hi] at h; simp at h

theorem unquote_eq_self_iff {s : Text} : unquote s = s ↔ inner? s = none := by
  unfold unquote
  cases h : inner? s with
  | none => simp
  | some t =>
    simp only [Option.getD_some, reduceCtorEq, iff_false]
    intro e
    have := congrArg List.length (eq_of_inner? h)
    rw [← e] at this
    simp only [List.length_append, List.length_cons, List.length_nil] at this
    omega

theorem unquote_quoted (s : Text) : unquote ('"' :: s ++ ['"']) = s := by
  rw [unquote, inner?_quoted, Option.getD_some]

theorem count_unquote {c : Char} (hc : c ≠ '"') (s : Text) : (unquote s).count c = s.count c := by
  unfold unquote
  cases h : inner? s with
  | none => rfl
  | some t =>
    rw [Option.getD_some, eq_of_inner? h, List.cons_append, List.count_cons_of_ne (Ne.symm hc),
      List.count_append, List.count_cons_of_ne (Ne.symm hc)]
    simp

/-! ## Splitting -/

variable {d : Char}

theorem Whole.skip? {stop : Char → Bool} {s : Text} (h : Whole stop ('"' :: s)) :
    ∃ raw rest, Quoted.skip? s = some (raw, rest) ∧ raw ++ rest = s ∧ Whole stop rest := by
  have hc := h.clear.2
  have ha := h.closed
  simp only [Mode.after_cons, Mode.next, beq_self_eq_true, if_true] at hc ha
  cases hs : Quoted.skip? s with
  | none => exact absurd ha (skip?_eq_none_iff.1 hs).2
  | some p =>
    obtain ⟨raw, rest⟩ := p
    obtain ⟨rfl, _, hr⟩ := skip?_eq_some_iff.1 hs
    rw [Mode.after_append, hr] at ha
    have := (Clear.append.1 hc).2
    rw [hr] at this
    exact ⟨raw, rest, rfl, rfl, this, ha⟩

theorem Whole.of_skip? {stop : Char → Bool} {s raw rest : Text} (hstop : stop '"' = false)
    (h : Quoted.skip? s = some (raw, rest)) (hr : Whole stop rest) : Whole stop ('"' :: s) := by
  obtain ⟨rfl, hw, ha⟩ := skip?_eq_some_iff.1 h
  refine ⟨⟨fun _ => hstop, ?_⟩, ?_⟩
  · show Clear stop .inside _
    exact Clear.append.2 ⟨hw.mono (by simp), by rw [ha]; exact hr.clear⟩
  · show Mode.inside.after _ = _
    rw [Mode.after_append, ha, hr.closed]

theorem split?_ne_nil {s : Text} {gs : List Text} (h : split? d s = .ok gs) : gs ≠ [] := by
  have extend : ∀ (front : Text) (gs : List Text), extendFirst front gs ≠ [] := by
    intro front gs
    cases gs <;> simp [extendFirst]
  fun_induction split? d s generalizing gs with
  | case1 => simp only [Except.ok.injEq] at h; rw [← h]; simp
  | case2 => simp at h
  | case3 _ _ _ _ _ _ ih => obtain ⟨gs', _, rfl⟩ := Element.map_eq_ok.1 h; exact extend _ _
  | case4 _ _ _ _ ih => obtain ⟨gs', _, rfl⟩ := Element.map_eq_ok.1 h; simp
  | case5 _ _ _ _ ih => obtain ⟨gs', _, rfl⟩ := Element.map_eq_ok.1 h; exact extend _ _

theorem map_extendFirst (a b t : Text) :
    ((split? d t).map (extendFirst b)).map (extendFirst a) = (split? d t).map (extendFirst (a ++ b)) := by
  cases h : split? d t with
  | error e => rfl
  | ok gs =>
    cases gs with
    | nil => exact absurd rfl (split?_ne_nil h)
    | cons g gs => simp [Except.map, extendFirst]

/-- **A whole text in front goes to the first segment**, whatever follows. -/
theorem split?_append {s : Text} (h : Whole (· == d) s) (t : Text) :
    split? d (s ++ t) = (split? d t).map (extendFirst s) := by
  induction hn : s.length using Nat.strongRecOn generalizing s with
  | ind n ih =>
    cases s with
    | nil =>
      cases ht : split? d t with
      | error e => simp [ht, Except.map]
      | ok gs =>
        cases gs with
        | nil => exact absurd rfl (split?_ne_nil ht)
        | cons g gs => simp [ht, Except.map, extendFirst]
    | cons c s =>
      by_cases hc : c = '"'
      · subst hc
        obtain ⟨raw, rest, hs, rfl, hr⟩ := h.skip?
        have hs' := skip?_append hs t
        rw [List.cons_append, split?]
        simp only [beq_self_eq_true, if_true]
        split
        · rename_i hx; rw [hs'] at hx; cases hx
        · rename_i raw' rest' hx
          rw [hs'] at hx
          cases hx
          rw [ih rest.length (by simp at hn; omega) hr rfl, map_extendFirst]
          rfl
      · have hd : (c == d) = false := h.clear.1 rfl
        rw [List.cons_append, split?]
        simp only [beq_iff_eq, hc, if_false, hd, Bool.false_eq_true]
        rw [ih s.length (by simp at hn; omega) (h.tail hc) rfl, map_extendFirst]
        rfl

theorem split?_whole {s : Text} (h : Whole (· == d) s) : split? d s = .ok [s] := by
  have := split?_append h []
  rw [List.append_nil, split?] at this
  simpa [Except.map, extendFirst] using this

theorem split?_cons {s : Text} (hd : d ≠ '"') (h : Whole (· == d) s) (t : Text) :
    split? d (s ++ d :: t) = (split? d t).map (s :: ·) := by
  rw [split?_append h, split?]
  simp only [beq_iff_eq, hd, if_false, if_true]
  cases split? d t with
  | error e => rfl
  | ok gs => simp [Except.map, extendFirst]

theorem join_extendFirst (a : Text) {gs : List Text} (hne : gs ≠ []) :
    Text.join [d] (extendFirst a gs) = a ++ Text.join [d] gs := by
  cases gs with
  | nil => exact absurd rfl hne
  | cons g gs =>
    rw [extendFirst]
    by_cases hgs : gs = []
    · subst hgs
      rfl
    · rw [Text.join_cons _ hgs, Text.join_cons _ hgs]
      simp

theorem whole_extendFirst {a : Text} {gs : List Text} (hne : gs ≠ []) (hw : ∀ g ∈ gs, Whole (· == d) g)
    (ha : ∀ {g}, Whole (· == d) g → Whole (· == d) (a ++ g)) : ∀ g ∈ extendFirst a gs, Whole (· == d) g := by
  cases gs with
  | nil => exact absurd rfl hne
  | cons g gs =>
    intro g' hg'
    simp only [extendFirst, List.mem_cons] at hg'
    rcases hg' with rfl | hg'
    · exact ha (hw g (by simp))
    · exact hw g' (by simp [hg'])

theorem join_of_split? (hd : d ≠ '"') {s : Text} {gs : List Text} (h : split? d s = .ok gs) :
    Text.join [d] gs = s ∧ ∀ g ∈ gs, Whole (· == d) g := by
  have hstop : ('"' == d) = false := by simpa using Ne.symm hd
  fun_induction split? d s generalizing gs with
  | case1 =>
    simp only [Except.ok.injEq] at h
    subst h
    exact ⟨rfl, by simpa using Whole.nil⟩
  | case2 => simp at h
  | case3 c s hc raw rest hs ih =>
    obtain ⟨gs', h', rfl⟩ := Element.map_eq_ok.1 h
    obtain ⟨hj, hw⟩ := ih h'
    have hcq : c = '"' := by simpa using hc
    subst hcq
    obtain ⟨rfl, hraw⟩ := skip?_eq_some_iff.1 hs
    refine ⟨?_, whole_extendFirst (split?_ne_nil h') hw fun hg =>
      Whole.of_skip? hstop (skip?_eq_some_iff.2 ⟨rfl, hraw⟩) hg⟩
    rw [join_extendFirst _ (split?_ne_nil h'), hj]
    rfl
  | case4 c s hc hcd ih =>
    obtain ⟨gs', h', rfl⟩ := Element.map_eq_ok.1 h
    obtain ⟨hj, hw⟩ := ih h'
    have hcd : c = d := by simpa using hcd
    subst hcd
    refine ⟨?_, ?_⟩
    · rw [Text.join_cons _ (split?_ne_nil h'), hj]
      rfl
    · simpa using ⟨Whole.nil, hw⟩
  | case5 c s hc hcd ih =>
    obtain ⟨gs', h', rfl⟩ := Element.map_eq_ok.1 h
    obtain ⟨hj, hw⟩ := ih h'
    refine ⟨?_, whole_extendFirst (split?_ne_nil h') hw
      fun hg => hg.cons (by simpa using hc) (by simpa using hcd)⟩
    rw [join_extendFirst _ (split?_ne_nil h'), hj]
    rfl

theorem split?_join_whole (hd : d ≠ '"') {gs : List Text} (hne : gs ≠ []) (hw : ∀ g ∈ gs, Whole (· == d) g) :
    split? d (Text.join [d] gs) = .ok gs := by
  induction gs with
  | nil => exact absurd rfl hne
  | cons g gs ih =>
    have hg := hw g (by simp)
    by_cases hgs : gs = []
    · subst hgs
      exact split?_whole hg
    · rw [Text.join_cons _ hgs, List.append_assoc, List.singleton_append, split?_cons hd hg,
        ih hgs fun g' hg' => hw g' (by simp [hg'])]
      rfl

/-- **What splitting returns**: the whole texts that the delimiter joins to
the text. There is only one such list. -/
theorem split?_eq_ok_iff (hd : d ≠ '"') {s : Text} {gs : List Text} :
    split? d s = .ok gs ↔ gs ≠ [] ∧ Text.join [d] gs = s ∧ ∀ g ∈ gs, Whole (· == d) g := by
  constructor
  · exact fun h => ⟨split?_ne_nil h, join_of_split? hd h⟩
  · rintro ⟨hne, rfl, hw⟩
    exact split?_join_whole hd hne hw

theorem outside_after_join (hd : d ≠ '"') {gs : List Text} (h : ∀ g ∈ gs, Mode.outside.after g = .outside) :
    Mode.outside.after (Text.join [d] gs) = .outside := by
  induction gs with
  | nil => rfl
  | cons g gs ih =>
    have hg := h g (by simp)
    by_cases hgs : gs = []
    · subst hgs
      exact hg
    · have := ih fun g' hg' => h g' (by simp [hg'])
      rw [Text.join_cons _ hgs, Mode.after_append, Mode.after_append, hg]
      simpa [Mode.next, hd] using this

theorem exists_split? {s : Text} (h : Mode.outside.after s = .outside) : ∃ gs, split? d s = .ok gs := by
  fun_induction split? d s with
  | case1 => exact ⟨_, rfl⟩
  | case2 c s hc hs =>
    have hcq : c = '"' := by simpa using hc
    subst hcq
    exact absurd h (skip?_eq_none_iff.1 hs).2
  | case3 c s hc raw rest hs ih =>
    have hcq : c = '"' := by simpa using hc
    subst hcq
    obtain ⟨rfl, -, hraw⟩ := skip?_eq_some_iff.1 hs
    have hr : Mode.inside.after (raw ++ rest) = .outside := h
    rw [Mode.after_append, hraw] at hr
    obtain ⟨gs, hgs⟩ := ih hr
    exact ⟨_, by rw [hgs]; rfl⟩
  | case4 c s hc hcd ih | case5 c s hc hcd ih =>
    have hn : Mode.outside.next c = .outside := if_neg hc
    rw [Mode.after_cons, hn] at h
    obtain ⟨gs, hgs⟩ := ih h
    exact ⟨_, by rw [hgs]; rfl⟩

theorem exists_split?_iff (hd : d ≠ '"') {s : Text} :
    (∃ gs, split? d s = .ok gs) ↔ Mode.outside.after s = .outside := by
  constructor
  · rintro ⟨gs, h⟩
    obtain ⟨-, rfl, hw⟩ := (split?_eq_ok_iff hd).1 h
    exact outside_after_join hd fun g hg => (hw g hg).closed
  · exact exists_split?

/-- Segments that split stay apart at a delimiter between them. -/
theorem split?_join (hd : d ≠ '"') {s t : Text} {gs hs : List Text} (hg : split? d s = .ok gs)
    (hh : split? d t = .ok hs) : split? d (s ++ d :: t) = .ok (gs ++ hs) := by
  obtain ⟨hgne, rfl, hgw⟩ := (split?_eq_ok_iff hd).1 hg
  obtain ⟨hhne, rfl, hhw⟩ := (split?_eq_ok_iff hd).1 hh
  refine (split?_eq_ok_iff hd).2 ⟨by simp [hgne], ?_, ?_⟩
  · clear hg hgw
    induction gs with
    | nil => exact absurd rfl hgne
    | cons g gs ih =>
      by_cases hgs : gs = []
      · subst hgs
        simp [Text.join_cons g hhne, Text.join]
      · rw [List.cons_append, Text.join_cons g (by simp [hgs]), Text.join_cons g hgs, ih hgs]
        simp
  · intro g hg
    rcases List.mem_append.1 hg with hg | hg
    · exact hgw g hg
    · exact hhw g hg

/-- Texts whose quotes close split into no fewer segments than there are, and
into as many only when they are whole. -/
theorem split?_join_closed (hd : d ≠ '"') {ts : List Text} (hne : ts ≠ [])
    (h : ∀ t ∈ ts, Mode.outside.after t = .outside) :
    ∃ gs, split? d (Text.join [d] ts) = .ok gs ∧ ts.length ≤ gs.length ∧
      (gs.length = ts.length → ∀ t ∈ ts, Whole (· == d) t) := by
  induction ts with
  | nil => exact absurd rfl hne
  | cons t ts ih =>
    obtain ⟨gs, hgs⟩ := (exists_split?_iff hd).2 (h t (by simp))
    obtain ⟨hgne, hj, hw⟩ := (split?_eq_ok_iff hd).1 hgs
    have pos : 0 < gs.length := List.length_pos_iff.2 hgne
    have one : gs.length = 1 → Whole (· == d) t := by
      intro hl
      obtain ⟨g, rfl⟩ := List.length_eq_one_iff.1 hl
      rw [← hj]
      exact hw g (by simp)
    by_cases hts : ts = []
    · subst hts
      refine ⟨gs, hgs, pos, fun hl => ?_⟩
      simpa using one hl
    · obtain ⟨hs, hhs, hle, hall⟩ := ih hts fun t' ht' => h t' (by simp [ht'])
      refine ⟨gs ++ hs, ?_, ?_, fun hl => ?_⟩
      · rw [Text.join_cons t hts, List.append_assoc, List.singleton_append]
        exact split?_join hd hgs hhs
      · simp only [List.length_append, List.length_cons]
        omega
      · simp only [List.length_append, List.length_cons] at hl
        intro t' ht'
        rcases List.mem_cons.1 ht' with rfl | ht'
        · exact one (by omega)
        · exact hall (by omega) t' ht'

end MessageHead.Quoted
