/-
Facts about cutting, joining and trimming texts. `trim_append` is the one
later modules lean on: whatever blanks surround a trimmed text, trimming
gives it back.
-/
import MessageHead.Text.Blank

namespace MessageHead.Text

/-- What is asked of every character in a text is checked by going through the
text, not through all characters. -/
instance decidableForallMem (p : Char → Prop) [DecidablePred p] (s : Text) : Decidable (∀ c ∈ s, p c) :=
  List.decidableBAll p s

/-! ## Trimming -/

/-- No blank at either end. -/
def Trimmed (s : Text) : Prop :=
  (∀ c ∈ s.head?, isBlank c = false) ∧ ∀ c ∈ s.getLast?, isBlank c = false

instance (s : Text) : Decidable (Trimmed s) :=
  @instDecidableAnd (∀ c ∈ s.head?, isBlank c = false) (∀ c ∈ s.getLast?, isBlank c = false)
    s.head?.decidableForallMem s.getLast?.decidableForallMem

/-- No blank in front. -/
def Flush (s : Text) : Prop := ∀ c ∈ s.head?, isBlank c = false

instance (s : Text) : Decidable (Flush s) := s.head?.decidableForallMem

/-- Nothing but blanks. -/
def Blank (s : Text) : Prop := ∀ c ∈ s, isBlank c = true

instance (s : Text) : Decidable (Blank s) := inferInstanceAs (Decidable (∀ c ∈ s, isBlank c = true))

theorem Blank.nil : Blank [] := by simp [Blank]

theorem Trimmed.head {c : Char} {s : Text} (h : Trimmed (c :: s)) : isBlank c = false := h.1 c rfl

/-- A nonempty text trimmed in front and another trimmed at its end make a
trimmed text, whatever stands between. -/
theorem Trimmed.surround {a b : Text} (ha : Trimmed a) (hb : Trimmed b) (hane : a ≠ []) (hbne : b ≠ [])
    (m : Text) : Trimmed (a ++ m ++ b) := by
  refine ⟨fun c hc => ha.1 c ?_, fun c hc => hb.2 c ?_⟩
  · cases a with
    | nil => exact absurd rfl hane
    | cons d a => simpa using hc
  · rw [List.getLast?_append, List.getLast?_eq_some_getLast hbne] at hc
    rw [List.getLast?_eq_some_getLast hbne]
    exact hc

theorem dropWhile_eq_self {p : Char → Bool} {s : Text} (h : ∀ c ∈ s.head?, p c = false) :
    s.dropWhile p = s := by
  cases s with
  | nil => rfl
  | cons c s => rw [List.dropWhile_cons_of_neg]; simpa using h c rfl

/-- **Blanks around a trimmed text are what trimming takes away.** -/
theorem trim_append {a s b : Text} (ha : Blank a) (hs : Trimmed s) (hb : Blank b) :
    trim (a ++ s ++ b) = s := by
  unfold trim trimWhere trimEndWhere
  rw [List.append_assoc, List.dropWhile_append_of_pos ha]
  cases s with
  | nil =>
    have hb : (b ++ []).dropWhile isBlank = [] := List.dropWhile_append_of_pos hb
    rw [List.append_nil] at hb
    simp [hb]
  | cons c s =>
    rw [List.cons_append, List.dropWhile_cons_of_neg (by simpa using hs.head), ← List.cons_append,
      List.reverse_append, List.dropWhile_append_of_pos (fun c hc => hb c (by simpa using hc)),
      dropWhile_eq_self (fun d hd => hs.2 d (by rw [List.head?_reverse] at hd; exact hd)),
      List.reverse_reverse]

theorem trim_blank_append {a : Text} (ha : Blank a) (s : Text) : trim (a ++ s) = trim s := by
  unfold trim trimWhere
  rw [List.dropWhile_append_of_pos ha]

theorem exists_trim (s : Text) : ∃ a b, Blank a ∧ Blank b ∧ s = a ++ trim s ++ b := by
  refine ⟨s.takeWhile isBlank, ((s.dropWhile isBlank).reverse.takeWhile isBlank).reverse, ?_, ?_, ?_⟩
  · exact fun c hc => List.all_eq_true.1 List.all_takeWhile c hc
  · exact fun c hc => List.all_eq_true.1 List.all_takeWhile c (List.mem_reverse.1 hc)
  · have h := List.takeWhile_append_dropWhile (p := isBlank) (l := (s.dropWhile isBlank).reverse)
    have h' := congrArg List.reverse h
    rw [List.reverse_append, List.reverse_reverse] at h'
    unfold trim trimWhere trimEndWhere
    rw [List.append_assoc, h', List.takeWhile_append_dropWhile]

theorem trimmed_trim (s : Text) : Trimmed (trim s) := by
  unfold trim trimWhere trimEndWhere
  refine ⟨fun c hc => ?_, fun c hc => ?_⟩
  · generalize ht : s.dropWhile isBlank = t at hc
    have hh : ∀ c ∈ t.head?, isBlank c = false := by
      intro d hd
      have := List.head?_dropWhile_not isBlank s
      rw [ht, hd] at this
      simpa using this
    obtain ⟨u, hu⟩ := List.dropWhile_suffix isBlank (l := t.reverse)
    have hpre : t = (t.reverse.dropWhile isBlank).reverse ++ u.reverse := by
      rw [← List.reverse_append, hu, List.reverse_reverse]
    refine hh c ?_
    rw [hpre, List.head?_append, hc]
    rfl
  · rw [List.getLast?_reverse] at hc
    have := List.head?_dropWhile_not isBlank (s.dropWhile isBlank).reverse
    rw [hc] at this
    simpa using this

theorem trim_eq_self {s : Text} (h : Trimmed s) : trim s = s := by
  have := trim_append Blank.nil h Blank.nil
  simpa using this

theorem trim_eq_self_iff {s : Text} : trim s = s ↔ Trimmed s :=
  ⟨fun h => h ▸ trimmed_trim s, trim_eq_self⟩

theorem count_trim {c : Char} (hc : isBlank c = false) (s : Text) : (trim s).count c = s.count c := by
  obtain ⟨a, b, ha, hb, hs⟩ := exists_trim s
  have none_of : ∀ {w : Text}, Blank w → w.count c = 0 := fun hw => by
    rw [List.count_eq_zero]
    intro hm
    rw [hw c hm] at hc
    exact absurd hc (by simp)
  conv => rhs; rw [hs]
  simp [none_of ha, none_of hb]

theorem trim_append_blank {b : Text} (hb : Blank b) (s : Text) : trim (s ++ b) = trim s := by
  obtain ⟨x, y, hx, hy, hs⟩ := exists_trim s
  have hyb : Blank (y ++ b) := fun c hc => (List.mem_append.1 hc).elim (hy c) (hb c)
  conv => lhs; rw [hs, List.append_assoc]
  exact trim_append hx (trimmed_trim s) hyb

/-- What begins with no blank begins as it did. -/
theorem head?_trim {s : Text} (h : Flush s) : (trim s).head? = s.head? := by
  obtain ⟨a, b, ha, hb, hs⟩ := exists_trim s
  have front : a = [] := by
    cases a with
    | nil => rfl
    | cons c a => exact absurd (ha c (by simp)) (by rw [h c (by rw [hs]; rfl)]; decide)
  rw [front, List.nil_append] at hs
  cases ht : trim s with
  | nil =>
    rw [ht, List.nil_append] at hs
    cases b with
    | nil => rw [hs]
    | cons c b => exact absurd (hb c (by simp)) (by rw [h c (by rw [hs]; rfl)]; decide)
  | cons c t => rw [hs, ht, List.cons_append, List.head?_cons, List.head?_cons]

theorem mem_of_mem_trim {c : Char} {s : Text} (h : c ∈ trim s) : c ∈ s := by
  obtain ⟨a, b, _, _, hs⟩ := exists_trim s
  rw [hs]
  simp [h]

/-- Blanks at the end of what follows a name go with those at the end of its value. -/
theorem trim_pair {f n : Text} (hf : Blank f) (hne : n ≠ []) (hn : Trimmed n) (r : Text) :
    ∃ r', trim (f ++ n ++ '=' :: r) = n ++ '=' :: r' ∧ trim r' = trim r := by
  obtain ⟨a, b, ha, hb, hr⟩ := exists_trim r
  by_cases ht : trim r = []
  · have hs : Trimmed (n ++ [] ++ ['=']) := hn.surround (by decide) hne (by simp) _
    have htrim := trim_append hf hs (b := a ++ b) fun c hc => (List.mem_append.1 hc).elim (ha c) (hb c)
    refine ⟨[], ?_, by rw [ht]; rfl⟩
    rw [ht] at hr
    rw [hr]
    simpa using htrim
  · have hs : Trimmed (n ++ '=' :: a ++ trim r) := hn.surround (trimmed_trim r) hne ht _
    have htrim := trim_append hf hs hb
    refine ⟨a ++ trim r, ?_, ?_⟩
    · conv => lhs; rw [hr]
      simpa using htrim
    · have := trim_append ha (trimmed_trim r) Blank.nil
      rwa [List.append_nil] at this

/-! ## Visible characters -/

/-- A character of ASCII that is printed and no blank. -/
def Visible (c : Char) : Prop := 0x21 ≤ c.toNat ∧ c.toNat ≤ 0x7E

instance (c : Char) : Decidable (Visible c) := inferInstanceAs (Decidable (_ ∧ _))

theorem Visible.not_blank {c : Char} (h : Visible c) : isBlank c = false := by
  unfold Visible at h
  unfold isBlank
  simp only [Bool.or_eq_false_iff, Bool.and_eq_false_iff, decide_eq_false_iff_not, beq_eq_false_iff_ne]
  omega

theorem Trimmed.of_visible {s : Text} (h : ∀ c ∈ s, Visible c) : Trimmed s :=
  ⟨fun c hc => (h c (List.mem_of_mem_head? hc)).not_blank,
    fun c hc => (h c (List.mem_of_mem_getLast? hc)).not_blank⟩

/-! ## ASCII case -/

theorem toNat_toLower (c : Char) :
    c.toLower.toNat = if 65 ≤ c.toNat ∧ c.toNat ≤ 90 then c.toNat + 32 else c.toNat := by
  unfold Char.toLower
  split
  · rename_i h
    simp only [UInt32.le_iff_toNat_le, seval] at h
    show (c.val + 32).toNat = if 65 ≤ c.val.toNat ∧ c.val.toNat ≤ 90 then c.val.toNat + 32 else c.val.toNat
    rw [if_pos h]
    simp only [UInt32.toNat_add, seval]
    rw [Nat.mod_eq_of_lt (by omega)]
  · rename_i h
    simp only [UInt32.le_iff_toNat_le, seval] at h
    exact (if_neg h).symm

theorem toLower_eq_iff {c d : Char} (hd : d.isAlpha = false) : c.toLower = d ↔ c = d := by
  have hd : (decide (65 ≤ d.val ∧ d.val ≤ 90) || (97 ≤ d.val && d.val ≤ 122)) = false := hd
  simp only [Bool.or_eq_false_iff, Bool.and_eq_false_iff, decide_eq_false_iff_not, UInt32.le_iff_toNat_le,
    seval] at hd
  have hupper : ¬(65 ≤ d.toNat ∧ d.toNat ≤ 90) := hd.1
  have hlower : ¬97 ≤ d.toNat ∨ ¬d.toNat ≤ 122 := hd.2
  rw [← Char.toNat_inj, toNat_toLower, ← Char.toNat_inj]
  split <;> omega

theorem toLower_toLower (c : Char) : c.toLower.toLower = c.toLower := by
  rw [← Char.toNat_inj, toNat_toLower, toNat_toLower]
  split
  · split <;> omega
  · rfl

theorem isBlank_toLower (c : Char) : isBlank c.toLower = isBlank c := by
  rw [Bool.eq_iff_iff]
  unfold isBlank
  simp only [toNat_toLower, Bool.or_eq_true, Bool.and_eq_true, decide_eq_true_eq, beq_iff_eq]
  split
  · omega
  · rfl

theorem lower_lower (s : Text) : lower (lower s) = lower s := by
  unfold lower
  rw [List.map_map]
  exact List.map_congr_left fun c _ => toLower_toLower c

theorem lower_dropWhile {p : Char → Bool} (h : ∀ c, p c.toLower = p c) (s : Text) :
    lower (s.dropWhile p) = (lower s).dropWhile p := by
  unfold lower
  rw [List.dropWhile_map]
  have hp : p ∘ Char.toLower = p := funext h
  rw [hp]

theorem lower_reverse (s : Text) : lower s.reverse = (lower s).reverse := List.map_reverse

theorem lower_trim (s : Text) : lower (trim s) = trim (lower s) := by
  unfold trim trimWhere trimEndWhere
  rw [lower_reverse, lower_dropWhile isBlank_toLower, lower_reverse, lower_dropWhile isBlank_toLower]

theorem count_lower {c : Char} (hc : c.isAlpha = false) (s : Text) : (lower s).count c = s.count c := by
  induction s with
  | nil => rfl
  | cons d s ih =>
    have ih : (s.map Char.toLower).count c = s.count c := ih
    simp only [lower, List.map_cons, List.count_cons, ih, beq_iff_eq, toLower_eq_iff hc]

/-! ## Cutting -/

theorem cut_append {c : Char} {a : Text} (h : c ∉ a) (b : Text) : cut c (a ++ c :: b) = some (a, b) := by
  induction a with
  | nil => simp [cut, cutAt]
  | cons d a ih =>
    simp only [List.mem_cons, not_or] at h
    have hd : (d == c) = false := by simpa using Ne.symm h.1
    have := ih h.2
    simp only [cut] at this
    simp [cut, cutAt, hd, this]

theorem cut_eq_none {c : Char} {s : Text} (h : c ∉ s) : cut c s = none := by
  induction s with
  | nil => rfl
  | cons d s ih =>
    simp only [List.mem_cons, not_or] at h
    have hd : (d == c) = false := by simpa using Ne.symm h.1
    have := ih h.2
    simp only [cut] at this
    simp [cut, cutAt, hd, this]

/-- A text without the separator, or cut at its first one. -/
theorem cut_cases (c : Char) (s : Text) :
    (c ∉ s ∧ cut c s = none) ∨ ∃ a b, s = a ++ c :: b ∧ c ∉ a ∧ cut c s = some (a, b) := by
  by_cases h : c ∈ s
  · obtain ⟨a, b, hs, ha⟩ := List.eq_append_cons_of_mem h
    exact .inr ⟨a, b, hs, ha, hs ▸ cut_append ha b⟩
  · exact .inl ⟨h, cut_eq_none h⟩

theorem cut_eq_some_iff {c : Char} {s a b : Text} : cut c s = some (a, b) ↔ s = a ++ c :: b ∧ c ∉ a := by
  constructor
  · intro h
    rcases cut_cases c s with ⟨-, hn⟩ | ⟨a', b', hs, ha, hc⟩
    · cases hn.symm.trans h
    · cases hc.symm.trans h
      exact ⟨hs, ha⟩
  · rintro ⟨rfl, ha⟩
    exact cut_append ha b

theorem afterLast_eq_none {c : Char} {s : Text} (h : c ∉ s) : afterLast c s = none := by
  induction s with
  | nil => rfl
  | cons d s ih =>
    simp only [List.mem_cons, not_or] at h
    have hd : (d == c) = false := by simpa using Ne.symm h.1
    simp [afterLast, ih h.2, hd]

theorem afterLast_append {c : Char} {b : Text} (h : c ∉ b) (a : Text) : afterLast c (a ++ c :: b) = some b := by
  induction a with
  | nil => simp [afterLast, afterLast_eq_none h]
  | cons d a ih => simp [afterLast, ih]

theorem pieces_of_not_mem {c : Char} {s : Text} (h : c ∉ s) : pieces c s = [s] := by
  induction s with
  | nil => rfl
  | cons d s ih =>
    simp only [List.mem_cons, not_or] at h
    have hd : (d == c) = false := by simpa using Ne.symm h.1
    simp [pieces, hd, ih h.2]

theorem pieces_append {c : Char} {a : Text} (h : c ∉ a) (b : Text) : pieces c (a ++ c :: b) = a :: pieces c b := by
  induction a with
  | nil => simp [pieces]
  | cons d a ih =>
    simp only [List.mem_cons, not_or] at h
    have hd : (d == c) = false := by simpa using Ne.symm h.1
    simp [pieces, hd, ih h.2]

theorem dropLead?_append (lead s : Text) : dropLead? lead (lead ++ s) = some s := by
  induction lead with
  | nil => rfl
  | cons c lead ih => simp [dropLead?, ih]

theorem dropLead?_eq_some_iff {lead s t : Text} : dropLead? lead s = some t ↔ s = lead ++ t := by
  constructor
  · intro h
    fun_induction dropLead? lead s with
    | case1 => simpa using h
    | case2 c lead d s hcd ih => rw [beq_iff_eq.1 hcd, ih h, List.cons_append]
    | case3 => cases h
    | case4 => cases h
  · rintro rfl
    exact dropLead?_append lead t

theorem dropTail?_append (tail s : Text) : dropTail? tail (s ++ tail) = some s := by
  rw [dropTail?, List.reverse_append, dropLead?_append, Option.map_some, List.reverse_reverse]

theorem dropTail?_eq_some_iff {tail s t : Text} : dropTail? tail s = some t ↔ s = t ++ tail := by
  constructor
  · intro h
    obtain ⟨u, hu, rfl⟩ := Option.map_eq_some_iff.1 h
    rw [← List.reverse_reverse s, dropLead?_eq_some_iff.1 hu, List.reverse_append, List.reverse_reverse]
  · rintro rfl
    exact dropTail?_append tail t

/-! ## Joining -/

theorem join_cons {sep : Text} (part : Text) {parts : List Text} (h : parts ≠ []) :
    join sep (part :: parts) = part ++ sep ++ join sep parts := by
  cases parts with
  | nil => exact absurd rfl h
  | cons _ _ => rfl

theorem join_eq_flatMap (sep part : Text) (parts : List Text) :
    join sep (part :: parts) = part ++ parts.flatMap (sep ++ ·) := by
  induction parts generalizing part with
  | nil => simp [join]
  | cons next parts ih =>
    rw [join_cons _ (by simp), ih next]
    simp

theorem count_join (c : Char) {parts : List Text} (h : parts ≠ []) :
    (join [c] parts).count c + 1 = parts.length + parts.flatten.count c := by
  induction parts with
  | nil => exact absurd rfl h
  | cons part parts ih =>
    by_cases hp : parts = []
    · subst hp
      simp only [join, List.length_cons, List.length_nil, List.flatten_cons, List.flatten_nil,
        List.append_nil]
      omega
    · have ih := ih hp
      rw [join_cons part hp]
      simp only [List.count_append, List.count_cons_self, List.count_nil, List.length_cons, List.flatten_cons]
      omega

/-- Joined texts whose parts hold equally many separators, part by part, have
the same parts. -/
theorem join_inj {c : Char} : ∀ {ps qs : List Text}, ps.map (·.count c) = qs.map (·.count c) →
    join [c] ps = join [c] qs → ps = qs
  | [], [], _, _ => rfl
  | [], _ :: _, h, _ => by simp at h
  | _ :: _, [], h, _ => by simp at h
  | p :: ps, q :: qs, h, hj => by
    simp only [List.map_cons, List.cons.injEq] at h
    obtain ⟨hc, hr⟩ := h
    have hnil : ps = [] ↔ qs = [] := by
      have := congrArg List.length hr
      simp only [List.length_map] at this
      rw [← List.length_eq_zero_iff, ← List.length_eq_zero_iff, this]
    by_cases hps : ps = []
    · have hqs := hnil.1 hps
      subst hps hqs
      simpa [join] using hj
    · have hqs : qs ≠ [] := fun e => hps (hnil.2 e)
      rw [join_cons p hps, join_cons q hqs, List.append_assoc, List.append_assoc] at hj
      -- A longer first part would hold the separator behind the shorter one.
      have hpq : p = q := by
        rcases List.append_eq_append_iff.1 hj with ⟨x, hx, hy⟩ | ⟨x, hx, hy⟩
        · cases x with
          | nil => simpa using hx.symm
          | cons d x =>
            simp only [List.cons_append, List.nil_append, List.cons.injEq] at hy
            rw [hx, ← hy.1] at hc
            simp at hc
        · cases x with
          | nil => simpa using hx
          | cons d x =>
            simp only [List.cons_append, List.nil_append, List.cons.injEq] at hy
            rw [hx, ← hy.1] at hc
            simp at hc
      subst hpq
      have hrest : join [c] ps = join [c] qs := by
        have := List.append_cancel_left hj
        simpa using this
      rw [join_inj hr hrest]

end MessageHead.Text
