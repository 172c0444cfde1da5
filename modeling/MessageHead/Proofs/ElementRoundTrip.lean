/-
Elements written out and read back. `Written` lists every way of writing a
list of elements that the grammar of `MessageHead.Element.Parser` allows
around its names and values: spacing anywhere between the parts, values in
quotes or bare. `Element.renderAll` is one of them, without spacing and with
every value in quotes.

All of them read back as the same list, and whatever was read can be written
out and read again. Names are where care is needed: a name that was read may
hold quotes with delimiters in them (`Token`), so the second half asks less of
names than the first.
-/
import MessageHead.Element.Window
import MessageHead.Proofs.ByteOffsets
import MessageHead.Proofs.QuotedReaders

namespace MessageHead.Element

open Quoted (Whole Mode)

/-! ## Writing -/

/-- A pair, its value in quotes. -/
def renderPair (p : Parameter) : Text :=
  p.name ++ match p.value with
    | some v => '=' :: Escape.quote v
    | none => []

/-- The name of an element with its value. -/
def head (e : Element) : Parameter := ⟨e.name, e.value⟩

/-- An element: its pairs with semicolons between them. -/
def render (e : Element) : Text := Text.join [';'] ((e.head :: e.parameters).map renderPair)

/-- A list of elements with commas between them. -/
def renderAll (es : List Element) : Text := Text.join [','] (es.map render)

/-! ## Every way of writing -/

/-- Any amount of spacing. -/
def Spacing (s : Text) : Prop := ∀ c ∈ s, isSpacing c = true

instance (s : Text) : Decidable (Spacing s) := inferInstanceAs (Decidable (∀ c ∈ s, isSpacing c = true))

/-- A value that may stand without quotes. -/
structure Bare (v : Text) : Prop where
  trimmed : Text.Trimmed v
  plain : ∀ c ∈ v, c ≠ '"' ∧ c ≠ ';' ∧ c ≠ ','

/-- A value between the spacing around it. -/
inductive WrittenValue (v : Text) : Text → Prop
  | quoted {a b : Text} : Spacing a → Spacing b → WrittenValue v (a ++ Escape.quote v ++ b)
  | bare {a b : Text} : Bare v → Spacing a → Spacing b → WrittenValue v (a ++ v ++ b)

/-- A pair between the spacing around it. -/
inductive WrittenPair : Parameter → Text → Prop
  | name {n a b : Text} : Spacing a → Spacing b → WrittenPair ⟨n, none⟩ (a ++ n ++ b)
  | value {n v a b s : Text} : Spacing a → Spacing b → WrittenValue v s →
      WrittenPair ⟨n, some v⟩ (a ++ n ++ b ++ '=' :: s)

/-- Pairs with semicolons between them. -/
inductive WrittenPairs : List Parameter → Text → Prop
  | one {p : Parameter} {s : Text} : WrittenPair p s → WrittenPairs [p] s
  | more {p : Parameter} {ps : List Parameter} {s t : Text} : WrittenPair p s → WrittenPairs ps t →
      WrittenPairs (p :: ps) (s ++ ';' :: t)

/-- Elements with commas between them. -/
inductive Written : List Element → Text → Prop
  | one {e : Element} {s : Text} : WrittenPairs (e.head :: e.parameters) s → Written [e] s
  | more {e : Element} {es : List Element} {s t : Text} : WrittenPairs (e.head :: e.parameters) s →
      Written es t → Written (e :: es) (s ++ ',' :: t)

theorem Spacing.nil : Spacing [] := by simp [Spacing]

theorem isBlank_of_isSpacing {c : Char} (h : isSpacing c = true) : isBlank c = true := by
  simp only [isSpacing, Bool.or_eq_true, beq_iff_eq] at h
  rcases h with ((rfl | rfl) | rfl) | rfl <;> decide

theorem Spacing.blank {s : Text} (h : Spacing s) : Text.Blank s := fun c hc => isBlank_of_isSpacing (h c hc)

theorem Spacing.append {a b : Text} (ha : Spacing a) (hb : Spacing b) : Spacing (a ++ b) := by
  intro c hc
  rcases List.mem_append.1 hc with hc | hc
  · exact ha c hc
  · exact hb c hc

theorem spacing_takeWhile (s : Text) : Spacing (s.takeWhile isSpacing) :=
  fun c hc => List.all_eq_true.1 List.all_takeWhile c hc

theorem writtenPair_renderPair (p : Parameter) : WrittenPair p (renderPair p) := by
  obtain ⟨n, v⟩ := p
  cases v with
  | none => simpa [renderPair] using WrittenPair.name (n := n) Spacing.nil Spacing.nil
  | some v =>
    have := WrittenPair.value (n := n) Spacing.nil Spacing.nil
      (WrittenValue.quoted (v := v) Spacing.nil Spacing.nil)
    simpa [renderPair] using this

theorem writtenPairs_render : ∀ (p : Parameter) (ps : List Parameter),
    WrittenPairs (p :: ps) (Text.join [';'] ((p :: ps).map renderPair))
  | p, [] => .one (writtenPair_renderPair p)
  | p, q :: ps => by
    rw [List.map_cons, Text.join_cons _ (by simp), List.append_assoc, List.singleton_append]
    exact .more (writtenPair_renderPair p) (writtenPairs_render q ps)

theorem written_renderAll : ∀ {es : List Element}, es ≠ [] → Written es (renderAll es)
  | [], h => absurd rfl h
  | [e], _ => .one (writtenPairs_render _ _)
  | e :: f :: es, _ => by
    rw [renderAll, List.map_cons, Text.join_cons _ (by simp), List.append_assoc, List.singleton_append]
    have rest : Written (f :: es) (renderAll (f :: es)) := written_renderAll (by simp)
    exact .more (writtenPairs_render _ _) rest

/-! ## Tokens -/

/-- A name as it is read: no blank at its ends, and no delimiter outside
quotes that close. -/
structure Token (n : Text) : Prop where
  trimmed : Text.Trimmed n
  whole : Whole endsName n

theorem Token.whole_semicolon {n : Text} (h : Token n) : Whole (· == ';') n :=
  h.whole.mono fun c hc => by rw [beq_iff_eq.1 hc]; rfl

theorem endsValue_name {c : Char} (h : endsValue c = true) : endsName c = true := by
  simp only [endsValue, endsName, Bool.or_eq_true] at h ⊢
  rcases h with h | h
  · exact .inl (.inr h)
  · exact .inr h

theorem StopsAt.nil {stop : Char → Bool} : StopsAt stop [] := by simp [StopsAt]

theorem StopsAt.cons {stop : Char → Bool} {c : Char} (h : stop c = true) (s : Text) :
    StopsAt stop (c :: s) := by
  simp [StopsAt, h]

theorem StopsAt.mono {stop stop' : Char → Bool} {s : Text} (hstop : ∀ c, stop c = true → stop' c = true)
    (h : StopsAt stop s) : StopsAt stop' s :=
  fun c hc => hstop c (h c hc)

/-- A text in front of a stop begins with a stop or goes on to one. -/
theorem StopsAt.of_append {stop : Char → Bool} {used rest t : Text} (h : StopsAt stop (used ++ rest))
    (ht : StopsAt stop t) : StopsAt stop (used ++ t) := by
  cases used with
  | nil => exact ht
  | cons c used => exact h

theorem StopsAt.append {stop : Char → Bool} {s t : Text} (hs : StopsAt stop s) (ht : StopsAt stop t) :
    StopsAt stop (s ++ t) := by
  rw [← List.append_nil s] at hs
  exact hs.of_append ht

theorem StopsAt.name {s : Text} (h : StopsAt endsValue s) : StopsAt endsName s := h.mono fun _ => endsValue_name

theorem readRaw_quote {stop : Char → Bool} (hq : ¬stop '"' = true) {s quoted rest : Text}
    (h : Quoted.skip? s = some (quoted, rest)) :
    readRaw stop ('"' :: s) = (readRaw stop rest).map fun (raw, rest) => ('"' :: quoted ++ raw, rest) := by
  rw [readRaw, if_neg hq]
  simp only [beq_self_eq_true, if_true]
  split
  · rename_i hx
    rw [h] at hx
    cases hx
  · rename_i quoted' rest' hx
    rw [h] at hx
    cases hx
    rfl

theorem readRaw_quote_none {stop : Char → Bool} (hq : ¬stop '"' = true) {s : Text}
    (h : Quoted.skip? s = none) :
    readRaw stop ('"' :: s) = .error (.unterminatedQuote ('"' :: s)) := by
  rw [readRaw, if_neg hq]
  simp only [beq_self_eq_true, if_true]
  split
  · rfl
  · rename_i quoted' rest' hx
    rw [h] at hx
    cases hx

theorem readRaw_append {stop : Char → Bool} {s t : Text} (h : Whole stop s) (ht : StopsAt stop t) :
    readRaw stop (s ++ t) = .ok (s, t) := by
  induction hn : s.length using Nat.strongRecOn generalizing s with
  | ind n ih =>
    cases s with
    | nil =>
      cases t with
      | nil => rw [List.append_nil, readRaw]
      | cons c t => rw [List.nil_append, readRaw, if_pos (ht c rfl)]
    | cons c s =>
      have hc : ¬stop c = true := by rw [h.clear.1 rfl]; simp
      rw [List.cons_append]
      by_cases hq : c = '"'
      · subst hq
        obtain ⟨raw, rest, hs, rfl, hr⟩ := h.skip?
        rw [readRaw_quote hc (Quoted.skip?_append hs t), ih rest.length (by simp at hn; omega) hr rfl]
        simp [Except.map]
      · rw [readRaw, if_neg hc]
        simp only [beq_iff_eq, hq, if_false]
        rw [ih s.length (by simp at hn; omega) (h.tail hq) rfl]
        rfl

/-- What was read up to a stop is whole. -/
theorem whole_of_readRaw {stop : Char → Bool} (hstop : stop '"' = false) {s raw rest : Text}
    (h : readRaw stop s = .ok (raw, rest)) : Whole stop raw := by
  fun_induction readRaw stop s generalizing raw rest with
  | case1 =>
    simp only [Except.ok.injEq, Prod.mk.injEq] at h
    rw [← h.1]
    exact .nil
  | case2 =>
    simp only [Except.ok.injEq, Prod.mk.injEq] at h
    rw [← h.1]
    exact .nil
  | case3 => simp at h
  | case4 c s _ hc quoted rest' hs ih =>
    obtain ⟨⟨raw', rest''⟩, h', he⟩ := map_eq_ok.1 h
    simp only [Prod.mk.injEq] at he
    obtain ⟨rfl, rfl⟩ := he
    have hcq : c = '"' := by simpa using hc
    subst hcq
    obtain ⟨-, hw⟩ := Quoted.skip?_eq_some_iff.1 hs
    exact Whole.of_skip? hstop (Quoted.skip?_eq_some_iff.2 ⟨rfl, hw⟩) (ih h')
  | case5 c s hs hc ih =>
    obtain ⟨⟨raw', rest''⟩, h', he⟩ := map_eq_ok.1 h
    simp only [Prod.mk.injEq] at he
    obtain ⟨rfl, rfl⟩ := he
    exact (ih h').cons (by simpa using hc) (by simpa using hs)

theorem token_of_readToken {s n rest : Text} (h : readToken endsName s = .ok (n, rest)) : Token n := by
  obtain ⟨⟨raw, rest'⟩, h', he⟩ := map_eq_ok.1 h
  simp only [Prod.mk.injEq] at he
  obtain ⟨rfl, -⟩ := he
  exact ⟨Text.trimmed_trim raw, (whole_of_readRaw (by decide) h').trim⟩

/-- **A token is read from between the blanks around it**, up to what ends it. -/
theorem readToken_append {stop : Char → Bool} {a n b t : Text}
    (hstop : ∀ c, isBlank c = true → stop c = false)
    (ha : Text.Blank a) (hn : Text.Trimmed n) (hw : Whole stop n) (hb : Text.Blank b) (ht : StopsAt stop t) :
    readToken stop (a ++ n ++ b ++ t) = .ok (n, t) := by
  have blank : ∀ {w : Text}, Text.Blank w → Whole stop w := fun hw' =>
    .of_not_mem (fun hm => absurd (hw' _ hm) (by decide)) fun c hc => hstop c (hw' c hc)
  rw [readToken, readRaw_append ((blank ha |>.append hw).append (blank hb)) ht]
  simp only [Except.map, Text.trim_append ha hn hb]

theorem not_endsName_of_isBlank (c : Char) (h : isBlank c = true) : endsName c = false := by
  cases he : endsName c with
  | false => rfl
  | true =>
    simp only [endsName, Bool.or_eq_true, beq_iff_eq] at he
    rcases he with (rfl | rfl) | rfl <;> exact absurd h (by decide)

theorem not_endsValue_of_isBlank (c : Char) (h : isBlank c = true) : endsValue c = false := by
  cases he : endsValue c with
  | false => rfl
  | true =>
    have := endsValue_name he
    rw [not_endsName_of_isBlank c h] at this
    exact absurd this (by simp)

/-! ## Values -/

theorem dropWhile_spacing {a t : Text} (ha : Spacing a) (ht : ∀ c ∈ t.head?, isSpacing c = false) :
    (a ++ t).dropWhile isSpacing = t := by
  rw [List.dropWhile_append_of_pos ha]
  exact Text.dropWhile_eq_self ht

/-- Neither spacing nor a quote: what a bare value begins with. -/
def startsBare (c : Char) : Bool := !isSpacing c && c != '"'

theorem startsBare_of_not_isBlank {c : Char} (hb : isBlank c = false) (hq : c ≠ '"') : startsBare c = true := by
  cases hs : isSpacing c with
  | false => simp [startsBare, hs, hq]
  | true =>
    rw [isBlank_of_isSpacing hs] at hb
    cases hb

theorem StopsAt.not_spacing {t : Text} (ht : StopsAt startsBare t) : ∀ c ∈ t.head?, isSpacing c = false :=
  fun c hc => by simpa using (Bool.and_eq_true_iff.1 (ht c hc)).1

theorem StopsAt.bare {t : Text} (ht : StopsAt endsValue t) : StopsAt startsBare t :=
  ht.mono fun c hc => by
    simp only [endsValue, Bool.or_eq_true, beq_iff_eq] at hc
    rcases hc with rfl | rfl <;> rfl

/-- Behind its spacing a value stands in quotes or is bare. -/
theorem exists_spacing (s : Text) :
    ∃ a, Spacing a ∧ ((∃ body, s = a ++ '"' :: body) ∨ ∃ u, s = a ++ u ∧ StopsAt startsBare u) := by
  refine ⟨s.takeWhile isSpacing, spacing_takeWhile s, ?_⟩
  have hs := List.takeWhile_append_dropWhile (p := isSpacing) (l := s)
  have hnot := List.head?_dropWhile_not isSpacing s
  cases hd : s.dropWhile isSpacing with
  | nil => exact .inr ⟨[], by rw [← hd, hs], .nil⟩
  | cons c u =>
    by_cases hc : c = '"'
    · exact .inl ⟨u, by rw [← hc, ← hd, hs]⟩
    · rw [hd] at hnot
      exact .inr ⟨c :: u, by rw [← hd, hs], .cons (by simpa [startsBare, hc] using hnot) u⟩

theorem readValue_bare {a u : Text} (ha : Spacing a) (hu : StopsAt startsBare u) :
    readValue (a ++ u) = readToken endsValue u := by
  rw [readValue, dropWhile_spacing ha hu.not_spacing]
  split
  · exact absurd (hu '"' rfl) (by decide)
  · rfl

theorem readValue_quote {a body v rest : Text} (ha : Spacing a) (h : Quoted.read? body = some (v, rest)) :
    readValue (a ++ '"' :: body) = closeValue v rest := by
  rw [readValue, dropWhile_spacing ha (by simp [isSpacing])]
  simp only [h]

theorem readValue_quote_none {a body : Text} (ha : Spacing a) (h : Quoted.read? body = none) :
    readValue (a ++ '"' :: body) = .error (.unterminatedQuote ('"' :: body)) := by
  rw [readValue, dropWhile_spacing ha (by simp [isSpacing])]
  simp only [h]

theorem closeValue_spacing {b t : Text} (hb : Spacing b) (ht : StopsAt endsValue t) (v : Text) :
    closeValue v (b ++ t) = .ok (v, t) := by
  rw [closeValue, dropWhile_spacing hb ht.bare.not_spacing]
  cases t with
  | nil => rfl
  | cons c t => simp [ht c rfl]

theorem readValue_written_quoted {a b t : Text} (ha : Spacing a) (hb : Spacing b) (ht : StopsAt endsValue t)
    (v : Text) : readValue (a ++ Escape.quote v ++ b ++ t) = .ok (v, t) := by
  have hr := readValue_quote ha (Quoted.read?_encode v (b ++ t))
  rw [closeValue_spacing hb ht] at hr
  simpa [Escape.quote] using hr

theorem readValue_written_bare {a b t v : Text} (hv : Bare v) (ha : Spacing a) (hb : Spacing b)
    (ht : StopsAt endsValue t) : readValue (a ++ v ++ b ++ t) = .ok (v, t) := by
  have whole : Whole endsValue v :=
    .of_not_mem (fun hm => (hv.plain _ hm).1 rfl) fun c hc => by simp [endsValue, (hv.plain c hc).2]
  cases v with
  | nil =>
    -- Nothing is between the two runs of spacing, so both are dropped.
    rw [List.append_nil, readValue_bare (ha.append hb) ht.bare]
    simpa using readToken_append not_endsValue_of_isBlank .nil hv.trimmed whole .nil ht
  | cons c v =>
    have hc : startsBare c = true := startsBare_of_not_isBlank hv.trimmed.head (hv.plain c (by simp)).1
    rw [List.append_assoc, List.append_assoc, List.cons_append, readValue_bare ha (.cons hc _)]
    simpa using readToken_append not_endsValue_of_isBlank .nil hv.trimmed whole hb.blank ht

theorem readValue_written {v s t : Text} (h : WrittenValue v s) (ht : StopsAt endsValue t) :
    readValue (s ++ t) = .ok (v, t) := by
  cases h with
  | quoted ha hb => exact readValue_written_quoted ha hb ht v
  | bare hv ha hb => exact readValue_written_bare hv ha hb ht

/-! ## Pairs -/

theorem readPair_value {s n rest : Text} (h : readToken endsName s = .ok (n, '=' :: rest)) :
    readPair s = (readValue rest).map fun (v, rest) => (⟨n, some v⟩, rest) := by
  unfold readPair
  rw [h]
  rfl

theorem readPair_name {s n rest : Text} (h : readToken endsName s = .ok (n, rest))
    (hr : ∀ u, rest ≠ '=' :: u) :
    readPair s = .ok (⟨n, none⟩, rest) := by
  unfold readPair
  rw [h]
  cases rest with
  | nil => rfl
  | cons c rest =>
    have hc : c ≠ '=' := fun e => hr rest (by rw [e])
    split
    · rename_i he
      cases he
    · rename_i he
      cases he
      exact absurd rfl hc
    · rename_i he
      cases he
      rfl

theorem readPair_of_readValue {n a b s v rest : Text} (hn : Token n) (ha : Spacing a) (hb : Spacing b)
    (hv : readValue s = .ok (v, rest)) : readPair (a ++ n ++ b ++ '=' :: s) = .ok (⟨n, some v⟩, rest) := by
  have hr := readToken_append not_endsName_of_isBlank ha.blank hn.trimmed hn.whole hb.blank
    (.cons (c := '=') rfl s)
  rw [readPair_value hr, hv]
  rfl

/-- **A written pair reads back**, up to a delimiter or the end. -/
theorem readPair_written {p : Parameter} {s t : Text} (h : WrittenPair p s) (hn : Token p.name)
    (ht : StopsAt endsValue t) : readPair (s ++ t) = .ok (p, t) := by
  cases h with
  | @name n a b ha hb =>
    have hr := readToken_append not_endsName_of_isBlank ha.blank hn.trimmed hn.whole hb.blank ht.name
    refine readPair_name hr ?_
    rintro u rfl
    exact absurd (ht '=' rfl) (by decide)
  | @value n v a b s ha hb hv =>
    rw [List.append_assoc, List.cons_append]
    exact readPair_of_readValue hn ha hb (readValue_written hv ht)

/-! ## Elements -/

/-- The end of an element: the end of the text or a comma. -/
abbrev EndsElement (t : Text) : Prop := StopsAt (· == ',') t

theorem EndsElement.value {t : Text} (h : EndsElement t) : StopsAt endsValue t :=
  h.mono fun c hc => by rw [beq_iff_eq.1 hc]; rfl

/-- What holds of an element that was read: it says something, its names are
tokens, and those of its parameters are not empty. -/
structure Readable (e : Element) : Prop where
  name : Token e.name
  parameters : ∀ p ∈ e.parameters, p.name ≠ [] ∧ Token p.name
  notVoid : e.isVoid = false

theorem readParameters_nil {t : Text} (h : EndsElement t) : readParameters t = .ok ([], t) := by
  rw [readParameters]
  intro s he
  subst he
  exact absurd (h ';' rfl) (by decide)

theorem readParameters_of_readPair {p : Parameter} {s rest : Text} (h : readPair s = .ok (p, rest)) :
    readParameters (';' :: s) =
      (readParameters rest).map fun (ps, rest) => (if p.name.isEmpty then ps else p :: ps, rest) := by
  rw [readParameters]
  split
  · rename_i he
    rw [h] at he
    cases he
  · rename_i p' rest' he
    rw [h] at he
    cases he
    rfl

theorem readParameters_of_error {s : Text} {fault : Fault} (h : readPair s = .error fault) :
    readParameters (';' :: s) = .error fault := by
  rw [readParameters]
  split
  · rename_i he
    rw [h] at he
    cases he
    rfl
  · rename_i he
    rw [h] at he
    cases he

theorem readParameters_written {ps : List Parameter} {s t : Text} (h : WrittenPairs ps s)
    (hp : ∀ p ∈ ps, p.name ≠ [] ∧ Token p.name) (ht : EndsElement t) :
    readParameters (';' :: (s ++ t)) = .ok (ps, t) := by
  induction h with
  | @one p s hw =>
    obtain ⟨hne, hn⟩ := hp p (by simp)
    rw [readParameters_of_readPair (readPair_written hw hn ht.value), readParameters_nil ht]
    simp [Except.map, hne]
  | @more p ps s s' hw _ ih =>
    obtain ⟨hne, hn⟩ := hp p (by simp)
    have hr := readPair_written (t := ';' :: (s' ++ t)) hw hn (.cons rfl _)
    rw [List.append_assoc, List.cons_append, readParameters_of_readPair hr,
      ih fun q hq => hp q (by simp [hq])]
    simp [Except.map, hne]

theorem readElement_written {e : Element} {s t : Text} (h : WrittenPairs (e.head :: e.parameters) s)
    (he : Readable e) (ht : EndsElement t) : readElement (s ++ t) = .ok (e, dropComma t) := by
  obtain ⟨n, v, ps⟩ := e
  generalize hl : head ⟨n, v, ps⟩ :: ps = l at h
  cases h with
  | one hw =>
    cases hl
    rw [readElement, readPair_written hw he.name ht.value]
    simp [readParameters_nil ht, Except.map, head]
  | @more p ps' s s' hw hws =>
    cases hl
    rw [List.append_assoc, List.cons_append, readElement, readPair_written hw he.name (.cons rfl _)]
    simp only [readParameters_written hws he.parameters ht]
    simp [Except.map, head]

theorem WrittenPair.eq_of_nil {p : Parameter} {s : Text} (h : WrittenPair p s) (hs : s = []) :
    p = ⟨[], none⟩ := by
  cases h with
  | name => simp_all
  | value => simp_all

theorem ne_nil_of_written {e : Element} {s : Text} (h : WrittenPairs (e.head :: e.parameters) s)
    (he : e.isVoid = false) : s ≠ [] := by
  obtain ⟨n, v, ps⟩ := e
  intro hs
  generalize hl : head ⟨n, v, ps⟩ :: ps = l at h
  cases h with
  | one hw =>
    cases hl
    cases hw.eq_of_nil hs
    simp [isVoid] at he
  | more => simp at hs

theorem readAll_of_readElement {s rest : Text} {e : Element} (hs : s ≠ [])
    (h : readElement s = .ok (e, rest)) :
    readAll s = (readAll rest).map fun es => if e.isVoid then es else e :: es := by
  cases s with
  | nil => exact absurd rfl hs
  | cons c s =>
    rw [readAll]
    split
    · rename_i hx; rw [h] at hx; cases hx
    · rename_i e' rest' hx
      rw [h] at hx
      cases hx
      rfl

/-- **Whatever way a list of elements is written, it reads back.** -/
theorem readAll_written {es : List Element} {s : Text} (h : Written es s) (hr : ∀ e ∈ es, Readable e) :
    readAll s = .ok es := by
  induction h with
  | @one e s hw =>
    have he := hr e (by simp)
    have := readElement_written hw he .nil
    rw [List.append_nil] at this
    rw [readAll_of_readElement (ne_nil_of_written hw he.notVoid) this, dropComma, readAll]
    · simp [Except.map, he.notVoid]
    · simp
  | @more e es s t hw _ ih =>
    have he := hr e (by simp)
    rw [readAll_of_readElement (by simp) (readElement_written hw he (.cons rfl t)), dropComma,
      ih fun f hf => hr f (by simp [hf])]
    simp [Except.map, he.notVoid]

/-! ## What reading returns -/

theorem token_of_readPair {s rest : Text} {p : Parameter} (h : readPair s = .ok (p, rest)) :
    Token p.name := by
  unfold readPair at h
  split at h
  · simp at h
  · rename_i n rest' hn
    obtain ⟨⟨v, rest''⟩, -, he⟩ := map_eq_ok.1 h
    simp only [Prod.mk.injEq] at he
    obtain ⟨rfl, -⟩ := he
    exact token_of_readToken hn
  · rename_i n rest' _ hn
    simp only [Except.ok.injEq, Prod.mk.injEq] at h
    obtain ⟨rfl, -⟩ := h
    exact token_of_readToken hn

theorem tokens_of_readParameters {s rest : Text} {ps : List Parameter}
    (h : readParameters s = .ok (ps, rest)) :
    ∀ p ∈ ps, p.name ≠ [] ∧ Token p.name := by
  fun_induction readParameters s generalizing ps rest with
  | case1 => simp at h
  | case2 s p rest' hp ih =>
    obtain ⟨⟨ps', rest''⟩, h', he⟩ := map_eq_ok.1 h
    simp only [Prod.mk.injEq] at he
    obtain ⟨rfl, -⟩ := he
    have ih := ih h'
    intro q hq
    split at hq
    · exact ih q hq
    · rename_i hne
      rcases List.mem_cons.1 hq with rfl | hq
      · exact ⟨by simpa using hne, token_of_readPair hp⟩
      · exact ih q hq
  | case3 =>
    simp only [Except.ok.injEq, Prod.mk.injEq] at h
    simp [← h.1]

theorem readable_of_readAll {s : Text} {es : List Element} (h : readAll s = .ok es) :
    ∀ e ∈ es, Readable e := by
  fun_induction readAll s generalizing es with
  | case1 =>
    simp only [Except.ok.injEq] at h
    simp [← h]
  | case2 => simp at h
  | case3 c s e rest he ih =>
    obtain ⟨es', h', hes⟩ := map_eq_ok.1 h
    have ih := ih h'
    intro f hf
    subst hes
    split at hf
    · exact ih f hf
    · rename_i hv
      rcases List.mem_cons.1 hf with rfl | hf
      · unfold readElement at he
        split at he
        · simp at he
        · rename_i p rest' hp
          obtain ⟨⟨ps, rest''⟩, hps, hf⟩ := map_eq_ok.1 he
          simp only [Prod.mk.injEq] at hf
          obtain ⟨rfl, -⟩ := hf
          exact ⟨token_of_readPair hp, tokens_of_readParameters hps, by simpa using hv⟩
      · exact ih f hf

/-! ## Whole header values -/

theorem parse_eq (s : Text) : parse s = match readAll s with
    | .error fault => .error (fault.toError s [])
    | .ok [] => .error .empty
    | .ok es => .ok es := by
  have hcut : (Window.ofBounds 0 (Utf8.size s)).cut? s = some (s, []) := by
    have hwhole := Utf8.cutAtByte?_append s []
    rw [List.append_nil] at hwhole
    simp [Window.ofBounds, Window.cut?, hwhole, Utf8.cutAtByte?]
  simp only [parse, parseIn, hcut]
  cases readAll s with
  | error fault => rfl
  | ok es => cases es <;> rfl

theorem parse_eq_ok_iff {s : Text} {es : List Element} : parse s = .ok es ↔ readAll s = .ok es ∧ es ≠ [] := by
  rw [parse_eq]
  cases h : readAll s with
  | error fault => simp
  | ok es' =>
    cases es' with
    | nil =>
      simp only [reduceCtorEq, Except.ok.injEq, false_iff]
      exact fun h => h.2 h.1.symm
    | cons e es' =>
      simp only [Except.ok.injEq]
      exact ⟨fun h => ⟨h, h ▸ by simp⟩, fun h => h.1⟩

/-! ## The first element -/

theorem parse_of_readElement {s : Text} {e : Element} (hs : s ≠ []) (he : e.isVoid = false)
    (h : readElement s = .ok (e, [])) : parse s = .ok [e] := by
  refine parse_eq_ok_iff.2 ⟨?_, by simp⟩
  rw [readAll_of_readElement hs h, readAll]
  simp [Except.map, he]

theorem parse_of_readElement_error {s : Text} {fault : Fault} (hs : s ≠ [])
    (h : readElement s = .error fault) :
    parse s = .error (fault.toError s []) := by
  have hr : readAll s = .error fault := by
    cases s with
    | nil => exact absurd rfl hs
    | cons c s =>
      rw [readAll]
      split
      · rename_i e he
        cases he.symm.trans h
        rfl
      · rename_i e rest he
        cases h.symm.trans he
  rw [parse_eq, hr]

theorem head_of_parse {s rest : Text} {e : Element} {es : List Element} (hs : s ≠ []) (he : e.isVoid = false)
    (h : readElement s = .ok (e, rest)) (hp : parse s = .ok es) : ∃ es', es = e :: es' := by
  obtain ⟨hr, -⟩ := parse_eq_ok_iff.1 hp
  rw [readAll_of_readElement hs h] at hr
  obtain ⟨es', -, rfl⟩ := map_eq_ok.1 hr
  exact ⟨es', by simp [he]⟩

theorem readElement_of_parse {s : Text} {es : List Element} (hs : s ≠ []) (hp : parse s = .ok es) :
    ∃ e rest, readElement s = .ok (e, rest) := by
  obtain ⟨hr, -⟩ := parse_eq_ok_iff.1 hp
  cases s with
  | nil => exact absurd rfl hs
  | cons c s =>
    rw [readAll] at hr
    split at hr
    · cases hr
    · rename_i e rest h
      exact ⟨e, rest, h⟩

/-! ## Round trip -/

/-- A name that delimits nothing: not empty, without blanks at its ends and
without any delimiter. -/
structure PlainName (n : Text) : Prop where
  nonempty : n ≠ []
  trimmed : Text.Trimmed n
  plain : ∀ c ∈ n, c ≠ '"' ∧ c ≠ '=' ∧ c ≠ ';' ∧ c ≠ ','

theorem PlainName.token {n : Text} (h : PlainName n) : Token n :=
  ⟨h.trimmed, .of_not_mem (fun hm => (h.plain _ hm).1 rfl) fun c hc => by simp [endsName, (h.plain c hc).2]⟩

/-- An element all of whose names are plain. Its values are any texts. -/
structure Plain (e : Element) : Prop where
  name : PlainName e.name
  parameters : ∀ p ∈ e.parameters, PlainName p.name

theorem Plain.readable {e : Element} (h : Plain e) : Readable e where
  name := h.name.token
  parameters p hp := ⟨(h.parameters p hp).nonempty, (h.parameters p hp).token⟩
  notVoid := by simp [isVoid, h.name.nonempty]

theorem written_ne_nil {es : List Element} {s : Text} (h : Written es s) : es ≠ [] := by
  cases h <;> simp

theorem parse_written_one {e : Element} {s : Text} (hp : Plain e) (hw : Written [e] s) : parse s = .ok [e] :=
  parse_eq_ok_iff.2 ⟨readAll_written hw (by simpa using hp.readable), by simp⟩

/-- **Elements survive being written.** A list of elements with plain names
reads back from every way of writing it, hence from its rendering; and the
rendering of anything that was read reads back too, whatever its names. -/
theorem parse_written :
    (∀ es s, (∀ e ∈ es, Plain e) → Written es s → parse s = .ok es) ∧
    (∀ es, es ≠ [] → (∀ e ∈ es, Plain e) → parse (renderAll es) = .ok es) ∧
    (∀ s es, parse s = .ok es → parse (renderAll es) = .ok es) := by
  have key : ∀ es s, (∀ e ∈ es, Readable e) → Written es s → parse s = .ok es := fun es s hr hw =>
    parse_eq_ok_iff.2 ⟨readAll_written hw hr, written_ne_nil hw⟩
  refine ⟨fun es s hp => key es s fun e he => (hp e he).readable, fun es hne hp => ?_, fun s es h => ?_⟩
  · exact key es _ (fun e he => (hp e he).readable) (written_renderAll hne)
  · obtain ⟨hr, hne⟩ := parse_eq_ok_iff.1 h
    exact key es _ (readable_of_readAll hr) (written_renderAll hne)

/-- A value with a quote, a backslash and delimiters in it, a parameter of the
same name without a value, a bare value and an empty one, spacing throughout. -/
theorem parse_written_spaced :
    (∀ e ∈ [(⟨['f', '-'], none, [⟨['n'], some ['a', '"', '\\', ';', ',']⟩, ⟨['n'], none⟩,
      ⟨['x'], some ['1', ' ', '=']⟩]⟩ : Element), ⟨['b'], some [], []⟩], Plain e) ∧
    parse [' ', 'f', '-', '\t', ';', 'n', ' ', '=', '\n', '"', 'a', '\\', '"', '\\', '\\', ';', ',', '"',
      ' ', ';', 'n', ';', 'x', '=', ' ', '1', ' ', '=', '\r', ',', ' ', 'b', '='] =
      .ok [⟨['f', '-'], none, [⟨['n'], some ['a', '"', '\\', ';', ',']⟩, ⟨['n'], none⟩,
        ⟨['x'], some ['1', ' ', '=']⟩]⟩, ⟨['b'], some [], []⟩] := by
  have plain : ∀ e ∈ [(⟨['f', '-'], none, [⟨['n'], some ['a', '"', '\\', ';', ',']⟩, ⟨['n'], none⟩,
      ⟨['x'], some ['1', ' ', '=']⟩]⟩ : Element), ⟨['b'], some [], []⟩], Plain e := by
    have name : ∀ {n : Text}, n = ['f', '-'] ∨ n = ['n'] ∨ n = ['x'] ∨ n = ['b'] → PlainName n := by
      rintro n (rfl | rfl | rfl | rfl) <;> exact ⟨by decide, by decide, by decide⟩
    intro e he
    simp only [List.mem_cons, List.not_mem_nil, or_false] at he
    rcases he with rfl | rfl
    · exact ⟨name (by simp), fun p hp => name (by simp at hp; rcases hp with rfl | rfl | rfl <;> simp)⟩
    · exact ⟨name (by simp), by simp⟩
  refine ⟨plain, parse_written.1 _ _ plain ?_⟩
  refine .more (t := [' ', 'b', '=']) (s := [' ', 'f', '-', '\t', ';', 'n', ' ', '=', '\n', '"', 'a', '\\',
    '"', '\\', '\\', ';', ',', '"', ' ', ';', 'n', ';', 'x', '=', ' ', '1', ' ', '=', '\r']) ?_ (.one (.one ?_))
  · refine .more (s := [' ', 'f', '-', '\t']) (.name (a := [' ']) (b := ['\t']) (by decide) (by decide)) ?_
    refine .more (s := ['n', ' ', '=', '\n', '"', 'a', '\\', '"', '\\', '\\', ';', ',', '"', ' '])
      (.value (a := []) (b := [' ']) (by decide) (by decide)
        (.quoted (a := ['\n']) (b := [' ']) (by decide) (by decide))) ?_
    refine .more (s := ['n']) (.name (a := []) (b := []) (by decide) (by decide)) (.one ?_)
    exact .value (a := []) (b := []) (by decide) (by decide)
      (.bare (a := [' ']) (b := ['\r']) ⟨by decide, by decide⟩ (by decide) (by decide))
  · exact .value (a := [' ']) (b := []) (by decide) (by decide)
      (.bare (a := []) (b := []) ⟨by decide, by decide⟩ (by decide) (by decide))

end MessageHead.Element
