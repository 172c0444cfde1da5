/-
The elements of a text by the segments between its commas (`readAll_join`).

Scanning for commas outside quotes and reading elements agree because a reader
looks at nothing behind what it takes: what it took is whole for the delimiters
it stops at, and it takes the same off any text that goes on with one of them
(`Takes`). Whole texts in front of a comma are cut off in one way only, so an
element ends at the comma that ends its segment.
-/
import Mathlib.Data.List.Basic
import MessageHead.Proofs.ReaderExtension

namespace MessageHead.Element

open Quoted (Whole Mode)

/-! ## What a reader takes -/

/-- `read` makes `a` of `used` and leaves the rest, whenever the rest begins with a stop. -/
structure Takes {α : Type} (stop : Char → Bool) (read : Text → Except Fault (α × Text)) (used : Text)
    (a : α) : Prop where
  whole : Whole stop used
  reads : ∀ t, StopsAt stop t → read (used ++ t) = .ok (a, t)

/-- Whole texts in front of stops are cut off in one way only. -/
theorem eq_of_whole_append {stop : Char → Bool} {a b s t : Text} (ha : Whole stop a) (hb : Whole stop b)
    (hs : StopsAt stop s) (ht : StopsAt stop t) (h : a ++ s = b ++ t) : a = b ∧ s = t := by
  have hr := readRaw_append ha hs
  rw [h, readRaw_append hb ht] at hr
  simp only [Except.ok.injEq, Prod.mk.injEq] at hr
  exact ⟨hr.1.symm, hr.2.symm⟩

theorem takes_readToken {stop : Char → Bool} (hstop : stop '"' = false) {s n rest : Text}
    (h : readToken stop s = .ok (n, rest)) :
    ∃ used, used ++ rest = s ∧ Takes stop (readToken stop) used n := by
  obtain ⟨⟨raw, rest'⟩, h', he⟩ := map_eq_ok.1 h
  simp only [Prod.mk.injEq] at he
  obtain ⟨rfl, rfl⟩ := he
  have hw := whole_of_readRaw hstop h'
  refine ⟨raw, (append_of_readRaw h').1, hw, fun t ht => ?_⟩
  rw [readToken, readRaw_append hw ht]
  rfl

theorem Spacing.whole {s : Text} (h : Spacing s) : Whole endsValue s :=
  .of_not_mem (fun hm => absurd (h _ hm) (by decide)) fun c hc => not_endsValue_of_isBlank c (h.blank c hc)

theorem closeValue_eq_ok {v w s rest : Text} (h : closeValue v s = .ok (w, rest)) :
    w = v ∧ ∃ b, Spacing b ∧ b ++ rest = s := by
  have hs := List.takeWhile_append_dropWhile (p := isSpacing) (l := s)
  unfold closeValue at h
  split at h
  · rename_i hd
    cases h
    exact ⟨rfl, _, spacing_takeWhile s, by rw [← hd, hs]⟩
  · rename_i c u hd
    split at h
    · cases h
      exact ⟨rfl, _, spacing_takeWhile s, by rw [← hd, hs]⟩
    · cases h

theorem takes_readValue_quote {a body v rest : Text} (ha : Spacing a)
    (h : readValue (a ++ '"' :: body) = .ok (v, rest)) :
    ∃ used, used ++ rest = a ++ '"' :: body ∧ Takes endsValue readValue used v := by
  cases hr : Quoted.read? body with
  | none =>
    rw [readValue_quote_none ha hr] at h
    cases h
  | some p =>
    rw [readValue_quote ha hr] at h
    obtain ⟨rfl, b, hb, hleft⟩ := closeValue_eq_ok h
    obtain ⟨raw, hskip, hread⟩ := Quoted.raw_of_read? hr
    obtain ⟨rfl, hmodes⟩ := Quoted.skip?_eq_some_iff.1 hskip
    have hquoted : Whole endsValue ('"' :: (raw ++ b)) :=
      .of_skip? (by decide) (Quoted.skip?_eq_some_iff.2 ⟨rfl, hmodes⟩) hb.whole
    refine ⟨a ++ '"' :: (raw ++ b), by simp [← hleft], ha.whole.append hquoted, fun t ht => ?_⟩
    have hvalue := readValue_quote ha (hread (b ++ t))
    rw [closeValue_spacing hb ht] at hvalue
    simpa using hvalue

theorem takes_readValue_bare {a u v rest : Text} (ha : Spacing a) (hu : StopsAt startsBare u)
    (h : readValue (a ++ u) = .ok (v, rest)) :
    ∃ used, used ++ rest = a ++ u ∧ Takes endsValue readValue used v := by
  rw [readValue_bare ha hu] at h
  obtain ⟨used, rfl, htakes⟩ := takes_readToken (by decide) h
  refine ⟨a ++ used, by simp, ha.whole.append htakes.whole, fun t ht => ?_⟩
  rw [List.append_assoc, readValue_bare ha (hu.of_append ht.bare)]
  exact htakes.reads t ht

theorem takes_readValue {s v rest : Text} (h : readValue s = .ok (v, rest)) :
    ∃ used, used ++ rest = s ∧ Takes endsValue readValue used v := by
  obtain ⟨a, ha, ⟨body, rfl⟩ | ⟨u, rfl, hu⟩⟩ := exists_spacing s
  · exact takes_readValue_quote ha h
  · exact takes_readValue_bare ha hu h

theorem whole_comma {s : Text} (h : Whole endsValue s) : Whole (· == ',') s :=
  h.mono fun c hc => by rw [beq_iff_eq.1 hc]; rfl

theorem takes_readPair {s rest : Text} {p : Parameter} (h : readPair s = .ok (p, rest)) :
    ∃ used, used ++ rest = s ∧ Takes endsValue readPair used p := by
  cases hn : readToken endsName s with
  | error e =>
    unfold readPair at h
    rw [hn] at h
    cases h
  | ok q =>
    obtain ⟨n, left⟩ := q
    obtain ⟨name, hname, htakes⟩ := takes_readToken (by decide) hn
    have hw : Whole endsValue name := htakes.whole.mono fun _ => endsValue_name
    by_cases he : ∃ u, left = '=' :: u
    · obtain ⟨u, rfl⟩ := he
      rw [readPair_value hn] at h
      obtain ⟨⟨v, rest'⟩, hv, heq⟩ := map_eq_ok.1 h
      simp only [Prod.mk.injEq] at heq
      obtain ⟨rfl, rfl⟩ := heq
      obtain ⟨value, hvalue, htakes'⟩ := takes_readValue hv
      refine ⟨name ++ '=' :: value, ?_, ?_, fun t ht => ?_⟩
      · rw [← hname, ← hvalue]
        simp
      · exact hw.append (htakes'.whole.cons (by decide) (by decide))
      · have hn' := htakes.reads ('=' :: (value ++ t)) (.cons (by decide) _)
        rw [List.append_assoc, List.cons_append, readPair_value hn', htakes'.reads t ht]
        rfl
    · rw [readPair_name hn fun u hu => he ⟨u, hu⟩] at h
      cases h
      refine ⟨name, hname, hw, fun t ht => ?_⟩
      refine readPair_name (htakes.reads t ht.name) fun u hu => ?_
      exact absurd (ht '=' (by rw [hu]; rfl)) (by decide)

theorem takes_readParameters {s rest : Text} {ps : List Parameter} (hs : StopsAt endsValue s)
    (h : readParameters s = .ok (ps, rest)) :
    EndsElement rest ∧ ∃ used, used ++ rest = s ∧ Takes (· == ',') readParameters used ps := by
  fun_induction readParameters s generalizing ps rest with
  | case1 => cases h
  | case2 s p left hp ih =>
    obtain ⟨⟨qs, rest'⟩, h', he⟩ := map_eq_ok.1 h
    simp only [Prod.mk.injEq] at he
    obtain ⟨rfl, rfl⟩ := he
    obtain ⟨pair, hpair, htakes⟩ := takes_readPair hp
    have hleft := (readPair_suffix hp).2
    obtain ⟨hend, more, rfl, htakes'⟩ := ih hleft h'
    refine ⟨hend, ';' :: (pair ++ more), by rw [← hpair]; simp, ?_, fun t ht => ?_⟩
    · exact ((whole_comma htakes.whole).append htakes'.whole).cons (by decide) (by decide)
    · have hr := htakes.reads (more ++ t) (hleft.of_append (EndsElement.value ht))
      rw [List.cons_append, List.append_assoc, readParameters_of_readPair hr, htakes'.reads t ht]
      rfl
  | case3 s hsemi =>
    cases h
    have hend : EndsElement s := by
      intro c hc
      have := hs c hc
      cases s with
      | nil => cases hc
      | cons d u =>
        obtain rfl : d = c := by simpa using hc
        have hne : d ≠ ';' := fun e => hsemi u (by rw [e])
        simpa [endsValue, hne] using this
    exact ⟨hend, [], rfl, .nil, fun t ht => readParameters_nil ht⟩

/-! ## Segments -/

/-- `g` is what an element is read from, up to the end of the text or a comma. -/
structure Spells (g : Text) (e : Element) : Prop where
  whole : Whole (· == ',') g
  reads : ∀ t, EndsElement t → readElement (g ++ t) = .ok (e, dropComma t)

/-- An element that was read is spelled by what stands before the comma. -/
theorem spells_of_readElement {s rest : Text} {e : Element} (h : readElement s = .ok (e, rest)) :
    ∃ g t, g ++ t = s ∧ EndsElement t ∧ rest = dropComma t ∧ Spells g e := by
  unfold readElement at h
  split at h
  · cases h
  · rename_i p left hp
    obtain ⟨⟨ps, t⟩, hps, he⟩ := map_eq_ok.1 h
    simp only [Prod.mk.injEq] at he
    obtain ⟨rfl, rfl⟩ := he
    obtain ⟨pair, rfl, htakes⟩ := takes_readPair hp
    have hleft := (readPair_suffix hp).2
    obtain ⟨hend, more, rfl, htakes'⟩ := takes_readParameters hleft hps
    refine ⟨pair ++ more, t, by simp, hend, rfl, (whole_comma htakes.whole).append htakes'.whole,
      fun u hu => ?_⟩
    rw [readElement, List.append_assoc, htakes.reads _ (hleft.of_append (EndsElement.value hu))]
    simp only [htakes'.reads u hu]
    rfl

theorem spells_nil : Spells [] ⟨[], none, []⟩ := by
  have h : readElement [] = .ok (⟨[], none, []⟩, []) := by
    simp [readElement, readPair, readToken, readRaw, readParameters, Except.map, Text.trim, Text.trimWhere,
      Text.trimEndWhere, dropComma]
  obtain ⟨g, t, hs, -, -, hg⟩ := spells_of_readElement h
  rwa [(List.append_eq_nil_iff.1 hs).1] at hg

theorem Spells.readAll_comma {g : Text} {e : Element} (h : Spells g e) (t : Text) :
    readAll (g ++ ',' :: t) = (readAll t).map fun es => if e.isVoid then es else e :: es :=
  readAll_of_readElement (by simp) (h.reads _ (.cons rfl t))

theorem Spells.readAll_eq {g : Text} {e : Element} (h : Spells g e) :
    ∃ es, readAll g = .ok es := by
  by_cases hg : g = []
  · exact ⟨[], by rw [hg, readAll]⟩
  · have hr := h.reads [] .nil
    rw [List.append_nil] at hr
    rw [readAll_of_readElement hg hr, dropComma, readAll]
    · exact ⟨_, rfl⟩
    · simp

/-! ## Commas -/

/-- **Behind a text that was read and a comma, reading begins anew.** -/
theorem readAll_append {s : Text} {es : List Element} (h : readAll s = .ok es) (t : Text) :
    readAll (s ++ ',' :: t) = (readAll t).map (es ++ ·) := by
  fun_induction readAll s generalizing es with
  | case1 =>
    cases h
    rw [spells_nil.readAll_comma]
    cases readAll t <;> rfl
  | case2 => cases h
  | case3 c s e rest he ih =>
    obtain ⟨es', h', rfl⟩ := map_eq_ok.1 h
    obtain ⟨g, u, hs, hu, rfl, hg⟩ := spells_of_readElement he
    rw [← hs]
    -- The element ends where `s` does, at the new comma, or at a comma of `s`.
    cases u with
    | nil =>
      rw [dropComma, readAll] at h'
      · cases h'
        rw [List.append_nil, hg.readAll_comma]
        cases e.isVoid <;> rfl
      · simp
    | cons d u =>
      obtain rfl : d = ',' := by simpa using hu d rfl
      have hr : readAll (u ++ ',' :: t) = (readAll t).map (es' ++ ·) := ih h'
      rw [List.append_assoc, List.cons_append, hg.readAll_comma, hr]
      cases readAll t with
      | error fault => rfl
      | ok fs => cases e.isVoid <;> simp [Except.map]

theorem readAll_whole {g t : Text} {es : List Element} (hg : Whole (· == ',') g)
    (h : readAll (g ++ ',' :: t) = .ok es) : ∃ fs, readAll g = .ok fs := by
  cases hs : g ++ ',' :: t with
  | nil => simp at hs
  | cons c s =>
    rw [hs, readAll] at h
    split at h
    · cases h
    · rename_i e rest he
      obtain ⟨g', t', hs', ht', -, hg'⟩ := spells_of_readElement he
      -- What the first element was read from is whole too, and it also ends before a comma.
      obtain ⟨rfl, -⟩ := eq_of_whole_append hg'.whole hg ht' (.cons rfl t) (hs'.trans hs.symm)
      exact hg'.readAll_eq

theorem closed_of_readAll {s : Text} {es : List Element} (h : readAll s = .ok es) :
    Mode.outside.after s = .outside := by
  fun_induction readAll s generalizing es with
  | case1 => rfl
  | case2 => cases h
  | case3 c s e rest he ih =>
    obtain ⟨es', h', rfl⟩ := map_eq_ok.1 h
    obtain ⟨g, u, hs, hu, rfl, hg⟩ := spells_of_readElement he
    have hr := ih h'
    rw [← hs, Mode.after_append, hg.whole.closed]
    cases u with
    | nil => rfl
    | cons d u =>
      obtain rfl : d = ',' := by simpa using hu d rfl
      exact hr

/-! ## Values as lists -/

/-- The text holds elements, or holds none and nothing wrong. -/
def Accepted (s : Text) : Prop := parse s = .error .empty ∨ ∃ es, parse s = .ok es

/-- The elements of a text, as far as it holds any. -/
def elements (s : Text) : List Element :=
  match parse s with
  | .ok es => es
  | .error _ => []

theorem accepted_iff {s : Text} : Accepted s ↔ readAll s = .ok (elements s) := by
  unfold Accepted elements
  rw [parse_eq]
  cases readAll s with
  | error fault => cases fault <;> simp [Fault.toError]
  | ok es => cases es <;> simp

theorem accepted_of_readAll {s : Text} {es : List Element} (h : readAll s = .ok es) : Accepted s := by
  rw [Accepted, parse_eq, h]
  cases es <;> simp

theorem readAll_join {vs : List Text} (hne : vs ≠ []) (h : ∀ v ∈ vs, Accepted v) :
    readAll (Text.join [','] vs) = .ok (vs.flatMap elements) := by
  induction vs with
  | nil => exact absurd rfl hne
  | cons v vs ih =>
    have hv := accepted_iff.1 (h v (by simp))
    by_cases hvs : vs = []
    · subst hvs
      simpa [Text.join] using hv
    · rw [Text.join_cons v hvs, List.append_assoc, List.singleton_append, readAll_append hv,
        ih hvs fun w hw => h w (by simp [hw])]
      rfl

theorem accepted_of_readAll_join {gs : List Text} {es : List Element} (hw : ∀ g ∈ gs, Whole (· == ',') g)
    (h : readAll (Text.join [','] gs) = .ok es) : ∀ g ∈ gs, Accepted g := by
  induction gs generalizing es with
  | nil => simp
  | cons g gs ih =>
    by_cases hgs : gs = []
    · subst hgs
      simpa [Text.join] using accepted_of_readAll h
    · rw [Text.join_cons g hgs, List.append_assoc, List.singleton_append] at h
      obtain ⟨fs, hfs⟩ := readAll_whole (hw g (by simp)) h
      rw [readAll_append hfs] at h
      obtain ⟨es', hes', -⟩ := map_eq_ok.1 h
      intro g' hg'
      rcases List.mem_cons.1 hg' with rfl | hg'
      · exact accepted_of_readAll hfs
      · exact ih (fun w hw' => hw w (by simp [hw'])) hes' g' hg'

/-- **A value is read segment by segment.** It has elements exactly when its quotes
close, every segment between its commas is accepted, and not all of them are empty;
the elements are those of the segments, in order. Accepted values joined with commas
are therefore read as the elements of each, whatever commas they hold. -/
theorem parse_segments :
    (∀ s es, parse s = .ok es ↔ ∃ gs, Quoted.split? ',' s = .ok gs ∧ (∀ g ∈ gs, Accepted g) ∧
      gs.flatMap elements = es ∧ es ≠ []) ∧
    (∀ vs, (∀ v ∈ vs, Accepted v) → vs.flatMap elements ≠ [] →
      parse (Text.join [','] vs) = .ok (vs.flatMap elements)) := by
  have hcomma : ',' ≠ '"' := by decide
  refine ⟨fun s es => ⟨fun h => ?_, ?_⟩, fun vs hvs hne => ?_⟩
  · obtain ⟨hr, hne⟩ := parse_eq_ok_iff.1 h
    obtain ⟨gs, hgs⟩ := Quoted.exists_split? (d := ',') (closed_of_readAll hr)
    obtain ⟨hgne, rfl, hw⟩ := (Quoted.split?_eq_ok_iff hcomma).1 hgs
    have haccept := accepted_of_readAll_join hw hr
    have hj := (readAll_join hgne haccept).symm.trans hr
    exact ⟨gs, hgs, haccept, Except.ok.inj hj, hne⟩
  · rintro ⟨gs, hgs, haccept, rfl, hne⟩
    obtain ⟨hgne, rfl, -⟩ := (Quoted.split?_eq_ok_iff hcomma).1 hgs
    exact parse_eq_ok_iff.2 ⟨readAll_join hgne haccept, hne⟩
  · have hvne : vs ≠ [] := by
      rintro rfl
      exact hne rfl
    exact parse_eq_ok_iff.2 ⟨readAll_join hvne hvs, hne⟩

/-- Two elements with a comma in quotes, a value without elements, and an escaped quote. -/
theorem parse_segments_quoted :
    (∀ v ∈ ["a; x=\"1,2;3\", b".toList, " ;".toList, "c=\" \\\",\"".toList], Accepted v) ∧
    parse "a; x=\"1,2;3\", b, ;,c=\" \\\",\"".toList =
      .ok [⟨['a'], none, [⟨['x'], some "1,2;3".toList⟩]⟩, ⟨['b'], none, []⟩, ⟨['c'], some " \",".toList, []⟩] ∧
    ∃ gs, Quoted.split? ',' "a; x=\"1,2;3\", b, ;,c=\" \\\",\"".toList = .ok gs ∧ (∀ g ∈ gs, Accepted g) ∧
      gs.flatMap elements =
        [⟨['a'], none, [⟨['x'], some "1,2;3".toList⟩]⟩, ⟨['b'], none, []⟩, ⟨['c'], some " \",".toList, []⟩] := by
  have h₁ : parse "a; x=\"1,2;3\", b".toList =
      .ok [⟨['a'], none, [⟨['x'], some "1,2;3".toList⟩]⟩, ⟨['b'], none, []⟩] := by decide +kernel
  have h₂ : parse " ;".toList = .error .empty := by decide +kernel
  have h₃ : parse "c=\" \\\",\"".toList = .ok [⟨['c'], some " \",".toList, []⟩] := by decide +kernel
  have accepted : ∀ v ∈ ["a; x=\"1,2;3\", b".toList, " ;".toList, "c=\" \\\",\"".toList], Accepted v := by
    intro v hv
    simp only [List.mem_cons, List.not_mem_nil, or_false] at hv
    rcases hv with rfl | rfl | rfl
    · exact .inr ⟨_, h₁⟩
    · exact .inl h₂
    · exact .inr ⟨_, h₃⟩
  have hp := parse_segments.2 _ accepted
  simp only [List.flatMap_cons, List.flatMap_nil, elements, h₁, h₂, h₃] at hp
  have hp := hp (by simp)
  obtain ⟨gs, hgs, hall, hes, -⟩ := (parse_segments.1 _ _).1 hp
  exact ⟨accepted, hp, gs, hgs, hall, hes⟩

end MessageHead.Element
