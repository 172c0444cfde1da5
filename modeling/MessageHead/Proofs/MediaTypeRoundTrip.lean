/-
Media types written out and read back.

What was read always reads again once it is written, but not always as the same
media type: a value is put in quotes for the characters `specials` only, so one
that ends in a line break is written bare and loses it; and a name may open
quotes that its value closes, which the quotes around the written value then
close too early. The media types that are left are exactly those all of whose
parameters are `Faithful`.

The hard half is that a parameter that is not faithful cannot be made up for by
the others. Every semicolon of the written text is a delimiter or a character of
a segment, so a text that falls into more segments than there are parameters
has fewer semicolons left for their names and values.
-/
import Mathlib.Data.List.Nodup
import MessageHead.MediaType.Parser
import MessageHead.Proofs.QuotedReaders
import MessageHead.Proofs.TableFacts

namespace MessageHead.MediaType

open Quoted (Whole Mode Clear)

/-! ## Which parameters survive -/

/-- A parameter that is written so that it reads back: a value without quotes has
no blank at its ends, and a value whose name leaves quotes open has no semicolon
before the first quote. -/
structure Faithful (p : Text × Text) : Prop where
  bare : needsQuotes p.2 = false → Text.Trimmed p.2
  closed : Mode.outside.after p.1 ≠ .outside → ';' ∉ p.2.takeWhile (· != '"')

/-- What holds of a parameter that was read. -/
structure ReadableParameter (p : Text × Text) : Prop where
  nonempty : p.1 ≠ []
  trimmed : Text.Trimmed p.1
  plain : '=' ∉ p.1
  clear : Clear (· == ';') .outside p.1
  closes : Mode.outside.after p.1 ≠ .outside → '"' ∈ p.2

/-- What holds of a type and a subtype that were read. -/
structure ReadableName (main sub : Text) : Prop where
  main_ne : main ≠ []
  sub_ne : sub ≠ []
  whole : Whole (· == ';') (main ++ '/' :: sub)
  reads : readName (main ++ '/' :: sub) = (main, sub)

/-- What holds of a media type that was read. -/
structure Readable (m : MediaType) : Prop where
  name : ReadableName m.mainType m.subtype
  name_eq : m.name = m.mainType ++ '/' :: m.subtype
  parameters : ∀ p ∈ m.parameters, ReadableParameter p
  distinct : OrderedTable.Distinct Text.lower m.parameters

/-! ## Characters of names and values -/

theorem count_readValue {c : Char} (hb : isBlank c = false) (hc : c ≠ '\\') (hq : c ≠ '"') (raw : Text) :
    (readValue raw).count c = raw.count c := by
  have trim := Text.count_trim hb raw
  rw [readValue]
  split
  · rename_i inside hi
    rw [Quoted.eq_of_inner? hi, List.cons_append, List.count_cons_of_ne (Ne.symm hq), List.count_append,
      List.count_cons_of_ne (Ne.symm hq)] at trim
    rw [Quoted.count_decode hc]
    simpa using trim
  · exact trim

theorem quote_mem_readValue {raw : Text} (h : Mode.inside.after raw = .outside) : '"' ∈ readValue raw := by
  obtain ⟨a, b, ha, hb, hs⟩ := Text.exists_trim raw
  have none_of : ∀ {w : Text}, Text.Blank w → '"' ∉ w := fun hw hm => absurd (hw _ hm) (by decide)
  have hraw : '"' ∈ raw := by
    by_cases hq : '"' ∈ raw
    · exact hq
    · exact absurd h (Mode.after_ne_outside hq (by decide))
  have htrim : '"' ∈ Text.trim raw := by
    rw [hs] at hraw
    simpa [none_of ha, none_of hb] using hraw
  rw [readValue]
  split
  · rename_i inside hi
    have hq := Quoted.eq_of_inner? hi
    by_cases hm : '"' ∈ Escape.decode inside
    · exact hm
    · -- The first quote closes, so without one inside the last one opens again.
      have hin : '"' ∉ inside := by
        rw [← List.count_eq_zero, Quoted.count_decode (by decide)] at hm
        exact List.count_eq_zero.1 hm
      have ha' : Mode.inside.after a ≠ .outside := Mode.after_ne_outside (none_of ha) (by decide)
      have hai : Mode.inside.after a = .inside := by
        refine Mode.after_inert (fun c hc => ⟨?_, ?_⟩) .inside
        · rintro rfl
          exact none_of ha hc
        · rintro rfl
          exact absurd (ha _ hc) (by decide)
      rw [hs, hq, Mode.after_append, Mode.after_append, hai, List.cons_append, Mode.after_cons,
        Mode.after_append]
        at h
      have hopen : (Mode.inside.next '"').after inside = .outside := Mode.outside_after hin
      rw [hopen] at h
      exact absurd h (Mode.after_ne_outside (none_of hb) (by decide))
  · exact htrim

/-! ## What reading returns -/

/-- The subtype that a media type is given for what was read. -/
def orWildcard (sub : Text) : Text := if sub.isEmpty then wildcard else sub

theorem readName_slash {main sub : Text} (hm : main ≠ []) (hs : sub ≠ []) (hmt : Text.Trimmed main)
    (hst : Text.Trimmed sub) (hslash : '/' ∉ main) : readName (main ++ '/' :: sub) = (main, sub) := by
  have ht : Text.Trimmed (main ++ ['/'] ++ sub) := hmt.surround hst hm hs _
  rw [List.append_assoc, List.singleton_append] at ht
  simp only [readName, Text.trim_eq_self ht, Text.cut_append hslash, Text.trim_eq_self hmt,
    Text.trim_eq_self hst]

theorem readName_cases (g : Text) : ('/' ∉ Text.trim g ∧ readName g = (Text.trim g, wildcard)) ∨
    ∃ a b, Text.trim g = a ++ '/' :: b ∧ '/' ∉ a ∧ readName g = (Text.trim a, Text.trim b) := by
  rcases Text.cut_cases '/' (Text.trim g) with ⟨hno, hcut⟩ | ⟨a, b, he, hno, hcut⟩
  · exact .inl ⟨hno, by simp only [readName, hcut]⟩
  · exact .inr ⟨a, b, he, hno, by simp only [readName, hcut]⟩

/-- Type and subtype with a slash between them are whole if what they were read
from is; the blanks around a slash are no part of any quotes. -/
theorem whole_readName {stop : Char → Bool} (hslash : stop '/' = false) (hstar : stop '*' = false) {g : Text}
    (hg : Whole stop g) : Whole stop ((readName g).1 ++ '/' :: orWildcard (readName g).2) := by
  have hfull := hg.trim
  have wild : Whole stop wildcard := .of_not_mem (by decide) (by simpa [wildcard] using hstar)
  rcases readName_cases g with ⟨-, hr⟩ | ⟨a, b, he, -, hr⟩
  · rw [hr]
    exact hfull.append (.cons (by decide) hslash wild)
  · rw [hr]
    have hwhole : Whole stop (Text.trim a ++ '/' :: Text.trim b) := by
      obtain ⟨x, y, hx, hy, ha⟩ := Text.exists_trim a
      obtain ⟨z, w, hz, hw, hb⟩ := Text.exists_trim b
      have hab : Text.trim g = x ++ (Text.trim a ++ y ++ '/' :: (z ++ Text.trim b)) ++ w := by
        conv => lhs; rw [he, ha, hb]
        simp
      rw [hab] at hfull
      exact .around hy hz (by decide) hslash (.of_blank_append hx (.of_append_blank hw hfull))
    unfold orWildcard
    split
    · rename_i hb
      have hb : Text.trim b = [] := List.isEmpty_iff.1 hb
      rw [hb] at hwhole
      have := hwhole.append wild
      rwa [List.append_assoc, List.cons_append, List.nil_append] at this
    · exact hwhole

theorem trimmed_readName (g : Text) :
    Text.Trimmed (readName g).1 ∧ Text.Trimmed (orWildcard (readName g).2) ∧ '/' ∉ (readName g).1 := by
  have wild : Text.Trimmed wildcard := by decide
  have sub : ∀ b, Text.Trimmed (orWildcard (Text.trim b)) := by
    intro b
    unfold orWildcard
    split
    · exact wild
    · exact Text.trimmed_trim b
  rcases readName_cases g with ⟨hno, hr⟩ | ⟨a, b, -, hno, hr⟩
  · rw [hr]
    exact ⟨Text.trimmed_trim g, wild, hno⟩
  · rw [hr]
    exact ⟨Text.trimmed_trim a, sub b, fun h => hno (Text.mem_of_mem_trim h)⟩

theorem orWildcard_ne_nil (sub : Text) : orWildcard sub ≠ [] := by
  unfold orWildcard
  split
  · decide
  · rename_i h
    simpa using h

theorem readableName_of_readName {g : Text} (hg : Whole (· == ';') g) (hm : (readName g).1 ≠ []) :
    ReadableName (readName g).1 (orWildcard (readName g).2) := by
  obtain ⟨hmt, hst, hslash⟩ := trimmed_readName g
  have hs := orWildcard_ne_nil (readName g).2
  exact ⟨hm, hs, whole_readName (by decide) (by decide) hg, readName_slash hm hs hmt hst hslash⟩

theorem readParameter?_cases {g : Text} {p : Text × Text} (h : readParameter? g = some p) :
    ∃ n raw, Text.trim g = n ++ '=' :: raw ∧ '=' ∉ n ∧ Text.trim n ≠ [] ∧
      p = (Text.trim n, readValue raw) := by
  unfold readParameter? at h
  rcases Text.cut_cases '=' (Text.trim g) with ⟨-, hcut⟩ | ⟨n, raw, he, hno, hcut⟩
  · rw [hcut] at h
    cases h
  · simp only [hcut] at h
    split at h
    · cases h
    · rename_i hne
      cases h
      exact ⟨n, raw, he, hno, by simpa using hne, rfl⟩

theorem readableParameter_of_read {g : Text} {p : Text × Text} (hg : Whole (· == ';') g)
    (h : readParameter? g = some p) : ReadableParameter p := by
  obtain ⟨n, raw, he, hno, hne, rfl⟩ := readParameter?_cases h
  have hw := hg.trim
  have hwhole : Whole (· == ';') (Text.trim n ++ '=' :: raw) := by
    obtain ⟨x, y, hx, hy, hn⟩ := Text.exists_trim n
    have hnr : Text.trim g = x ++ (Text.trim n ++ y ++ '=' :: ([] ++ raw)) := by
      conv => lhs; rw [he, hn]
      simp
    rw [hnr] at hw
    exact .around hy .nil (by decide) (by decide) (.of_blank_append hx hw)
  refine ⟨hne, Text.trimmed_trim n, fun hm => hno (Text.mem_of_mem_trim hm),
    (Clear.append.1 hwhole.clear).1, ?_⟩
  intro hopen
  have := hwhole.closed
  rw [Mode.after_append, Mode.after_cons, Mode.next_inert (by decide), Mode.settle_of_ne hopen] at this
  exact quote_mem_readValue this

theorem parameters_ofParts (main sub : Text) (ps : List (Text × Text)) :
    (ofParts main sub ps).parameters = OrderedTable.putAll Text.lower [] ps := rfl

theorem parse_of_split? {s g : Text} {gs : List Text} (h : Quoted.split? ';' s = .ok (g :: gs)) :
    parse s = if (readName g).1.isEmpty then .error (.emptyMediaType s)
      else .ok (ofParts (readName g).1 (readName g).2 (gs.filterMap readParameter?)) := by
  unfold parse
  rw [h]
  rfl

theorem parse_eq_ok {s : Text} {m : MediaType} (h : parse s = .ok m) :
    ∃ g gs, Quoted.split? ';' s = .ok (g :: gs) ∧ (readName g).1 ≠ [] ∧
      m = ofParts (readName g).1 (readName g).2 (gs.filterMap readParameter?) := by
  cases hs : Quoted.split? ';' s with
  | error e =>
    unfold parse at h
    rw [hs] at h
    cases h
  | ok segments =>
    cases segments with
    | nil => exact absurd rfl (Quoted.split?_ne_nil hs)
    | cons g gs =>
      rw [parse_of_split? hs] at h
      split at h
      · cases h
      · rename_i hne
        cases h
        exact ⟨g, gs, rfl, by simpa using hne, rfl⟩

/-- **What reading returns is readable.** -/
theorem readable_of_parse {s : Text} {m : MediaType} (h : parse s = .ok m) : Readable m := by
  obtain ⟨g, gs, hs, hm, rfl⟩ := parse_eq_ok h
  obtain ⟨-, -, hw⟩ := (Quoted.split?_eq_ok_iff (by decide)).1 hs
  refine ⟨readableName_of_readName (hw g (by simp)) hm, rfl, ?_, ?_⟩
  · rw [parameters_ofParts]
    have same : ∀ {n n' v v' : Text}, Text.lower n = Text.lower n' → ReadableParameter (n, v) →
        ReadableParameter (n', v') → ReadableParameter (n, v') := by
      intro n n' v v' hn h h'
      refine ⟨h.nonempty, h.trimmed, h.plain, h.clear, fun hopen => h'.closes ?_⟩
      have hmode : Mode.outside.after n = Mode.outside.after n' := by
        rw [← Mode.after_lower, hn, Mode.after_lower]
      rw [← hmode]
      exact hopen
    refine OrderedTable.forall_putAll Text.lower (I := fun n v => ReadableParameter (n, v)) same (by simp) ?_
    intro p hp
    obtain ⟨g', hg', hr⟩ := List.mem_filterMap.1 hp
    exact readableParameter_of_read (hw g' (by simp [hg'])) hr
  · rw [parameters_ofParts]
    exact OrderedTable.Distinct.putAll (by simp [OrderedTable.Distinct]) _

/-! ## Segments -/

/-- A parameter between the semicolons around it. -/
def segment (p : Text × Text) : Text := ' ' :: p.1 ++ '=' :: renderValue p.2

/-- A value behind one round trip, if its segment stays in one piece. -/
def reread (v : Text) : Text := if needsQuotes v then v else Text.trim v

theorem render_eq_join (m : MediaType) : m.render = Text.join [';'] (m.name :: m.parameters.map segment) := by
  rw [Text.join_eq_flatMap, List.flatMap_map]
  rfl

theorem special_mem {c : Char} {v : Text} (hc : c ∈ specials) (h : needsQuotes v = false) : c ∉ v := by
  intro hm
  simp only [needsQuotes, Bool.or_eq_false_iff, List.any_eq_false] at h
  exact h.2 c hm (by simpa using hc)

theorem whole_renderValue (v : Text) : Whole (· == ';') (renderValue v) := by
  unfold renderValue
  split
  · exact .quote (by decide) v
  · rename_i h
    have h : needsQuotes v = false := by simpa using h
    refine .of_not_mem (special_mem (by decide) h) fun c hc => ?_
    simp only [beq_eq_false_iff_ne]
    rintro rfl
    exact special_mem (by decide) h hc

/-- Quotes around a value whose name left quotes open close those instead. They
open again at the first quote of the value, which is written behind a backslash. -/
theorem quote_behind_open {a : Text} (ha : '"' ∉ a) (b : Text) :
    Mode.inside.after (Escape.quote (a ++ '"' :: b)) = .outside ∧
      (Clear (· == ';') .inside (Escape.quote (a ++ '"' :: b)) ↔ ';' ∉ a) := by
  have hq : Escape.quote (a ++ '"' :: b) =
      '"' :: (Escape.encode a ++ '\\' :: '"' :: (Escape.encode b ++ ['"'])) := by
    rw [Escape.quote, Quoted.encode_append]
    simp [Escape.encode]
  have hout : Mode.outside.after (Escape.encode a) = .outside :=
    Mode.outside_after fun h => ha ((Quoted.mem_encode (by decide)).1 h)
  have hb : (Mode.outside.next '\\').next '"' = .inside := rfl
  rw [hq]
  refine ⟨?_, ?_⟩
  · show Mode.outside.after _ = _
    rw [Mode.after_append, hout, Mode.after_cons, Mode.after_cons, hb, Mode.after_append,
      Mode.inside_after_encode]
    rfl
  · constructor
    · intro h hm
      have hc : Clear (· == ';') .outside (Escape.encode a) := (Clear.append.1 h.2).1
      obtain ⟨x, y, hx, hxn⟩ := List.eq_append_cons_of_mem ((Quoted.mem_encode (by decide)).2 hm)
      rw [hx] at hc hout
      have hxq : '"' ∉ x := fun hm => ha ((Quoted.mem_encode (by decide)).1 (by rw [hx]; simp [hm]))
      have := (Clear.append.1 hc).2
      rw [Mode.outside_after hxq] at this
      exact absurd (this.1 rfl) (by decide)
    · intro hm
      refine ⟨by simp, Clear.append.2 ⟨.of_not_stop (fun c hc => ?_) _, ?_⟩⟩
      · simp only [beq_eq_false_iff_ne]
        rintro rfl
        exact hm ((Quoted.mem_encode (by decide)).1 hc)
      · show Clear _ (Mode.outside.after _) _
        rw [hout]
        refine ⟨fun _ => rfl, fun _ => rfl, ?_⟩
        rw [hb]
        refine Clear.append.2 ⟨(Quoted.Within.encode b).mono (by simp), ?_⟩
        rw [Mode.inside_after_encode]
        exact ⟨by simp, trivial⟩

/-- **The quotes of a written parameter close**, and it is one segment exactly
when no semicolon got out of them. -/
theorem segment_modes {p : Text × Text} (hp : ReadableParameter p) :
    Mode.outside.after (segment p) = .outside ∧
      (Whole (· == ';') (segment p) ↔ (Mode.outside.after p.1 ≠ .outside →
        ';' ∉ p.2.takeWhile (· != '"'))) := by
  have hv := whole_renderValue p.2
  by_cases hn : Mode.outside.after p.1 = .outside
  · have hw : Whole (· == ';') (segment p) := by
      have hname : Whole (· == ';') p.1 := ⟨hp.clear, hn⟩
      exact (Whole.cons (by decide) (by decide) hname).append (.cons (by decide) (by decide) hv)
    exact ⟨hw.closed, fun _ h => absurd hn h, fun _ => hw⟩
  · obtain ⟨a, b, he, ha⟩ := List.eq_append_cons_of_mem (hp.closes hn)
    have htake : p.2.takeWhile (· != '"') = a := by
      rw [he, List.takeWhile_append_of_pos, List.takeWhile_cons_of_neg (by simp), List.append_nil]
      intro c hc
      simp only [bne_iff_ne, ne_eq]
      rintro rfl
      exact ha hc
    have hquoted : renderValue p.2 = Escape.quote (a ++ '"' :: b) := by
      have : needsQuotes p.2 = true := by
        cases h : needsQuotes p.2 with
        | true => rfl
        | false => exact absurd (hp.closes hn) (special_mem (by decide) h)
      rw [renderValue, if_pos this, he]
    obtain ⟨hafter, hclear⟩ := quote_behind_open ha b
    have hfront : Mode.outside.after (' ' :: p.1 ++ ['=']) = .inside := by
      show Mode.outside.after (p.1 ++ ['=']) = _
      rw [Mode.after_append, Mode.after_cons, Mode.after_nil, Mode.next_inert (by decide),
        Mode.settle_of_ne hn]
    have hseg : segment p = (' ' :: p.1 ++ ['=']) ++ Escape.quote (a ++ '"' :: b) := by
      rw [segment, hquoted]
      simp
    have hclose : Mode.outside.after (segment p) = .outside := by rw [hseg, Mode.after_append, hfront, hafter]
    refine ⟨hclose, ?_⟩
    rw [htake]
    constructor
    · intro hw _
      have := hw.clear
      rw [hseg, Clear.append, hfront] at this
      exact hclear.1 this.2
    · intro hs
      refine ⟨?_, hclose⟩
      rw [hseg, Clear.append, hfront]
      refine ⟨⟨fun _ => rfl, Clear.append.2 ⟨hp.clear, fun _ => rfl, trivial⟩⟩, hclear.2 (hs hn)⟩

/-! ## Reading a segment -/

theorem readValue_renderValue (v : Text) : readValue (renderValue v) = reread v := by
  unfold renderValue reread
  split
  · have ht : Text.Trimmed (Escape.quote v) :=
      Text.Trimmed.surround (a := ['"']) (b := ['"']) (by decide) (by decide) (by simp) (by simp)
        (Escape.encode v)
    have hi : Quoted.inner? (Escape.quote v) = some (Escape.encode v) := Quoted.inner?_quoted _
    simp only [readValue, Text.trim_eq_self ht, hi, Quoted.decode_encode]
  · rename_i h
    have hq : '"' ∉ v := special_mem (by decide) (by simpa using h)
    have hi : Quoted.inner? (Text.trim v) = none :=
        Quoted.inner?_eq_none fun hm => hq (Text.mem_of_mem_trim hm)
    simp only [readValue, hi]

theorem readParameter?_segment {p : Text × Text} (hp : ReadableParameter p) :
    readParameter? (segment p) = some (p.1, reread p.2) := by
  obtain ⟨r, htrim, hr⟩ := Text.trim_pair (f := [' ']) (by decide) hp.nonempty hp.trimmed (renderValue p.2)
  have hv : readValue r = reread p.2 := by
    rw [← readValue_renderValue]
    simp only [readValue, hr]
  have hseg : Text.trim (segment p) = p.1 ++ '=' :: r := htrim
  rw [readParameter?, hseg, Text.cut_append hp.plain]
  simp only [Text.trim_eq_self hp.trimmed, hv, List.isEmpty_iff, hp.nonempty, if_false]

/-! ## Equality -/

theorem equal_self (m : MediaType) : m.equal m = true := by simp [equal]

/-- The parameters of equal media types differ in their order and in the case of
their names only. -/
theorem perm_of_equal {a b : MediaType} (h : a.equal b = true) :
    (a.parameters.map fun p => (Text.lower p.1, p.2)).Perm
      (b.parameters.map fun p => (Text.lower p.1, p.2)) := by
  simp only [equal, key, beq_iff_eq, Prod.mk.injEq] at h
  have hs : a.sortedParameters = b.sortedParameters := h.2.2
  have ha := List.mergeSort_perm (a.parameters.map fun p => (Text.lower p.1, p.2)) parameterLe
  have hb := List.mergeSort_perm (b.parameters.map fun p => (Text.lower p.1, p.2)) parameterLe
  exact ha.symm.trans ((List.Perm.of_eq hs).trans hb)

theorem count_of_equal {a b : MediaType} (h : a.equal b = true) :
    a.parameters.length = b.parameters.length ∧
      (OrderedTable.spell id a.parameters).count ';' = (OrderedTable.spell id b.parameters).count ';' := by
  have lower : ∀ ps : OrderedTable Text Text, (OrderedTable.spell id ps).count ';' =
      ((ps.map fun p => (Text.lower p.1, p.2)).flatMap fun p => p.1 ++ p.2).count ';' := by
    intro ps
    induction ps with
    | nil => rfl
    | cons p ps ih =>
      simp only [OrderedTable.spell, List.flatMap_cons, List.map_cons, List.count_append] at ih ⊢
      rw [ih, Text.count_lower (by decide)]
      rfl
  have hp := perm_of_equal h
  refine ⟨by simpa using hp.length_eq, ?_⟩
  rw [lower, lower]
  exact (hp.flatMap_right _).count_eq ';'

/-! ## Round trip -/

/-- The written text has a semicolon for each parameter and those that its names
and values have. -/
theorem count_segments (ps : OrderedTable Text Text) :
    (ps.map segment).flatten.count ';' = (OrderedTable.spell id ps).count ';' := by
  induction ps with
  | nil => rfl
  | cons p ps ih =>
    have value : (renderValue p.2).count ';' = p.2.count ';' := by
      unfold renderValue
      split
      · rw [Escape.quote, List.cons_append, List.count_cons_of_ne (by decide), List.count_append,
          Quoted.count_encode (by decide)]
        simp
      · rfl
    have one : (segment p).count ';' = (p.1 ++ p.2).count ';' := by
      rw [segment, List.cons_append, List.count_cons_of_ne (by decide), List.count_append,
        List.count_cons_of_ne (by decide), value, List.count_append]
    rw [List.map_cons, List.flatten_cons, List.count_append, ih, one]
    simp only [OrderedTable.spell, List.flatMap_cons, List.count_append, id]

theorem count_read_le (gs : List Text) :
    (OrderedTable.spell id (gs.filterMap readParameter?)).count ';' ≤ gs.flatten.count ';' := by
  induction gs with
  | nil => simp [OrderedTable.spell]
  | cons g gs ih =>
    rw [List.flatten_cons, List.count_append]
    cases hr : readParameter? g with
    | none =>
      rw [List.filterMap_cons_none hr]
      omega
    | some p =>
      obtain ⟨n, raw, he, -, -, rfl⟩ := readParameter?_cases hr
      have hg : g.count ';' = (Text.trim n ++ readValue raw).count ';' := by
        rw [← Text.count_trim (by decide) g, he, List.count_append, List.count_cons_of_ne (by decide),
          List.count_append, Text.count_trim (by decide), count_readValue (by decide) (by decide) (by decide)]
      rw [List.filterMap_cons_some hr]
      simp only [OrderedTable.spell, List.flatMap_cons, List.count_append, id] at ih hg ⊢
      omega

/-- The segments of a written media type: its name, then one for each parameter
or, when one of them is not whole, more. -/
theorem split?_render {m : MediaType} (hm : Readable m) :
    ∃ gs, Quoted.split? ';' m.render = .ok (m.name :: gs) ∧
      ((∀ p ∈ m.parameters, Whole (· == ';') (segment p)) → gs = m.parameters.map segment) ∧
      (gs.length = m.parameters.length → ∀ p ∈ m.parameters, Whole (· == ';') (segment p)) := by
  have hname : Whole (· == ';') m.name := by
    rw [hm.name_eq]
    exact hm.name.whole
  rw [render_eq_join]
  by_cases hps : m.parameters = []
  · rw [hps]
    exact ⟨[], Quoted.split?_whole hname, by simp⟩
  · have hne : m.parameters.map segment ≠ [] := by simpa using hps
    have closed : ∀ t ∈ m.parameters.map segment, Mode.outside.after t = .outside := by
      intro t ht
      obtain ⟨p, hp, rfl⟩ := List.mem_map.1 ht
      exact (segment_modes (hm.parameters p hp)).1
    obtain ⟨gs, hgs, -, hall⟩ := Quoted.split?_join_closed (d := ';') (by decide) hne closed
    refine ⟨gs, ?_, fun hw => ?_, fun hl p hp => ?_⟩
    · rw [Text.join_cons _ hne, List.append_assoc, List.singleton_append,
        Quoted.split?_cons (by decide) hname, hgs]
      rfl
    · have whole : ∀ t ∈ m.parameters.map segment, Whole (· == ';') t := by
        intro t ht
        obtain ⟨p, hp, rfl⟩ := List.mem_map.1 ht
        exact hw p hp
      have := (Quoted.split?_eq_ok_iff (d := ';') (by decide)).2 ⟨hne, rfl, whole⟩
      rw [hgs] at this
      cases this
      rfl
    · exact hall (by rw [hl, List.length_map]) _ (List.mem_map.2 ⟨p, hp, rfl⟩)

theorem parse_render_of_split? {m : MediaType} (hm : Readable m) {gs : List Text}
    (hgs : Quoted.split? ';' m.render = .ok (m.name :: gs)) :
    parse m.render =
      .ok { m with parameters := OrderedTable.putAll Text.lower [] (gs.filterMap readParameter?) } := by
  have hname : readName m.name = (m.mainType, m.subtype) := by
    rw [hm.name_eq]
    exact hm.name.reads
  have hsub : orWildcard m.subtype = m.subtype := by
    rw [orWildcard, if_neg (by simpa using hm.name.sub_ne)]
  rw [parse_of_split? hgs, hname, if_neg (by simpa using hm.name.main_ne)]
  -- The name that is put together anew is the one that was kept.
  show Except.ok (MediaType.mk _ (orWildcard m.subtype) _ (_ ++ '/' :: orWildcard m.subtype)) = _
  rw [hsub, ← hm.name_eq]
  rfl

theorem parse_render_whole {m : MediaType} (hm : Readable m)
    (hw : ∀ p ∈ m.parameters, Whole (· == ';') (segment p)) :
    parse m.render = .ok { m with parameters := m.parameters.map fun p => (p.1, reread p.2) } := by
  obtain ⟨gs, hgs, hwhole, -⟩ := split?_render hm
  have hread : gs.filterMap readParameter? = m.parameters.map fun p => (p.1, reread p.2) := by
    rw [hwhole hw, List.filterMap_map, ← List.filterMap_eq_map]
    exact List.filterMap_congr fun p hp => readParameter?_segment (hm.parameters p hp)
  have hdistinct : OrderedTable.Distinct Text.lower ([] ++ m.parameters.map fun p => (p.1, reread p.2)) := by
    have := hm.distinct
    unfold OrderedTable.Distinct at this ⊢
    simpa [Function.comp_def] using this
  rw [parse_render_of_split? hm hgs, hread, OrderedTable.putAll_append Text.lower hdistinct]
  rfl

/-- An equal media type cannot come out of more segments than there are
parameters: each segment takes a semicolon of the written text for itself, and
fewer are left for names and values. -/
theorem whole_of_equal {m m' : MediaType} (hm : Readable m) (h : parse m.render = .ok m')
    (he : m'.equal m = true) : ∀ p ∈ m.parameters, Whole (· == ';') (segment p) := by
  obtain ⟨gs, hgs, -, hall⟩ := split?_render hm
  refine hall ?_
  rw [parse_render_of_split? hm hgs] at h
  cases h
  obtain ⟨hlen, hcount⟩ := count_of_equal he
  dsimp only at hlen hcount
  have written := Text.count_join ';' (List.cons_ne_nil m.name (m.parameters.map segment))
  have read := Text.count_join ';' (List.cons_ne_nil m.name gs)
  obtain ⟨-, hjoin, -⟩ := (Quoted.split?_eq_ok_iff (d := ';') (by decide)).1 hgs
  rw [hjoin, render_eq_join] at read
  simp only [List.length_cons, List.length_map, List.flatten_cons, List.count_append,
    count_segments] at written read
  have fewer := OrderedTable.length_putAll_le Text.lower [] (gs.filterMap readParameter?)
  have less := OrderedTable.count_spell_putAll_le Text.lower id ';' [] (gs.filterMap readParameter?)
  have kept := count_read_le gs
  have most := List.length_filterMap_le readParameter? gs
  simp only [List.length_nil, OrderedTable.spell, List.flatMap_nil,
    List.count_nil] at fewer less hcount written read kept
  omega

theorem reread_eq_self_iff {v : Text} : reread v = v ↔ (needsQuotes v = false → Text.Trimmed v) := by
  unfold reread
  cases h : needsQuotes v with
  | true => simp
  | false => simp [Text.trim_eq_self_iff]

/-- **The round trip of media types.** What was read reads again in its written
form, with the same type and subtype. It is the same media type exactly when
every parameter is faithful. -/
theorem parse_render {s : Text} {m : MediaType} (h : parse s = .ok m) :
    ∃ m', parse m.render = .ok m' ∧ m'.mainType = m.mainType ∧ m'.subtype = m.subtype ∧
      (m'.equal m = true ↔ ∀ p ∈ m.parameters, Faithful p) := by
  have hm := readable_of_parse h
  obtain ⟨gs, hgs, -, -⟩ := split?_render hm
  refine ⟨_, parse_render_of_split? hm hgs, rfl, rfl, fun he p hp => ?_, fun hf => ?_⟩
  · have hw := whole_of_equal hm (parse_render_of_split? hm hgs) he
    have hr := parse_render_whole hm hw
    rw [parse_render_of_split? hm hgs, Except.ok.injEq] at hr
    rw [hr] at he
    -- Names are distinct, so the values stay with their names.
    have hperm := perm_of_equal he
    have hmem : (Text.lower p.1, reread p.2) ∈ m.parameters.map fun p => (Text.lower p.1, p.2) := by
      refine hperm.mem_iff.1 ?_
      simp only [List.map_map, List.mem_map]
      exact ⟨p, hp, rfl⟩
    obtain ⟨q, hq, heq⟩ := List.mem_map.1 hmem
    simp only [Prod.mk.injEq] at heq
    have hqp : q = p := List.inj_on_of_nodup_map hm.distinct hq hp heq.1
    subst hqp
    exact ⟨reread_eq_self_iff.1 heq.2.symm, (segment_modes (hm.parameters q hp)).2.1 (hw q hp)⟩
  · have hw : ∀ p ∈ m.parameters, Whole (· == ';') (segment p) := fun p hp =>
      (segment_modes (hm.parameters p hp)).2.2 (hf p hp).closed
    have hsame : (m.parameters.map fun p => (p.1, reread p.2)) = m.parameters := by
      conv => rhs; rw [← List.map_id m.parameters]
      refine List.map_congr_left fun p hp => ?_
      rw [reread_eq_self_iff.2 (hf p hp).bare]
      rfl
    have hr := parse_render_whole hm hw
    rw [parse_render_of_split? hm hgs, Except.ok.injEq, hsame] at hr
    rw [hr]
    exact equal_self m

/-- A name that leaves quotes open and a value with a semicolon come back. -/
theorem parse_render_open_name :
    parse ['a', '/', 'b', ';', 'c', '"', '=', 'e', '"', ';', 'f', '=', '"', 'x', ';', 'y', '"'] =
      .ok ⟨['a'], ['b'], [(['c', '"'], ['e', '"']), (['f'], ['x', ';', 'y'])], ['a', '/', 'b']⟩ ∧
    ∃ m', parse (render ⟨['a'], ['b'], [(['c', '"'], ['e', '"']), (['f'], ['x', ';', 'y'])], ['a', '/', 'b']⟩) = .ok m' ∧
      m'.equal ⟨['a'], ['b'], [(['c', '"'], ['e', '"']), (['f'], ['x', ';', 'y'])], ['a', '/', 'b']⟩ = true := by
  have h : parse ['a', '/', 'b', ';', 'c', '"', '=', 'e', '"', ';', 'f', '=', '"', 'x', ';', 'y', '"'] =
      .ok ⟨['a'], ['b'], [(['c', '"'], ['e', '"']), (['f'], ['x', ';', 'y'])], ['a', '/', 'b']⟩ := by decide +kernel
  obtain ⟨m', hp, -, -, he⟩ := parse_render h
  refine ⟨h, m', hp, he.2 fun p hm => ?_⟩
  simp only [List.mem_cons, List.not_mem_nil, or_false] at hm
  rcases hm with rfl | rfl
  · exact ⟨by decide, by decide⟩
  · exact ⟨by decide, by decide⟩

/-- A no-break space at the end of a quoted value is lost: it is no special
character, so the value is written without quotes. -/
theorem parse_render_no_break_space :
    parse ['a', '/', 'b', ';', 'c', '=', '"', 'x', '\u00a0', '"'] =
      .ok ⟨['a'], ['b'], [(['c'], ['x', '\u00a0'])], ['a', '/', 'b']⟩ ∧
    parse (render ⟨['a'], ['b'], [(['c'], ['x', '\u00a0'])], ['a', '/', 'b']⟩) = .ok ⟨['a'], ['b'], [(['c'], ['x'])], ['a', '/', 'b']⟩ ∧
    equal ⟨['a'], ['b'], [(['c'], ['x'])], ['a', '/', 'b']⟩ ⟨['a'], ['b'], [(['c'], ['x', '\u00a0'])], ['a', '/', 'b']⟩ = false := by
  refine ⟨?_, ?_, ?_⟩ <;> decide +kernel

end MessageHead.MediaType
