/-
The parameters of a content type that was read. It keeps them twice. As they were
written the first one of a name is found; the media type has been given them one
after the other, so the last one that has a value stands there
(`parameter?_mediaType`). The charset is that of the first.

So the two views part where a name is repeated, and agree exactly when every name
has the value of its last valued parameter in its first one (`Settled`).
-/
import MessageHead.ContentType
import MessageHead.Proofs.ElementRoundTrip
import MessageHead.Proofs.MediaTypeRoundTrip

namespace MessageHead

/-- The charset that a name stands for, if it stands for one. -/
def Charset.named? (name : Text) : Option Charset := (Charset.ofName name).toOption

theorem Charset.named?_eq_some_iff {name : Text} {c : Charset} :
    Charset.named? name = some c ↔ Charset.ofName name = .ok c := by
  unfold named?
  cases Charset.ofName name <;> simp [Except.toOption]

namespace ContentType

open MediaType (readName orWildcard charsetName)

/-! ## Reading -/

/-- The content type that a media type becomes with the parameters behind it. -/
def ofParameters (m : MediaType) (ps : List Parameter) : ContentType :=
  ⟨ps.foldl addParameter m, (parameterOf? ps charsetName).bind Charset.named?, ps⟩

theorem read_of_parse {v : Text} {e : Element} {es : List Element} {m : MediaType}
    (he : Element.parse v = .ok (e :: es)) (hm : MediaType.parse e.name = .ok m) :
    (read v).map Prod.fst = .ok (ofParameters m e.parameters) := by
  unfold read
  rw [he]
  simp only [hm]
  unfold ofParameters
  cases parameterOf? e.parameters charsetName with
  | none => rfl
  | some name =>
    simp only [Option.map_some, Option.bind_some, Charset.named?]
    cases Charset.ofName name <;> rfl

theorem parseLenient_eq_ok_iff {v : Text} {ct : ContentType} :
    parseLenient v = .ok ct ↔ ∃ e es m, Element.parse v = .ok (e :: es) ∧ MediaType.parse e.name = .ok m ∧
      ct = ofParameters m e.parameters := by
  constructor
  · intro h
    cases he : Element.parse v with
    | error fault =>
      unfold parseLenient read at h
      rw [he] at h
      cases h
    | ok es =>
      cases es with
      | nil =>
        unfold parseLenient read at h
        rw [he] at h
        cases h
      | cons e es =>
        cases hm : MediaType.parse e.name with
        | error fault =>
          unfold parseLenient read at h
          rw [he] at h
          simp only [hm] at h
          cases h
        | ok m =>
          unfold parseLenient at h
          rw [read_of_parse he hm] at h
          cases h
          exact ⟨e, es, m, rfl, hm, rfl⟩
  · rintro ⟨e, es, m, he, hm, rfl⟩
    exact read_of_parse he hm

theorem parseWith_lenient {v : Text} {ct : ContentType} (h : parseLenient v = .ok ct) :
    parseWith false v = .ok ct := by
  unfold parseWith
  unfold parseLenient at h
  cases hr : read v with
  | error e =>
    rw [hr] at h
    cases h
  | ok p =>
    obtain ⟨ct', unresolved⟩ := p
    rw [hr] at h
    cases h
    cases unresolved <;> rfl

/-- What a content type was read from: a token for its media type, which has no
parameters then, and tokens for the names of its parameters. -/
theorem of_parseLenient {v : Text} {ct : ContentType} (h : parseLenient v = .ok ct) :
    ∃ g, Element.Token g ∧ (readName g).1 ≠ [] ∧ (∀ p ∈ ct.parameters, p.name ≠ [] ∧ Element.Token p.name) ∧
      ct = ofParameters (MediaType.ofParts (readName g).1 (readName g).2 []) ct.parameters := by
  obtain ⟨e, es, m, he, hm, rfl⟩ := parseLenient_eq_ok_iff.1 h
  have hr := Element.readable_of_readAll (Element.parse_eq_ok_iff.1 he).1 e (by simp)
  obtain ⟨g, gs, hs, hne, rfl⟩ := MediaType.parse_eq_ok hm
  rw [Quoted.split?_whole hr.name.whole_semicolon] at hs
  cases hs
  exact ⟨e.name, hr.name, hne, hr.parameters, rfl⟩

/-! ## Parameters of one name -/

/-- The value of the last parameter of that name that has one. -/
def lastValue? (ps : List Parameter) (name : Text) : Option Text :=
  ps.reverse.findSome? fun p => if Text.sameFold p.name name then p.value else none

/-- What a parameter puts into a media type: nothing without a value. -/
def entry? (p : Parameter) : Option (Text × Text) := p.value.map (p.name, ·)

theorem foldl_addParameter (m : MediaType) (ps : List Parameter) :
    ps.foldl addParameter m =
      { m with parameters := OrderedTable.putAll Text.lower m.parameters (ps.filterMap entry?) } := by
  induction ps generalizing m with
  | nil => rfl
  | cons p ps ih =>
    obtain ⟨n, v⟩ := p
    rw [List.foldl_cons, ih]
    cases v <;> rfl

theorem get?_entries (ps : List Parameter) (name : Text) :
    OrderedTable.get? (Text.sameFold · name) (ps.filterMap entry?) =
      ps.findSome? fun p => if Text.sameFold p.name name then p.value else none := by
  induction ps with
  | nil => rfl
  | cons p ps ih =>
    obtain ⟨n, v⟩ := p
    rw [List.findSome?_cons]
    cases v with
    | none => rw [List.filterMap_cons_none rfl, ih, ite_self]
    | some v =>
      rw [List.filterMap_cons_some (f := entry?) (b := (n, v)) rfl, OrderedTable.get?_cons, ih]
      cases Text.sameFold n name <;> rfl

/-- **The last parameter with a value stands** in the media type. -/
theorem parameter?_ofParameters {m : MediaType} (hm : m.parameters = []) (ps : List Parameter) (name : Text) :
    (ofParameters m ps).mediaType.parameter? name = lastValue? ps name := by
  have hput := OrderedTable.get?_putAll Text.lower m.parameters (ps.filterMap entry?) (Text.lower name)
  have hnone : OrderedTable.get? (fun k => Text.lower k == Text.lower name) m.parameters = none := by
    rw [hm]
    rfl
  rw [hnone, Option.or_none, ← List.filterMap_reverse] at hput
  show ((ps.foldl addParameter m).parameters).get? (Text.sameFold · name) = _
  rw [foldl_addParameter]
  exact hput.trans (get?_entries ps.reverse name)

theorem parameter?_mediaType {v : Text} {ct : ContentType} (h : parseLenient v = .ok ct) (name : Text) :
    ct.mediaType.parameter? name = lastValue? ct.parameters name := by
  obtain ⟨g, -, -, -, hct⟩ := of_parseLenient h
  rw [hct]
  exact parameter?_ofParameters rfl ct.parameters name

theorem charset_eq {v : Text} {ct : ContentType} (h : parseLenient v = .ok ct) :
    ct.charset = (ct.parameter? charsetName).bind Charset.named? := by
  obtain ⟨g, -, -, -, hct⟩ := of_parseLenient h
  rw [hct]
  rfl

/-! ## Agreement -/

/-- The first parameter of every name has the value of the last one that has any. -/
def Settled (ps : List Parameter) : Prop := ∀ p ∈ ps, parameterOf? ps p.name = lastValue? ps p.name

instance (ps : List Parameter) : Decidable (Settled ps) :=
  inferInstanceAs (Decidable (∀ p ∈ ps, parameterOf? ps p.name = lastValue? ps p.name))

theorem parameterOf?_congr {a b : Text} (h : Text.lower a = Text.lower b) (ps : List Parameter) :
    parameterOf? ps a = parameterOf? ps b ∧ lastValue? ps a = lastValue? ps b := by
  have hab : ∀ n, Text.sameFold n a = Text.sameFold n b := fun n => by simp only [Text.sameFold, h]
  simp only [parameterOf?, Parameter.find?, lastValue?, hab, and_self]

theorem parameterOf?_eq_none {ps : List Parameter} {name : Text}
    (h : ∀ p ∈ ps, Text.sameFold p.name name = false) :
    parameterOf? ps name = none ∧ lastValue? ps name = none := by
  refine ⟨?_, ?_⟩
  · have hf : Parameter.find? name ps = none := List.find?_eq_none.2 fun p hp => by simp [h p hp]
    rw [parameterOf?, hf]
    rfl
  · refine List.findSome?_eq_none_iff.2 fun p hp => ?_
    rw [h p (List.mem_reverse.1 hp)]
    rfl

theorem settled_iff {ps : List Parameter} :
    (∀ name, parameterOf? ps name = lastValue? ps name) ↔ Settled ps := by
  constructor
  · exact fun h p _ => h p.name
  · intro h name
    by_cases hp : ∃ p ∈ ps, Text.sameFold p.name name = true
    · obtain ⟨p, hp, hn⟩ := hp
      obtain ⟨h₁, h₂⟩ := parameterOf?_congr (Text.sameFold_iff.1 hn) ps
      rw [← h₁, ← h₂]
      exact h p hp
    · have hnone : ∀ p ∈ ps, Text.sameFold p.name name = false := fun p hm => by
        cases hs : Text.sameFold p.name name with
        | false => rfl
        | true => exact absurd ⟨p, hm, hs⟩ hp
      rw [(parameterOf?_eq_none hnone).1, (parameterOf?_eq_none hnone).2]

theorem settled_of_nodup {ps : List Parameter} (h : (ps.map fun p => Text.lower p.name).Nodup) :
    Settled ps := by
  intro p hp
  have only : ∀ q ∈ ps, Text.sameFold q.name p.name = true → q = p := fun q hq hs =>
    List.inj_on_of_nodup_map h hq hp (Text.sameFold_iff.1 hs)
  have self : Text.sameFold p.name p.name = true := Text.sameFold_iff.2 rfl
  have first : parameterOf? ps p.name = p.value := by
    cases hf : Parameter.find? p.name ps with
    | none => exact absurd self (List.find?_eq_none.1 hf p hp)
    | some q =>
      have hs := List.find?_some (p := fun r : Parameter => Text.sameFold r.name p.name) hf
      have hq := only q (List.mem_of_find?_eq_some hf) hs
      rw [parameterOf?, hf, hq]
      rfl
  have last : lastValue? ps p.name = p.value := by
    cases hl : lastValue? ps p.name with
    | none =>
      have := List.findSome?_eq_none_iff.1 hl p (List.mem_reverse.2 hp)
      rw [if_pos self] at this
      exact this.symm
    | some v =>
      obtain ⟨q, hq, hv⟩ := List.exists_of_findSome?_eq_some hl
      split at hv
      · rename_i hs
        rw [only q (List.mem_reverse.1 hq) hs] at hv
        exact hv.symm
      · cases hv
  rw [first, last]

theorem charset_agrees_iff {v : Text} {ct : ContentType} (h : parseLenient v = .ok ct) :
    (∀ c, ct.charset = some c ↔ ∃ name, ct.mediaType.charset? = some name ∧ Charset.ofName name = .ok c) ↔
      (parameterOf? ct.parameters charsetName).bind Charset.named? =
        (lastValue? ct.parameters charsetName).bind Charset.named? := by
  have declared : ∀ c, (∃ name, ct.mediaType.charset? = some name ∧ Charset.ofName name = .ok c) ↔
      (lastValue? ct.parameters charsetName).bind Charset.named? = some c := by
    intro c
    rw [← parameter?_mediaType h, Option.bind_eq_some_iff]
    simp only [Charset.named?_eq_some_iff]
    rfl
  simp only [declared, charset_eq h]
  exact ⟨Option.ext, fun he c => by rw [← he]; rfl⟩

/-- **The two views of the parameters.** Those of the media type are the last ones
with a value, those of the content type the first ones. They agree on all names
exactly when the parameters are settled, as they are when no name is repeated; and
the charset is the one the media type declares exactly when the first and the last
valued charset parameter name the same. -/
theorem parameter?_agrees {v : Text} {ct : ContentType} (h : parseLenient v = .ok ct) :
    (∀ name, ct.mediaType.parameter? name = lastValue? ct.parameters name) ∧
    ((∀ name, ct.parameter? name = ct.mediaType.parameter? name) ↔ Settled ct.parameters) ∧
    ((ct.parameters.map fun p => Text.lower p.name).Nodup → Settled ct.parameters) ∧
    ((∀ c, ct.charset = some c ↔ ∃ name, ct.mediaType.charset? = some name ∧ Charset.ofName name = .ok c) ↔
      (parameterOf? ct.parameters charsetName).bind Charset.named? =
        (lastValue? ct.parameters charsetName).bind Charset.named?) := by
  refine ⟨parameter?_mediaType h, ?_, settled_of_nodup, charset_agrees_iff h⟩
  simp only [parameter?_mediaType h]
  exact settled_iff

/-- A charset given twice, in the same words, and a parameter without a value. -/
theorem parameter?_agrees_twice :
    ∃ ct, parseLenient "text/plain; charset=utf-8; Charset=\"utf-8\"; flowed".toList = .ok ct ∧
      (∀ name, ct.parameter? name = ct.mediaType.parameter? name) ∧
      ∀ c, ct.charset = some c ↔ ∃ name, ct.mediaType.charset? = some name ∧ Charset.ofName name = .ok c := by
  have h : parseLenient "text/plain; charset=utf-8; Charset=\"utf-8\"; flowed".toList =
      .ok ⟨⟨"text".toList, "plain".toList, [("charset".toList, "utf-8".toList)], "text/plain".toList⟩, some .utf8,
        [⟨"charset".toList, some "utf-8".toList⟩, ⟨"Charset".toList, some "utf-8".toList⟩,
          ⟨"flowed".toList, none⟩]⟩ := by
    decide +kernel
  obtain ⟨-, hparameter, -, hcharset⟩ := parameter?_agrees h
  have hs : Settled [⟨"charset".toList, some "utf-8".toList⟩, ⟨"Charset".toList, some "utf-8".toList⟩,
      ⟨"flowed".toList, none⟩] := by decide
  exact ⟨_, h, hparameter.2 hs, hcharset.2 (by rw [settled_iff.2 hs])⟩

/-- Two charsets: the first one is resolved, the last one is the media type's and is
written into headers. -/
theorem parameter?_agrees_two_charsets :
    ∃ ct, parseLenient "text/plain; charset=utf-8; charset=latin1".toList = .ok ct ∧
      ct.parameter? charsetName = some "utf-8".toList ∧
      ct.mediaType.parameter? charsetName = some "latin1".toList ∧
      ct.charset = some .utf8 ∧
      Charset.ofName "latin1".toList = .ok .iso8859_1 ∧
      ct.render = "text/plain; charset=latin1".toList := by
  refine ⟨⟨⟨"text".toList, "plain".toList, [("charset".toList, "latin1".toList)], "text/plain".toList⟩, some .utf8,
    [⟨"charset".toList, some "utf-8".toList⟩, ⟨"charset".toList, some "latin1".toList⟩]⟩, ?_⟩
  refine ⟨?_, ?_, ?_, ?_, ?_, ?_⟩ <;> decide +kernel

end ContentType

end MessageHead
