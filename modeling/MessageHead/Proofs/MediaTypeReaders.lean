/-
Media types read by both readers. Alone a media type is cut into segments at its
semicolons (`MediaType.parse`); as a content type it is the first element of a
header value, read token by token (`ContentType.parseLenient`).

On written media types the two agree: in a name without delimiters both find what
was written, and values in quotes come back as they were. What is written bare
loses the blanks at its ends, in both.

The element reader asks less of names than the other one. Quotes in them may hold
delimiters as long as they close (`Elemental`), so what it has read always reads
again, which is not so for the other reader.
-/
import MessageHead.Proofs.ContentTypeParameters

namespace MessageHead

theorem Charset.named?_trim (name : Text) : named? (Text.trim name) = named? name := by
  unfold named? ofName
  rw [Text.trim_eq_self (Text.trimmed_trim name)]
  cases ofLabel? (Text.lower (Text.trim name)) <;> rfl

namespace MediaType

open Element (Token PlainName StopsAt EndsElement endsName endsValue isSpacing)
open Quoted (Whole)

/-! ## Every media type there is -/

/-- A media type that was made from parts, read, or made of another one. -/
inductive Built : MediaType → Prop
  | ofParts (main sub : Text) (ps : List (Text × Text)) : Built (ofParts main sub ps)
  | parse {s : Text} {m : MediaType} : parse s = .ok m → Built m
  | withParameter {m : MediaType} (name value : Text) : Built m → Built (m.withParameter name value)
  | withCharset {m : MediaType} (c : Charset) : Built m → Built (m.withCharset c)
  | bare {m : MediaType} : Built m → Built m.bare

theorem distinct_ofParts (main sub : Text) (ps : List (Text × Text)) :
    OrderedTable.Distinct Text.lower (ofParts main sub ps).parameters := by
  rw [parameters_ofParts]
  exact OrderedTable.Distinct.putAll (by simp [OrderedTable.Distinct]) ps

theorem distinct_withParameter {m : MediaType} (h : OrderedTable.Distinct Text.lower m.parameters)
    (name value : Text) : OrderedTable.Distinct Text.lower (m.withParameter name value).parameters :=
  h.put name value

theorem Built.distinct {m : MediaType} (h : Built m) : OrderedTable.Distinct Text.lower m.parameters := by
  induction h with
  | ofParts main sub ps => exact distinct_ofParts main sub ps
  | parse h => exact (readable_of_parse h).distinct
  | withParameter name value _ ih => exact distinct_withParameter ih name value
  | withCharset c _ ih => exact distinct_withParameter ih _ _
  | bare => exact distinct_ofParts _ _ []

/-- **The name a media type keeps is that of its parts**, whatever was made of it since it was
put together. -/
theorem Built.name_eq {m : MediaType} (h : Built m) : m.name = m.mainType ++ '/' :: m.subtype := by
  induction h with
  | ofParts main sub ps => rfl
  | parse h => exact (readable_of_parse h).name_eq
  | withParameter name value _ ih => exact ih
  | withCharset c _ ih => exact ih
  | bare => rfl

/-! ## Written as an element -/

/-- A media type that is written as an element: its name and those of its
parameters are tokens, with distinct names for the parameters. -/
structure Elemental (m : MediaType) : Prop where
  name : Token m.name
  name_eq : m.name = m.mainType ++ '/' :: m.subtype
  reads : ReadableName m.mainType m.subtype
  parameters : ∀ p ∈ m.parameters, p.1 ≠ [] ∧ Token p.1
  distinct : OrderedTable.Distinct Text.lower m.parameters

/-- A media type behind one round trip: values that are written bare lose the
blanks at their ends. -/
def rereadAll (m : MediaType) : MediaType :=
  { m with parameters := m.parameters.map fun p => (p.1, reread p.2) }

/-- A parameter as an element holds it. -/
def reparameter (p : Text × Text) : Parameter := ⟨p.1, some (reread p.2)⟩

theorem readValue_bare {v t : Text} (hv : needsQuotes v = false) (ht : StopsAt endsValue t) :
    Element.readValue (v ++ t) = .ok (Text.trim v, t) := by
  obtain ⟨a, ha, ⟨body, rfl⟩ | ⟨u, rfl, hu⟩⟩ := Element.exists_spacing v
  · exact absurd (by simp) (special_mem (c := '"') (by decide) hv)
  · have not_mem : ∀ {d : Char}, d ∈ specials → d ∉ u := fun hd hm => special_mem hd hv (by simp [hm])
    have hwhole : Whole endsValue u := by
      refine .of_not_mem (not_mem (by decide)) fun c hc => ?_
      have hs : c ≠ ';' := fun e => not_mem (by decide) (e ▸ hc)
      have hcomma : c ≠ ',' := fun e => not_mem (by decide) (e ▸ hc)
      simp [endsValue, hs, hcomma]
    rw [List.append_assoc, Element.readValue_bare ha (hu.append ht.bare), Element.readToken, Element.readRaw_append hwhole ht,
      Text.trim_blank_append ha.blank]
    rfl

theorem readValue_render {t : Text} (ht : StopsAt endsValue t) (v : Text) :
    Element.readValue (renderValue v ++ t) = .ok (reread v, t) := by
  cases hv : needsQuotes v with
  | true =>
    have := Element.readValue_written_quoted (a := []) (b := []) .nil .nil ht v
    simpa [renderValue, reread, hv] using this
  | false =>
    have := readValue_bare hv ht
    simpa [renderValue, reread, hv] using this

theorem stopsAt_render (ps : List (Text × Text)) : StopsAt endsValue (ps.flatMap renderParameter) := by
  cases ps with
  | nil => exact .nil
  | cons p ps => exact .cons rfl _

theorem readParameters_render {ps : List (Text × Text)} (h : ∀ p ∈ ps, p.1 ≠ [] ∧ Token p.1) :
    Element.readParameters (ps.flatMap renderParameter) = .ok (ps.map reparameter, []) := by
  induction ps with
  | nil => exact Element.readParameters_nil .nil
  | cons p ps ih =>
    obtain ⟨hne, hn⟩ := h p (by simp)
    have hvalue := readValue_render (stopsAt_render ps) p.2
    have hpair := Element.readPair_of_readValue (a := [' ']) (b := []) hn (by decide) .nil hvalue
    have htext : (p :: ps).flatMap renderParameter =
        ';' :: ([' '] ++ p.1 ++ [] ++ '=' :: (renderValue p.2 ++ ps.flatMap renderParameter)) := by
      simp [renderParameter]
    rw [htext, Element.readParameters_of_readPair hpair, ih fun q hq => h q (by simp [hq])]
    simp [Except.map, hne, reparameter]

/-- **A written media type is one element**, its name that of the element. -/
theorem parse_element {m : MediaType} (h : Elemental m) :
    Element.parse m.render = .ok [⟨m.name, none, m.parameters.map reparameter⟩] := by
  have hname : Element.WrittenPair ⟨m.name, none⟩ m.name := by
    simpa using Element.WrittenPair.name (n := m.name) .nil .nil
  have hpair := Element.readPair_written hname h.name (stopsAt_render m.parameters)
  have helement : Element.readElement m.render = .ok (⟨m.name, none, m.parameters.map reparameter⟩, []) := by
    rw [Element.readElement, render, hpair]
    simp only [readParameters_render h.parameters]
    rfl
  have hne : m.name ≠ [] := by simp [h.name_eq]
  exact Element.parse_of_readElement (by simp [render, hne]) (by simp [Element.isVoid, hne]) helement

theorem parse_name {m : MediaType} (h : ReadableName m.mainType m.subtype)
    (hname : m.name = m.mainType ++ '/' :: m.subtype) : parse m.name = .ok { m with parameters := [] } := by
  have hbare : Readable { m with parameters := [] } := ⟨h, hname, by simp, by simp [OrderedTable.Distinct]⟩
  have := parse_render_whole hbare (by simp)
  simpa [render] using this

theorem distinct_rereadAll {m : MediaType} (h : OrderedTable.Distinct Text.lower m.parameters) :
    OrderedTable.Distinct Text.lower m.rereadAll.parameters := by
  unfold OrderedTable.Distinct at h ⊢
  simpa [rereadAll, Function.comp_def] using h

theorem parameterOf?_reparameter (m : MediaType) (name : Text) :
    ContentType.parameterOf? (m.parameters.map reparameter) name = (m.parameter? name).map reread := by
  unfold ContentType.parameterOf? Parameter.find? parameter? OrderedTable.get? OrderedTable.first?
  rw [List.find?_map]
  show (Option.map reparameter (List.find? (fun p => Text.sameFold p.1 name) m.parameters)).bind _ = _
  cases List.find? (fun p => Text.sameFold p.1 name) m.parameters <;> rfl

theorem bind_named?_reread (name : Option Text) :
    (name.map reread).bind Charset.named? = name.bind Charset.named? := by
  cases name with
  | none => rfl
  | some name =>
    show Charset.named? (reread name) = Charset.named? name
    unfold reread
    split
    · rfl
    · exact Charset.named?_trim name

/-- **A written media type as a content type**: its parameters behind one round
trip, and the charset it named before. -/
theorem parseLenient_render {m : MediaType} (h : Elemental m) :
    ContentType.parseLenient m.render =
      .ok ⟨m.rereadAll, m.charset?.bind Charset.named?, m.parameters.map reparameter⟩ := by
  refine ContentType.parseLenient_eq_ok_iff.2 ⟨_, _, _, parse_element h, parse_name h.reads h.name_eq, ?_⟩
  have hentries : (m.parameters.map reparameter).filterMap ContentType.entry? = m.rereadAll.parameters := by
    rw [List.filterMap_map, rereadAll, ← List.filterMap_eq_map]
    rfl
  have hput : OrderedTable.putAll Text.lower [] m.rereadAll.parameters = m.rereadAll.parameters :=
    OrderedTable.putAll_append Text.lower (t := []) (distinct_rereadAll h.distinct)
  have hcharset : (ContentType.parameterOf? (m.parameters.map reparameter) charsetName).bind Charset.named? =
      m.charset?.bind Charset.named? := by
    rw [parameterOf?_reparameter, bind_named?_reread, charset?]
  unfold ContentType.ofParameters
  rw [ContentType.foldl_addParameter, hentries, hput, hcharset]
  rfl

/-! ## Agreement -/

/-- A media type with names that delimit nothing. Its values are any texts. -/
structure Plain (m : MediaType) : Prop where
  mainType : PlainName m.mainType
  slash : '/' ∉ m.mainType
  subtype : PlainName m.subtype
  parameters : ∀ p ∈ m.parameters, PlainName p.1

theorem Plain.token {m : MediaType} (h : Plain m) : Token (m.mainType ++ '/' :: m.subtype) := by
  refine ⟨?_, h.mainType.token.whole.append (.cons (by decide) (by decide) h.subtype.token.whole)⟩
  have := h.mainType.trimmed.surround h.subtype.trimmed h.mainType.nonempty h.subtype.nonempty ['/']
  simpa using this

theorem Plain.readableName {m : MediaType} (h : Plain m) : ReadableName m.mainType m.subtype where
  main_ne := h.mainType.nonempty
  sub_ne := h.subtype.nonempty
  whole := h.token.whole_semicolon
  reads := readName_slash h.mainType.nonempty h.subtype.nonempty h.mainType.trimmed h.subtype.trimmed h.slash

theorem Plain.readable {m : MediaType} (h : Plain m) (hb : Built m) : Readable m where
  name := h.readableName
  name_eq := hb.name_eq
  distinct := hb.distinct
  parameters p hp := by
    have hn := h.parameters p hp
    have hw := hn.token.whole_semicolon
    exact ⟨hn.nonempty, hn.trimmed, fun hm => (hn.plain _ hm).2.1 rfl, hw.clear, fun ho => absurd hw.closed ho⟩

theorem Plain.elemental {m : MediaType} (h : Plain m) (hb : Built m) : Elemental m where
  name := by
    rw [hb.name_eq]
    exact h.token
  name_eq := hb.name_eq
  reads := h.readableName
  parameters p hp := ⟨(h.parameters p hp).nonempty, (h.parameters p hp).token⟩
  distinct := hb.distinct

/-- **The two readers agree on written media types** with names that delimit
nothing, and return all parameters in order: what was written in quotes unchanged,
the rest without the blanks at its ends. -/
theorem readers_agree {m : MediaType} (hb : Built m) (hp : Plain m) :
    parse m.render = .ok m.rereadAll ∧
      ∃ ct, ContentType.parseLenient m.render = .ok ct ∧ ct.mediaType = m.rereadAll := by
  refine ⟨?_, _, parseLenient_render (hp.elemental hb), rfl⟩
  have hr := hp.readable hb
  refine parse_render_whole hr fun p hm => (segment_modes (hr.parameters p hm)).2.2 fun ho => ?_
  exact absurd (hp.parameters p hm).token.whole_semicolon.closed ho

/-- A value with every kind of delimiter in it, one with blanks that no quotes keep,
and an empty one. -/
theorem readers_agree_values :
    parse (render (ofParts ['a'] ['b'] [(['c'], ['x', ';', '"', '\\', ',', ' ']),
        (['d'], ['\u00a0', 'y', '\r']), (['e'], [])])) =
      .ok ⟨['a'], ['b'], [(['c'], ['x', ';', '"', '\\', ',', ' ']), (['d'], ['y']), (['e'], [])], ['a', '/', 'b']⟩ ∧
    ∃ ct, ContentType.parseLenient (render (ofParts ['a'] ['b'] [(['c'], ['x', ';', '"', '\\', ',', ' ']),
        (['d'], ['\u00a0', 'y', '\r']), (['e'], [])])) = .ok ct ∧
      ct.mediaType =
        ⟨['a'], ['b'], [(['c'], ['x', ';', '"', '\\', ',', ' ']), (['d'], ['y']), (['e'], [])], ['a', '/', 'b']⟩ := by
  have hp : Plain (ofParts ['a'] ['b'] [(['c'], ['x', ';', '"', '\\', ',', ' ']),
      (['d'], ['\u00a0', 'y', '\r']), (['e'], [])]) := by
    have plain : ∀ n ∈ [['a'], ['b'], ['c'], ['d'], ['e']], PlainName n := by
      intro n hn
      simp only [List.mem_cons, List.not_mem_nil, or_false] at hn
      rcases hn with rfl | rfl | rfl | rfl | rfl <;> exact ⟨by decide, by decide, by decide⟩
    refine ⟨plain _ (by decide), by decide, plain _ (by decide), fun p hm => plain _ ?_⟩
    have hname : p.1 ∈ [['c'], ['d'], ['e']] := List.mem_map.2 ⟨p, hm, rfl⟩
    exact List.mem_cons_of_mem _ (List.mem_cons_of_mem _ hname)
  exact readers_agree (.ofParts _ _ _) hp

end MediaType

end MessageHead
