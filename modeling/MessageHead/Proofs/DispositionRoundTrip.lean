/-
Content dispositions with a file name in a charset, built and read back.

The file name is written twice. The extended value is percent-coded and always
reads back (`ExtendedValue.read_encode`). The encoded word before it stands in
quotes but is not escaped for them, so a quote in the file name closes the
quotes around the word (`EncodedWord.skip?_encode_iff`), and what follows is
read as part of the header. The header holds the parameters it was built with
and no others exactly when no quote closes; `Survives` says when the disposition
comes back although one does.
-/
import MessageHead.Disposition
import MessageHead.Proofs.EncodedWordFacts
import MessageHead.Proofs.ReaderExtension

namespace MessageHead.Element

/-! ## Values of parameters -/

theorem readValue_of_readPair {s rest x : Text} {p : Parameter} (h : readPair s = .ok (p, rest))
    (hx : p.value = some x) : ∃ u, '=' :: u <:+ s ∧ readValue u = .ok (x, rest) := by
  cases hn : readToken endsName s with
  | error e =>
    unfold readPair at h
    rw [hn] at h
    cases h
  | ok q =>
    obtain ⟨n, left⟩ := q
    by_cases he : ∃ u, left = '=' :: u
    · obtain ⟨u, rfl⟩ := he
      rw [readPair_value hn] at h
      obtain ⟨⟨v, rest'⟩, hv, heq⟩ := map_eq_ok.1 h
      simp only [Prod.mk.injEq] at heq
      obtain ⟨rfl, rfl⟩ := heq
      cases hx
      exact ⟨u, (readToken_suffix hn).1, hv⟩
    · rw [readPair_name hn fun u hu => he ⟨u, hu⟩] at h
      cases h
      cases hx

theorem readValue_of_mem {s rest x : Text} {ps : List Parameter} (h : readParameters s = .ok (ps, rest))
    {p : Parameter} (hp : p ∈ ps) (hx : p.value = some x) :
    ∃ u rest', '=' :: u <:+ s ∧ readValue u = .ok (x, rest') := by
  fun_induction readParameters s generalizing ps rest with
  | case1 => cases h
  | case2 s q left hq ih =>
    obtain ⟨⟨ps', rest'⟩, h', he⟩ := map_eq_ok.1 h
    simp only [Prod.mk.injEq] at he
    obtain ⟨rfl, rfl⟩ := he
    have later : p ∈ ps' → ∃ u rest', '=' :: u <:+ ';' :: s ∧ readValue u = .ok (x, rest') := by
      intro hm
      obtain ⟨u, rest', hu, hv⟩ := ih h' hm
      exact ⟨u, rest', (hu.trans (readPair_suffix hq).1).trans (List.suffix_cons _ _), hv⟩
    split at hp
    · exact later hp
    · rcases List.mem_cons.1 hp with rfl | hm
      · obtain ⟨u, hu, hv⟩ := readValue_of_readPair hq hx
        exact ⟨u, left, hu.trans (List.suffix_cons _ _), hv⟩
      · exact later hm
  | case3 =>
    cases h
    cases hp

end MessageHead.Element

namespace MessageHead.Disposition

open Element (readPair readValue readParameters readElement PlainName StopsAt Extends)

/-! ## What is written -/

/-- The extended value of a file name. -/
def extended (cs : Charset) (f : Text) : Text :=
  cs.name ++ '\'' :: '\'' :: (cs.encode f).flatMap ExtendedValue.encodeByte

/-- The name as a parameter, if there is one. -/
def nameParameters (name : Option Text) : List Parameter :=
  match name with
  | some n => [⟨"name".toList, some n⟩]
  | none => []

/-- The element that a disposition with a file name is written as. The encoded
word loses the backslashes that hide something. -/
def written (kind : Text) (name : Option Text) (cs : Charset) (f : Text) : Element :=
  ⟨kind, none, nameParameters name ++
    [⟨"filename".toList, some (Escape.decode (EncodedWord.encode cs f))⟩,
      ⟨"filename*".toList, some (extended cs f)⟩]⟩

/-- The parameter behind the encoded word. -/
def extendedText (cs : Charset) (f : Text) : Text := ' ' :: "filename*".toList ++ '=' :: extended cs f

/-- The encoded word and all that is written behind it. -/
def behindQuote (cs : Charset) (f : Text) : Text :=
  EncodedWord.encode cs f ++ '"' :: ';' :: extendedText cs f

/-- The two file name parameters. -/
def filenameText (cs : Charset) (f : Text) : Text :=
  ' ' :: "filename".toList ++ '=' :: '"' :: behindQuote cs f

/-- The name parameter as it is written. -/
def nameText (name : Option Text) : Text :=
  match name with
  | some n => quotedParameter "name".toList n
  | none => []

/-- The header value. -/
def headerText (kind : Text) (name : Option Text) (cs : Charset) (f : Text) : Text :=
  kind ++ (nameText name ++ ';' :: filenameText cs f)

variable {kind f : Text} {name : Option Text} {cs : Charset}

theorem renderFilename_eq (h : Charset.Extended cs) (he : cs.canEncode f = true) :
    renderFilename f (some cs) = .ok (';' :: filenameText cs f) := by
  have hx : ExtendedValue.encode cs f = .ok (extended cs f) := (ExtendedValue.read_encode h he).1
  have hr : renderFilename f (some cs) = (ExtendedValue.encode cs f).map fun extended =>
      "; filename=\"".toList ++ EncodedWord.encode cs f ++ "\"; filename*=".toList ++ extended := by
    rcases h with rfl | rfl <;> rfl
  have hopen : "; filename=\"".toList = ';' :: ' ' :: "filename".toList ++ ['=', '"'] := by decide
  have hmid : "\"; filename*=".toList = '"' :: ';' :: ' ' :: "filename*".toList ++ ['='] := by decide
  rw [hr, hx, hopen, hmid]
  simp [Except.map, filenameText, behindQuote, extendedText]

theorem build_filename (hk : Text.trim kind ≠ []) (name : Option Text) (f : Text) (ch : Option Charset) :
    Draft.build ⟨kind, name, some f, ch⟩ =
      (renderFilename f ch).map fun filed => ⟨kind, name, some f, ch, kind ++ nameText name ++ filed⟩ := by
  unfold Draft.build
  rw [if_neg (by simpa using hk)]
  cases name <;> rfl

theorem build_of_renderFilename {ch : Option Charset} {filed : Text} (hk : PlainName kind)
    (hf : renderFilename f ch = .ok filed) :
    Draft.build ⟨kind, name, some f, ch⟩ = .ok ⟨kind, name, some f, ch, kind ++ nameText name ++ filed⟩ := by
  have hkind : Text.trim kind ≠ [] := by
    rw [Text.trim_eq_self hk.trimmed]
    exact hk.nonempty
  rw [build_filename hkind, hf]
  rfl

theorem build_eq (hk : PlainName kind) (h : Charset.Extended cs) (he : cs.canEncode f = true) :
    Draft.build ⟨kind, name, some f, some cs⟩ =
      .ok ⟨kind, name, some f, some cs, headerText kind name cs f⟩ := by
  rw [build_of_renderFilename hk (renderFilename_eq h he), List.append_assoc]
  rfl

/-! ## Reading it -/

theorem plainName_parameters : PlainName "name".toList ∧ PlainName "filename".toList ∧
    PlainName "filename*".toList :=
  ⟨⟨by decide, by decide, by decide⟩, ⟨by decide, by decide, by decide⟩, ⟨by decide, by decide, by decide⟩⟩

theorem plain_extended (h : Charset.Extended cs) (f : Text) :
    ∀ c ∈ extended cs f, Text.Visible c ∧ c ≠ '"' ∧ c ≠ ';' ∧ c ≠ ',' := by
  have front : ∀ c ∈ cs.name ++ ['\'', '\''], Text.Visible c ∧ c ≠ '"' ∧ c ≠ ';' ∧ c ≠ ',' := by
    rcases h with rfl | rfl <;> decide
  intro c hc
  have hc : c ∈ (cs.name ++ ['\'', '\'']) ++ (cs.encode f).flatMap ExtendedValue.encodeByte := by
    simpa [extended] using hc
  rcases List.mem_append.1 hc with hc | hc
  · exact front c hc
  · obtain ⟨b, -, hb⟩ := List.mem_flatMap.1 hc
    exact ExtendedValue.encodeByte_plain b c hb

theorem writtenPair_quoted (n v : Text) :
    Element.WrittenPair ⟨n, some v⟩ (' ' :: n ++ '=' :: Escape.quote v) := by
  have := Element.WrittenPair.value (n := n) (a := [' ']) (b := []) (by decide) (by decide)
    (.quoted (v := v) (a := []) (b := []) (by decide) (by decide))
  simpa using this

/-- The extended value is read bare, to the end. -/
theorem readParameters_extended (h : Charset.Extended cs) (f : Text) :
    readParameters (';' :: extendedText cs f) = .ok ([⟨"filename*".toList, some (extended cs f)⟩], []) := by
  have hplain := plain_extended h f
  have hbare : Element.Bare (extended cs f) :=
    ⟨.of_visible fun c hc => (hplain c hc).1, fun c hc => (hplain c hc).2⟩
  have hw : Element.WrittenPair ⟨"filename*".toList, some (extended cs f)⟩ (extendedText cs f) := by
    have := Element.WrittenPair.value (n := "filename*".toList) (a := [' ']) (b := []) (by decide) (by decide)
      (.bare (a := []) (b := []) hbare (by decide) (by decide))
    simpa [extendedText] using this
  have := Element.readParameters_written (.one hw) (fun p hp => by
    rw [List.mem_singleton.1 hp]
    exact ⟨plainName_parameters.2.2.nonempty, plainName_parameters.2.2.token⟩) .nil
  rwa [List.append_nil] at this

theorem readParameters_nameText {t : Text} (ht : StopsAt Element.endsValue t) :
    readParameters (nameText name ++ t) =
      (readParameters t).map fun (ps, rest) => (nameParameters name ++ ps, rest) := by
  cases name with
  | none =>
    show readParameters t = (readParameters t).map _
    cases readParameters t <;> rfl
  | some n =>
    have hp := Element.readPair_written (writtenPair_quoted "name".toList n) plainName_parameters.1.token ht
    show readParameters (';' :: ((' ' :: "name".toList ++ '=' :: Escape.quote n) ++ t)) = _
    rw [Element.readParameters_of_readPair hp]
    rfl

theorem readElement_headerText (name : Option Text) (cs : Charset) (f : Text) (hk : PlainName kind) :
    readElement (headerText kind name cs f) = (readParameters (';' :: filenameText cs f)).map
      fun (ps, rest) => (⟨kind, none, nameParameters name ++ ps⟩, Element.dropComma rest) := by
  have stops : StopsAt Element.endsValue (nameText name ++ ';' :: filenameText cs f) := by
    cases name with
    | none => exact .cons rfl _
    | some n => exact .cons rfl _
  have hw : Element.WrittenPair ⟨kind, none⟩ kind := by
    simpa [Element.renderPair] using Element.writtenPair_renderPair ⟨kind, none⟩
  have hr : readParameters (nameText name ++ ';' :: filenameText cs f) =
      (readParameters (';' :: filenameText cs f)).map fun (ps, rest) => (nameParameters name ++ ps, rest) :=
    readParameters_nameText (.cons rfl _)
  unfold readElement headerText
  rw [Element.readPair_written hw hk.token stops]
  simp only [hr]
  cases readParameters (';' :: filenameText cs f) <;> rfl

theorem readPair_filename (body : Text) :
    readPair (' ' :: "filename".toList ++ '=' :: '"' :: body) =
      (readValue ('"' :: body)).map fun (v, rest) => (⟨"filename".toList, some v⟩, rest) := by
  have hn := Element.readToken_append (a := [' ']) (b := []) (t := '=' :: '"' :: body)
    Element.not_endsName_of_isBlank (by decide) plainName_parameters.2.1.trimmed plainName_parameters.2.1.token.whole
    (by decide) (.cons rfl _)
  rw [List.append_nil] at hn
  exact Element.readPair_value hn

theorem readElement_closed (hk : PlainName kind) (h : Charset.Extended cs) (he : cs.canEncode f = true)
    (hf : Quoted.skip? f = none) :
    readElement (headerText kind name cs f) = .ok (written kind name cs f, []) := by
  obtain ⟨hw, ha⟩ := Quoted.skip?_eq_none_iff.1 hf
  obtain ⟨hafter, hwithin⟩ := EncodedWord.modes_encode h he
  rw [Quoted.Mode.settle_of_ne ha] at hafter
  have hread := Quoted.read?_within (hwithin.2 ⟨hw, ha⟩) hafter (';' :: extendedText cs f)
  have hvalue : readValue ('"' :: behindQuote cs f) =
      .ok (Escape.decode (EncodedWord.encode cs f), ';' :: extendedText cs f) := by
    rw [behindQuote, ← List.nil_append ('"' :: _), Element.readValue_quote .nil hread]
    rfl
  have hpair : readPair (filenameText cs f) =
      .ok (⟨"filename".toList, some (Escape.decode (EncodedWord.encode cs f))⟩,
      ';' :: extendedText cs f) := by
    rw [filenameText, readPair_filename, hvalue]
    rfl
  rw [readElement_headerText name cs f hk, Element.readParameters_of_readPair hpair,
    readParameters_extended h]
  rfl

/-! ## Reading it when a quote closes -/

theorem quote_not_mem_extendedText (h : Charset.Extended cs) (f : Text) : '"' ∉ extendedText cs f := by
  intro hm
  have front : '"' ∉ ' ' :: "filename*".toList ++ ['='] := by decide
  have hm : '"' ∈ (' ' :: "filename*".toList ++ ['=']) ++ extended cs f := by simpa [extendedText] using hm
  rcases List.mem_append.1 hm with hm | hm
  · exact front hm
  · exact (plain_extended h f _ hm).2.1 rfl

theorem visible_behind (h : Charset.Extended cs) {raw rest : Text}
    (hf : Quoted.skip? (EncodedWord.encode cs f) = some (raw, rest)) :
    ∀ c ∈ rest ++ ['"'], Text.Visible c := by
  intro c hc
  rcases List.mem_append.1 hc with hc | hc
  · exact EncodedWord.visible_encode h.own f c ((Quoted.skip?_suffix hf).subset hc)
  · rw [List.mem_singleton.1 hc]
    decide

/-- A quote that closes ends the first file name early, and the header cannot be
read when no delimiter follows. -/
theorem readPair_open (h : Charset.Extended cs) {raw rest : Text}
    (hf : Quoted.skip? (EncodedWord.encode cs f) = some (raw, rest)) :
    ∃ v, v ≠ Escape.decode (EncodedWord.encode cs f) ∧
      (readPair (filenameText cs f) =
          .ok (⟨"filename".toList, some v⟩, (rest ++ ['"']) ++ ';' :: extendedText cs f) ∨
        readParameters (rest ++ ['"']) = .ok ([], rest ++ ['"']) ∧
          ∃ fault, readPair (filenameText cs f) = .error fault) := by
  obtain ⟨v, hv⟩ : ∃ v, Quoted.read? (EncodedWord.encode cs f) = some (v, rest) := by
    rw [Quoted.read?_eq, hf]
    exact ⟨_, rfl⟩
  have hvalue : readValue ('"' :: behindQuote cs f) =
      Element.closeValue v ((rest ++ ['"']) ++ ';' :: extendedText cs f) := by
    have := Element.readValue_quote .nil (Quoted.read?_append hv ('"' :: ';' :: extendedText cs f))
    simpa [behindQuote] using this
  refine ⟨v, ?_, ?_⟩
  · rintro rfl
    exact absurd (Quoted.length_lt_of_read? hv) (by omega)
  · rw [filenameText, readPair_filename, hvalue]
    rcases Element.closeValue_visible (by simp) (visible_behind h hf) v (';' :: extendedText cs f) with
      hc | ⟨hp, fault, hc⟩
    · rw [hc]
      exact .inl rfl
    · rw [hc]
      exact .inr ⟨hp, fault, rfl⟩

/-- What is behind the quote is read as parameters, if it can be. The extended
value follows them, unless a comma ends the element first. -/
theorem readElement_open (name : Option Text) (hk : PlainName kind) (h : Charset.Extended cs)
    {raw rest : Text}
    (hf : Quoted.skip? (EncodedWord.encode cs f) = some (raw, rest)) :
    ∃ v, v ≠ Escape.decode (EncodedWord.encode cs f) ∧
      match readParameters (rest ++ ['"']) with
      | .ok (ps, []) => readElement (headerText kind name cs f) =
          .ok (⟨kind, none, nameParameters name ++ ⟨"filename".toList, some v⟩ ::
            (ps ++ [⟨"filename*".toList, some (extended cs f)⟩])⟩, [])
      | .ok (ps, _ :: _) => ∀ e left, readElement (headerText kind name cs f) = .ok (e, left) →
          e = ⟨kind, none, nameParameters name ++ ⟨"filename".toList, some v⟩ :: ps⟩
      | .error _ => ∃ fault, readElement (headerText kind name cs f) = .error fault := by
  obtain ⟨v, hv, hpair | ⟨hp, fault, hpair⟩⟩ := readPair_open h hf
  · refine ⟨v, hv, ?_⟩
    have hrest := Element.readParameters_continues (quote_not_mem_extendedText h f) (rest ++ ['"'])
    have hread := readElement_headerText name cs f hk
    rw [Element.readParameters_of_readPair hpair] at hread
    rw [hread]
    cases hp : readParameters (rest ++ ['"']) with
    | error e =>
      rw [hp] at hrest
      obtain ⟨fault, hfault⟩ := hrest
      rw [hfault]
      exact ⟨fault, rfl⟩
    | ok q =>
      obtain ⟨ps, left⟩ := q
      rw [hp] at hrest
      cases left with
      | nil =>
        have hrest : readParameters ((rest ++ ['"']) ++ ';' :: extendedText cs f) =
          (readParameters (';' :: extendedText cs f)).map fun (qs, rest) => (ps ++ qs, rest) := hrest
        rw [hrest, readParameters_extended h]
        rfl
      | cons c left =>
        have hrest : readParameters ((rest ++ ['"']) ++ ';' :: extendedText cs f) =
          .ok (ps, c :: left ++ ';' :: extendedText cs f) := hrest
        intro e left' he
        rw [hrest] at he
        cases he
        rfl
  · refine ⟨v, hv, ?_⟩
    obtain ⟨c, w, hr⟩ : ∃ c w, rest ++ ['"'] = c :: w := List.exists_cons_of_ne_nil (by simp)
    rw [hr] at hp ⊢
    rw [hp]
    intro e left he
    rw [readElement_headerText name cs f hk, Element.readParameters_of_error hpair] at he
    cases he

/-! ## Parameters that a file name adds -/

theorem suffix_of_skip? (h : Charset.Extended cs) {raw rest : Text}
    (hf : Quoted.skip? (EncodedWord.encode cs f) = some (raw, rest)) :
    rest <:+ EncodedWord.payload cs f ++ ['?', '='] := by
  obtain ⟨hsplit, -, ha⟩ := Quoted.skip?_eq_some_iff.1 hf
  rw [EncodedWord.encode_eq, List.append_assoc] at hsplit
  rcases List.append_eq_append_iff.1 hsplit with ⟨w, hw, -⟩ | ⟨w, -, hw⟩
  · -- No quote of the mark closes anything.
    have hin : Quoted.Mode.inside.after (EncodedWord.mark cs) = .inside :=
      Quoted.Mode.after_inert (EncodedWord.inert_mark h).2 .inside
    have hq : '"' ∉ raw := by
      intro hm
      exact ((EncodedWord.inert_mark h).2 '"' (by rw [hw]; simp [hm])).1 rfl
    exact absurd ha (Quoted.Mode.after_ne_outside hq (by decide))
  · exact ⟨w, hw.symm⟩

/-- Behind an equals sign of the payload stands no quoted value. -/
theorem readToken_of_payload {y t u : Text} (hp : EncodedWord.payload cs f = y ++ '=' :: t) :
    readValue (t ++ u) = Element.readToken Element.endsValue (t ++ u) := by
  have hex : ∀ n < 16, Element.startsBare (Number.upperHex n) = true := by decide
  obtain ⟨b, -, t', rfl⟩ := EncodedWord.digits_of_equals hp
  have hb := b.toNat_lt
  exact Element.readValue_bare .nil (.cons (hex (b.toNat / 16) (by omega)) _)

/-- **No parameter that a file name adds holds that file name** as an extended
value. -/
theorem read_ne_of_mem (h : Charset.Extended cs) {raw rest left x : Text} {ps : List Parameter}
    (hf : Quoted.skip? (EncodedWord.encode cs f) = some (raw, rest))
    (hr : readParameters (rest ++ ['"']) = .ok (ps, left)) {p : Parameter} (hp : p ∈ ps)
    (hx : p.value = some x) :
    ExtendedValue.read x ≠ .ok (cs, f) := by
  obtain ⟨u, rest', hu, hv⟩ := Element.readValue_of_mem hr hp hx
  obtain ⟨y, hy⟩ : '=' :: u <:+ EncodedWord.payload cs f ++ ['?', '=', '"'] := by
    obtain ⟨a, ha⟩ := suffix_of_skip? h hf
    obtain ⟨b, hb⟩ := hu
    refine ⟨a ++ b, ?_⟩
    rw [List.append_assoc, hb, ← List.append_assoc, ha]
    simp
  rcases List.append_eq_append_iff.1 hy with ⟨w, hw, ht⟩ | ⟨w, hw, ht⟩
  · cases w with
    | nil => simp at ht
    | cons d t =>
      simp only [List.cons_append, List.cons.injEq] at ht
      obtain ⟨rfl, rfl⟩ := ht
      rw [readToken_of_payload hw] at hv
      obtain ⟨⟨raw', z⟩, hraw, heq⟩ := Element.map_eq_ok.1 hv
      simp only [Prod.mk.injEq] at heq
      obtain ⟨rfl, rfl⟩ := heq
      have happ := (Element.append_of_readRaw hraw).1
      have htrim : Text.trim raw' = raw' :=
        Text.trim_eq_self (.of_visible fun c hc => EncodedWord.visible_rest hw c
          (happ ▸ List.mem_append_left z hc))
      rw [htrim]
      exact EncodedWord.read_ne_of_payload h hw happ
  · -- The equals sign of the closing mark; behind it the quote stands alone.
    have hu : u = ['"'] := by
      match w, ht with
      | [], ht => simp at ht
      | [_], ht =>
        simp only [List.cons_append, List.nil_append, List.cons.injEq, true_and] at ht
        exact ht.2.symm
      | [_, _], ht => simp at ht
      | [_, _, _], ht => simp at ht
      | _ :: _ :: _ :: _ :: _, ht => simp at ht
    rw [hu] at hv
    cases hv

/-! ## Dispositions -/

theorem mapError_eq_ok_iff {α ε ε' : Type} {x : Except ε α} {f : ε → ε'} {a : α} :
    x.mapError f = .ok a ↔ x = .ok a := by
  constructor
  · intro h
    cases x with
    | error e => cases h
    | ok b =>
      cases h
      rfl
  · rintro rfl
    rfl

theorem parse_eq_ok_iff {s : Text} {d : Disposition} :
    parse s = .ok d ↔ ∃ e es filename charset, Element.parse s = .ok (e :: es) ∧
      readFilename e = .ok (filename, charset) ∧
      Draft.build ⟨e.name, (e.parameter? "name".toList).bind Parameter.value, filename, charset⟩ = .ok d := by
  unfold parse
  constructor
  · intro h
    split at h
    · cases h
    · cases h
    · rename_i e es he
      split at h
      · cases h
      · rename_i filename charset hf
        exact ⟨e, es, filename, charset, he, hf, mapError_eq_ok_iff.1 h⟩
  · rintro ⟨e, es, filename, charset, he, hf, hb⟩
    simp only [he, hf, hb]
    rfl

theorem build_fields {draft : Draft} {d : Disposition} (h : draft.build = .ok d) :
    d.kind = draft.kind ∧ d.name = draft.name ∧ d.filename = draft.filename ∧ d.charset = draft.charset := by
  unfold Draft.build at h
  split at h
  · cases h
  · obtain ⟨filed, -, rfl⟩ := Element.map_eq_ok.1 h
    exact ⟨rfl, rfl, rfl, rfl⟩

theorem readFilename_eq_iff {e : Element} :
    readFilename e = .ok (some f, some cs) ↔
      ∃ x, (e.parameter? "filename*".toList).bind Parameter.value = some x ∧
        ExtendedValue.read x = .ok (cs, f) := by
  unfold readFilename
  cases hx : (e.parameter? "filename*".toList).bind Parameter.value with
  | some x =>
    constructor
    · intro h
      obtain ⟨⟨cs', f'⟩, hr, heq⟩ := Element.map_eq_ok.1 h
      cases heq
      exact ⟨x, rfl, hr⟩
    · rintro ⟨x', hx', hr⟩
      cases hx'
      simp only [hr]
      rfl
  | none =>
    constructor
    · intro h
      cases hv : (e.parameter? "filename".toList).bind Parameter.value with
      | none => simp only [hv, Except.ok.injEq, Prod.mk.injEq, reduceCtorEq, false_and] at h
      | some v =>
        simp only [hv] at h
        obtain ⟨f', -, heq⟩ := Element.map_eq_ok.1 h
        cases heq
    · rintro ⟨x, hx', -⟩
      cases hx'

/-- The header comes back as the disposition it was built as when its first
element has that kind, that name and that extended value. -/
theorem parse_headerText_iff (hk : PlainName kind) (h : Charset.Extended cs) (he : cs.canEncode f = true) :
    parse (headerText kind name cs f) = .ok ⟨kind, name, some f, some cs, headerText kind name cs f⟩ ↔
      ∃ e es x, Element.parse (headerText kind name cs f) = .ok (e :: es) ∧ e.name = kind ∧
        (e.parameter? "name".toList).bind Parameter.value = name ∧
        (e.parameter? "filename*".toList).bind Parameter.value = some x ∧
          ExtendedValue.read x = .ok (cs, f) := by
  rw [parse_eq_ok_iff]
  constructor
  · rintro ⟨e, es, filename, charset, hp, hf, hb⟩
    obtain ⟨hkind, hname, hfilename, hcharset⟩ := build_fields hb
    have hkind : kind = e.name := hkind
    have hname : name = (e.parameter? "name".toList).bind Parameter.value := hname
    have hfilename : some f = filename := hfilename
    have hcharset : some cs = charset := hcharset
    subst hfilename hcharset
    obtain ⟨x, hx, hr⟩ := readFilename_eq_iff.1 hf
    exact ⟨e, es, x, hp, hkind.symm, hname.symm, hx, hr⟩
  · rintro ⟨e, es, x, hp, hkind, hname, hx, hr⟩
    refine ⟨e, es, some f, some cs, hp, readFilename_eq_iff.2 ⟨x, hx, hr⟩, ?_⟩
    rw [hkind, hname]
    exact build_eq hk h he

section Lookup

variable (kind f name cs) (v : Text) (ps : List Parameter)

theorem parameter?_extended :
    Element.parameter? ⟨kind, none, nameParameters name ++ ⟨"filename".toList, some v⟩ :: ps⟩
        "filename*".toList =
      Parameter.find? "filename*".toList ps := by
  have hf : Text.sameFold "filename".toList "filename*".toList = false := by decide
  have hn : Text.sameFold "name".toList "filename*".toList = false := by decide
  cases name <;> simp only [Element.parameter?, Parameter.find?, nameParameters, List.nil_append,
    List.cons_append, List.find?_cons, hf, hn]

theorem parameter?_name :
    (Element.parameter? ⟨kind, none, nameParameters name ++ ⟨"filename".toList, some v⟩ :: ps⟩
        "name".toList).bind Parameter.value = name.or ((Parameter.find? "name".toList ps).bind Parameter.value) := by
  have hf : Text.sameFold "filename".toList "name".toList = false := by decide
  have hn : Text.sameFold "name".toList "name".toList = true := by decide
  cases name <;> simp only [Element.parameter?, Parameter.find?, nameParameters, List.nil_append,
    List.cons_append, List.find?_cons, hf, hn, Option.bind_some, Option.some_or, Option.none_or]

theorem find?_extended :
    Parameter.find? "filename*".toList (ps ++ [⟨"filename*".toList, some (extended cs f)⟩]) =
      (Parameter.find? "filename*".toList ps).or (some ⟨"filename*".toList, some (extended cs f)⟩) := by
  have hx : Text.sameFold "filename*".toList "filename*".toList = true := by decide
  simp only [Parameter.find?, List.find?_append, List.find?_cons, hx]

theorem find?_name :
    Parameter.find? "name".toList (ps ++ [⟨"filename*".toList, some (extended cs f)⟩]) =
      Parameter.find? "name".toList ps := by
  have hx : Text.sameFold "filename*".toList "name".toList = false := by decide
  simp only [Parameter.find?, List.find?_append, List.find?_cons, hx, List.find?_nil, Option.or_none]

end Lookup

/-! ## Round trip -/

/-- A file name survives when no quote of it closes the quotes around its encoded
word, or when what stands behind that quote reads to the end as parameters that
hide neither the extended value nor the name. -/
def Survives (name : Option Text) (cs : Charset) (f : Text) : Prop :=
  Quoted.skip? f = none ∨ ∃ raw rest ps, Quoted.skip? (EncodedWord.encode cs f) = some (raw, rest) ∧
    readParameters (rest ++ ['"']) = .ok (ps, []) ∧ Parameter.find? "filename*".toList ps = none ∧
    name.or ((Parameter.find? "name".toList ps).bind Parameter.value) = name

theorem headerText_ne_nil (hk : PlainName kind) : headerText kind name cs f ≠ [] := by
  simp [headerText, hk.nonempty]

theorem isVoid_eq_false (hk : PlainName kind) (ps : List Parameter) :
    Element.isVoid ⟨kind, none, ps⟩ = false := by
  simp [Element.isVoid, hk.nonempty]

theorem parse_closed (hk : PlainName kind) (h : Charset.Extended cs) (he : cs.canEncode f = true)
    (hf : Quoted.skip? f = none) : Element.parse (headerText kind name cs f) = .ok [written kind name cs f] :=
  Element.parse_of_readElement (headerText_ne_nil hk) (isVoid_eq_false hk _) (readElement_closed hk h he hf)

theorem head_open (hk : PlainName kind) (h : Charset.Extended cs) {raw rest : Text}
    (hf : Quoted.skip? (EncodedWord.encode cs f) = some (raw, rest)) {e : Element} {es : List Element}
    (hp : Element.parse (headerText kind name cs f) = .ok (e :: es)) :
    ∃ v ps left ps', v ≠ Escape.decode (EncodedWord.encode cs f) ∧
      readParameters (rest ++ ['"']) = .ok (ps, left) ∧
      e = ⟨kind, none, nameParameters name ++ ⟨"filename".toList, some v⟩ :: ps'⟩ ∧
      (left = [] ∧ ps' = ps ++ [⟨"filename*".toList, some (extended cs f)⟩] ∨ left ≠ [] ∧ ps' = ps) := by
  obtain ⟨v, hv, hm⟩ := readElement_open name hk h hf
  obtain ⟨e', rest', hr⟩ := Element.readElement_of_parse (headerText_ne_nil hk) hp
  have head : ∀ ps', e' = ⟨kind, none, ps'⟩ → e = e' := by
    rintro ps' rfl
    obtain ⟨es', heq⟩ := Element.head_of_parse (headerText_ne_nil hk) (isVoid_eq_false hk _) hr hp
    exact (List.cons.inj heq).1
  cases hq : readParameters (rest ++ ['"']) with
  | error fault =>
    rw [hq] at hm
    obtain ⟨fault', hm⟩ := hm
    rw [hm] at hr
    cases hr
  | ok q =>
    obtain ⟨ps, left⟩ := q
    rw [hq] at hm
    cases left with
    | nil =>
      have hm : readElement (headerText kind name cs f) = .ok _ := hm
      rw [hm] at hr
      cases hr
      exact ⟨v, ps, [], _, hv, rfl, head _ rfl, .inl ⟨rfl, rfl⟩⟩
    | cons c left =>
      have hm := hm e' rest' hr
      exact ⟨v, ps, c :: left, ps, hv, rfl, hm ▸ head _ hm, .inr ⟨by simp, rfl⟩⟩

/-- Behind a quote that closes early the disposition comes back only when its own
extended value does. -/
theorem parse_open_iff (hk : PlainName kind) (h : Charset.Extended cs) (he : cs.canEncode f = true)
    {raw rest : Text}
    (hf : Quoted.skip? (EncodedWord.encode cs f) = some (raw, rest)) :
    parse (headerText kind name cs f) = .ok ⟨kind, name, some f, some cs, headerText kind name cs f⟩ ↔
      ∃ ps, readParameters (rest ++ ['"']) = .ok (ps, []) ∧ Parameter.find? "filename*".toList ps = none ∧
        name.or ((Parameter.find? "name".toList ps).bind Parameter.value) = name := by
  rw [parse_headerText_iff hk h he]
  constructor
  · rintro ⟨e, es, x, hp, -, hname, hx, hr⟩
    obtain ⟨v, ps, left, ps', -, hq, rfl, hps⟩ := head_open hk h hf hp
    rw [parameter?_extended] at hx
    rw [parameter?_name] at hname
    have hnone : Parameter.find? "filename*".toList ps = none := by
      cases hfind : Parameter.find? "filename*".toList ps with
      | none => rfl
      | some p =>
        -- An extended value that was added is found first, and it is not this one.
        have hfirst : Parameter.find? "filename*".toList ps' = some p := by
          rcases hps with ⟨-, rfl⟩ | ⟨-, rfl⟩
          · rw [find?_extended, hfind, Option.some_or]
          · exact hfind
        rw [hfirst] at hx
        exact absurd hr (read_ne_of_mem h hf hq (List.mem_of_find?_eq_some hfind) hx)
    rcases hps with ⟨rfl, rfl⟩ | ⟨-, rfl⟩
    · rw [find?_name] at hname
      exact ⟨ps, hq, hnone, hname⟩
    · rw [hnone] at hx
      cases hx
  · rintro ⟨ps, hq, hnone, hname⟩
    obtain ⟨v, -, hm⟩ := readElement_open name hk h hf
    rw [hq] at hm
    refine ⟨_, [], extended cs f,
      Element.parse_of_readElement (headerText_ne_nil hk) (isVoid_eq_false hk _) hm, rfl, ?_, ?_,
      (ExtendedValue.read_encode h he).2⟩
    · rw [parameter?_name, find?_name, hname]
    · rw [parameter?_extended, find?_extended, hnone]
      rfl

/-- **A disposition comes back from its header exactly when its file name
survives**, and the header then holds the parameters it was written with and no
others exactly when no quote of the file name closes. -/
theorem parse_canonical (name : Option Text) (hk : PlainName kind) (h : Charset.Extended cs)
    (he : cs.canEncode f = true) :
    ∃ d, Draft.build ⟨kind, name, some f, some cs⟩ = .ok d ∧
      (parse d.canonical = .ok d ↔ Survives name cs f) ∧
      (Element.parse d.canonical = .ok [written kind name cs f] ↔ Quoted.skip? f = none) := by
  refine ⟨_, build_eq hk h he, ?_, ?_⟩
  · cases hf : Quoted.skip? (EncodedWord.encode cs f) with
    | none =>
      have hf := (EncodedWord.skip?_encode_iff h he).1 hf
      have hp : parse (headerText kind name cs f) =
          .ok ⟨kind, name, some f, some cs, headerText kind name cs f⟩ := by
        refine (parse_headerText_iff hk h he).2
          ⟨_, [], extended cs f, parse_closed hk h he hf, rfl, ?_, ?_, (ExtendedValue.read_encode h he).2⟩
        · rw [written, parameter?_name, ← List.nil_append [(_ : Parameter)], find?_name]
          exact Option.or_none
        · rw [written, parameter?_extended, ← List.nil_append [(_ : Parameter)], find?_extended]
          rfl
      exact ⟨fun _ => .inl hf, fun _ => hp⟩
    | some q =>
      obtain ⟨raw, rest⟩ := q
      have hne : Quoted.skip? f ≠ none := by
        rw [Ne, ← EncodedWord.skip?_encode_iff h he, hf]
        exact Option.some_ne_none _
      rw [parse_open_iff hk h he hf]
      constructor
      · rintro ⟨ps, hps⟩
        exact .inr ⟨raw, rest, ps, hf, hps⟩
      · rintro (hnone | ⟨raw', rest', ps, hf', hps⟩)
        · exact absurd hnone hne
        · cases hf.symm.trans hf'
          exact ⟨ps, hps⟩
  · constructor
    · intro hp
      rw [← EncodedWord.skip?_encode_iff h he]
      cases hf : Quoted.skip? (EncodedWord.encode cs f) with
      | none => rfl
      | some q =>
        obtain ⟨v, ps, left, ps', hv, -, heq, -⟩ := head_open hk h hf hp
        have hlist := List.append_cancel_left (congrArg Element.parameters heq)
        simp only [List.cons.injEq, Parameter.mk.injEq, Option.some.injEq, true_and] at hlist
        exact absurd hlist.1.symm hv
    · exact parse_closed hk h he

/-- A quote behind a backslash is inert: the file name comes back. -/
theorem parse_canonical_backslash :
    PlainName ['f'] ∧ Charset.Extended .utf8 ∧ Charset.utf8.canEncode ['a', '\\', '"', 'é'] = true ∧
      ∃ d, Draft.build ⟨['f'], none, some ['a', '\\', '"', 'é'], some .utf8⟩ = .ok d ∧
        parse d.canonical = .ok d := by
  have hk : PlainName ['f'] := ⟨by decide, by decide, by decide⟩
  have he : Charset.utf8.canEncode ['a', '\\', '"', 'é'] = true := rfl
  refine ⟨hk, .inl rfl, he, ?_⟩
  obtain ⟨d, hb, hd, -⟩ := parse_canonical none hk (.inl rfl) he
  exact ⟨d, hb, hd.2 (.inl (by cbv))⟩

/-- A bare quote in a file name makes the header unreadable. -/
theorem parse_canonical_quote :
    Draft.build ⟨['f'], none, some ['a', '"', 'b'], some .utf8⟩ =
        .ok ⟨['f'], none, some ['a', '"', 'b'], some .utf8,
          "f; filename=\"=?UTF-8?Q?a\"b?=\"; filename*=UTF-8''a%22b".toList⟩ ∧
      parse "f; filename=\"=?UTF-8?Q?a\"b?=\"; filename*=UTF-8''a%22b".toList =
        .error (.parse (.unexpectedCharacter
          "f; filename=\"=?UTF-8?Q?a\"b?=\"; filename*=UTF-8''a%22b".toList 'b' 25)) := by
  have hk : PlainName ['f'] := ⟨by decide, by decide, by decide⟩
  have hpair : readPair " filename=\"=?UTF-8?Q?a\"b?=\"; filename*=UTF-8''a%22b".toList =
      .error (.unexpected 'b' "b?=\"; filename*=UTF-8''a%22b".toList) := by cbv
  have hread : readElement (headerText ['f'] none .utf8 ['a', '"', 'b']) =
      .error (.unexpected 'b' "b?=\"; filename*=UTF-8''a%22b".toList) := by
    rw [readElement_headerText none .utf8 ['a', '"', 'b'] hk]
    exact congrArg (Except.map _) (Element.readParameters_of_error hpair)
  have hparse : Element.parse "f; filename=\"=?UTF-8?Q?a\"b?=\"; filename*=UTF-8''a%22b".toList =
      .error (.unexpectedCharacter "f; filename=\"=?UTF-8?Q?a\"b?=\"; filename*=UTF-8''a%22b".toList 'b' 25) :=
    Element.parse_of_readElement_error (headerText_ne_nil hk) hread
  refine ⟨by rfl, ?_⟩
  unfold parse
  rw [hparse]

end MessageHead.Disposition
