/-
The content type of a message, set and read again. Setting it leaves one field of its
name, so the message holds the written media type and nothing of the parameters as
they were given; what is read from it is known from `MediaType.parseLenient_render`.

The message settles a content type. What comes back out of it comes back again
(`rereadAll_rereadAll`), but need not be what was set: a value that is written bare
loses the blanks at its ends, and the charset is that of the media type, the last
one given, in place of the first.
-/
import MessageHead.Message
import MessageHead.Proofs.MediaTypeReaders

namespace MessageHead

theorem Headers.last?_set (h : Headers) (name value : Text) : (h.set name value).last? name = some value := by
  have hself : Text.sameFold name name = true := Text.sameFold_iff.2 rfl
  have hget : (h.set name value).values? name = some [value] :=
    OrderedTable.get?_upsert_self (p := fun k => Text.sameFold k name) hself [] (fun _ => [value]) h.fields
  rw [last?, hget]
  rfl

namespace MediaType

/-! ## Behind one round trip -/

theorem reread_reread (v : Text) : reread (reread v) = reread v := by
  refine reread_eq_self_iff.2 fun hn => ?_
  by_cases hv : needsQuotes v = true
  · rw [reread, if_pos hv, hv] at hn
    cases hn
  · rw [reread, if_neg hv]
    exact Text.trimmed_trim v

theorem rereadAll_rereadAll (m : MediaType) : m.rereadAll.rereadAll = m.rereadAll := by
  simp only [rereadAll, List.map_map, Function.comp_def, reread_reread]

theorem Elemental.rereadAll {m : MediaType} (h : Elemental m) : Elemental m.rereadAll where
  name := h.name
  name_eq := h.name_eq
  reads := h.reads
  parameters p hp := by
    obtain ⟨q, hq, rfl⟩ := List.mem_map.1 hp
    exact h.parameters q hq
  distinct := distinct_rereadAll h.distinct

theorem parameter?_rereadAll (m : MediaType) (name : Text) :
    m.rereadAll.parameter? name = (m.parameter? name).map reread :=
  OrderedTable.get?_map (fun n => Text.sameFold n name) reread m.parameters

/-- **What was read from a written media type reads again unchanged.** -/
theorem parseLenient_rereadAll {m : MediaType} (h : Elemental m) :
    ContentType.parseLenient m.rereadAll.render = ContentType.parseLenient m.render := by
  have hcharset : m.rereadAll.charset?.bind Charset.named? = m.charset?.bind Charset.named? := by
    rw [charset?, parameter?_rereadAll, bind_named?_reread, charset?]
  have hparameters : m.rereadAll.parameters.map reparameter = m.parameters.map reparameter := by
    simp only [rereadAll, List.map_map, Function.comp_def, reparameter, reread_reread]
    rfl
  rw [parseLenient_render h.rereadAll, parseLenient_render h, rereadAll_rereadAll, hcharset, hparameters]

theorem rereadAll_eq_self {m : MediaType}
    (h : ∀ p ∈ m.parameters, needsQuotes p.2 = false → Text.Trimmed p.2) : m.rereadAll = m := by
  have hsame : m.parameters.map (fun p => (p.1, reread p.2)) = m.parameters := by
    conv => rhs; rw [← List.map_id m.parameters]
    refine List.map_congr_left fun p hp => ?_
    rw [reread_eq_self_iff.2 (h p hp)]
    rfl
  rw [rereadAll, hsame]

theorem equal_rereadAll_iff {m : MediaType} (hd : OrderedTable.Distinct Text.lower m.parameters) :
    m.rereadAll.equal m = true ↔ ∀ p ∈ m.parameters, needsQuotes p.2 = false → Text.Trimmed p.2 := by
  constructor
  · intro he p hp
    have hmem : (Text.lower p.1, reread p.2) ∈ m.parameters.map fun p => (Text.lower p.1, p.2) := by
      refine (perm_of_equal he).mem_iff.1 (List.mem_map.2 ⟨(p.1, reread p.2), ?_, rfl⟩)
      exact List.mem_map.2 ⟨p, hp, rfl⟩
    obtain ⟨q, hq, heq⟩ := List.mem_map.1 hmem
    obtain ⟨hname, hvalue⟩ := Prod.mk.inj heq
    -- Names are distinct, so the value stays with its name.
    have hqp : q = p := List.inj_on_of_nodup_map hd hq hp hname
    rw [hqp] at hvalue
    exact reread_eq_self_iff.1 hvalue.symm
  · intro ht
    rw [rereadAll_eq_self ht]
    exact equal_self m

end MediaType

namespace ContentType

open MediaType (Elemental charsetName needsQuotes readName orWildcard)

/-- **What was read is written as an element again.** -/
theorem elemental_of_parseLenient {v : Text} {ct : ContentType} (h : parseLenient v = .ok ct) :
    Elemental ct.mediaType := by
  obtain ⟨g, hg, hne, hps, hct⟩ := of_parseLenient h
  obtain ⟨hmt, hst, -⟩ := MediaType.trimmed_readName g
  have hm : ct.mediaType = { MediaType.ofParts (readName g).1 (readName g).2 [] with
      parameters := OrderedTable.putAll Text.lower [] (ct.parameters.filterMap entry?) } := by
    conv => lhs; rw [hct]
    exact foldl_addParameter _ _
  rw [hm]
  refine ⟨⟨?_, ?_⟩, rfl, MediaType.readableName_of_readName hg.whole_semicolon hne, ?_, ?_⟩
  · have := hmt.surround hst hne (MediaType.orWildcard_ne_nil _) ['/']
    rwa [List.append_assoc, List.singleton_append] at this
  · exact MediaType.whole_readName (by decide) (by decide) hg.whole
  · refine OrderedTable.forall_putAll Text.lower (I := fun n _ => n ≠ [] ∧ Element.Token n)
      (fun _ hn _ => hn) (by simp) fun e he => ?_
    obtain ⟨p, hp, hpe⟩ := List.mem_filterMap.1 he
    obtain ⟨w, -, rfl⟩ := Option.map_eq_some_iff.1 hpe
    exact hps p hp
  · exact OrderedTable.Distinct.putAll (by simp [OrderedTable.Distinct]) _

theorem parseLenient_ofMediaType {m : MediaType} {ct : ContentType} (hm : Elemental m)
    (ht : ∀ p ∈ m.parameters, needsQuotes p.2 = false → Text.Trimmed p.2) (h : ofMediaType m = .ok ct) :
    parseLenient ct.render = .ok ct := by
  have hct : ct = ⟨m, m.charset?.bind Charset.named?, m.parameters.map fun p => ⟨p.1, some p.2⟩⟩ := by
    unfold ofMediaType at h
    cases hc : m.charset? with
    | none =>
      rw [hc] at h
      cases h
      rfl
    | some name =>
      rw [hc] at h
      cases hn : Charset.ofName name with
      | error e =>
        simp only [hn] at h
        cases h
      | ok c =>
        simp only [hn] at h
        cases h
        rw [Option.bind_some, Charset.named?_eq_some_iff.2 hn]
  have hparameters : m.parameters.map MediaType.reparameter = m.parameters.map fun p => ⟨p.1, some p.2⟩ := by
    refine List.map_congr_left fun p hp => ?_
    rw [MediaType.reparameter, MediaType.reread_eq_self_iff.2 (ht p hp)]
  rw [hct, render, MediaType.parseLenient_render hm, MediaType.rereadAll_eq_self ht, hparameters]

theorem ofHeaders_set {ct ct' : ContentType} (h : parseLenient ct.render = .ok ct') (r : Message) :
    ofHeaders false (Request.setContentType r ct).headers = .ok (some ct') := by
  have hlast : (Request.setContentType r ct).headers.last? contentTypeName = some ct.render :=
    Headers.last?_set r.headers contentTypeName ct.render
  rw [ofHeaders, hlast]
  simp only [parseWith_lenient h]
  rfl

/-- **A content type through a message.** What was read from any header value can be
set in any request and is read from it again, as a content type that no further
message changes. Its media type is the one that was set exactly when the values that
are written bare have no blanks at their ends; its charset exactly when the first and
the last valued charset parameter name the same. -/
theorem ofHeaders_setContentType {v : Text} {ct : ContentType} (h : parseLenient v = .ok ct) (r : Message) :
    ∃ ct', ofHeaders false (Request.setContentType r ct).headers = .ok (some ct') ∧
      (∀ r', ofHeaders false (Request.setContentType r' ct').headers = .ok (some ct')) ∧
      ct'.mediaType = ct.mediaType.rereadAll ∧
      (ct'.mediaType.equal ct.mediaType = true ↔
        ∀ p ∈ ct.mediaType.parameters, needsQuotes p.2 = false → Text.Trimmed p.2) ∧
      (ct'.charset = ct.charset ↔
        (lastValue? ct.parameters charsetName).bind Charset.named? =
          (parameterOf? ct.parameters charsetName).bind Charset.named?) := by
  have hm := elemental_of_parseLenient h
  have hread := MediaType.parseLenient_render hm
  have hagain := (MediaType.parseLenient_rereadAll hm).trans hread
  have hcharset : ct.mediaType.charset? = lastValue? ct.parameters charsetName := parameter?_mediaType h _
  refine ⟨_, ofHeaders_set hread r, ofHeaders_set hagain, rfl, MediaType.equal_rereadAll_iff hm.distinct, ?_⟩
  rw [charset_eq h, hcharset]
  rfl

/-- Quotes, a semicolon and a charset, set in a request that has other content types. -/
theorem ofHeaders_setContentType_quoted :
    ∃ ct ct', parseLenient "text/Plain ;charset=\"utf-8\"; a=\"x;\\\"y \"; flowed".toList = .ok ct ∧
      ofHeaders false (Request.setContentType
        ⟨⟨[("content-type".toList, ["a/b".toList, "c/d".toList])]⟩, []⟩ ct).headers = .ok (some ct') ∧
      ct'.mediaType.equal ct.mediaType = true ∧ ct'.charset = ct.charset := by
  have h : parseLenient "text/Plain ;charset=\"utf-8\"; a=\"x;\\\"y \"; flowed".toList =
      .ok ⟨⟨"text".toList, "Plain".toList,
          [("charset".toList, "utf-8".toList), ("a".toList, "x;\"y ".toList)], "text/Plain".toList⟩, some .utf8,
        [⟨"charset".toList, some "utf-8".toList⟩, ⟨"a".toList, some "x;\"y ".toList⟩,
          ⟨"flowed".toList, none⟩]⟩ := by
    decide +kernel
  obtain ⟨ct', hread, -, -, hequal, hcharset⟩ :=
    ofHeaders_setContentType h ⟨⟨[("content-type".toList, ["a/b".toList, "c/d".toList])]⟩, []⟩
  refine ⟨_, ct', h, hread, hequal.2 ?_, hcharset.2 (by decide)⟩
  decide

/-- A no-break space in quotes is lost, and so is the first of two charsets. -/
theorem ofHeaders_setContentType_lost :
    (∃ ct ct', parseLenient "text/plain; a=\"x\u00a0\"".toList = .ok ct ∧
      ofHeaders false (Request.setContentType {} ct).headers = .ok (some ct') ∧
      ct'.mediaType.equal ct.mediaType = false) ∧
    ∃ ct ct', parseLenient "text/plain; charset=utf-8; charset=latin1".toList = .ok ct ∧
      ofHeaders false (Request.setContentType {} ct).headers = .ok (some ct') ∧
      ct.charset = some .utf8 ∧ ct'.charset = some .iso8859_1 := by
  refine ⟨⟨⟨⟨"text".toList, "plain".toList, [("a".toList, "x\u00a0".toList)], "text/plain".toList⟩, none,
      [⟨"a".toList, some "x\u00a0".toList⟩]⟩,
    ⟨⟨"text".toList, "plain".toList, [("a".toList, "x".toList)], "text/plain".toList⟩, none,
      [⟨"a".toList, some "x".toList⟩]⟩, ?_, ?_, ?_⟩,
    ⟨⟨"text".toList, "plain".toList, [("charset".toList, "latin1".toList)], "text/plain".toList⟩, some .utf8,
      [⟨"charset".toList, some "utf-8".toList⟩, ⟨"charset".toList, some "latin1".toList⟩]⟩,
    ⟨⟨"text".toList, "plain".toList, [("charset".toList, "latin1".toList)], "text/plain".toList⟩, some .iso8859_1,
      [⟨"charset".toList, some "latin1".toList⟩]⟩, ?_, ?_, rfl, rfl⟩
  all_goals decide +kernel

end ContentType

end MessageHead
