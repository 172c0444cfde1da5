/-
Content dispositions with a file name in plain quotes, built and read back.

Quotes keep whatever is between them: the element that is written is the element
that is read (`parse_plainText`). The reader then takes the file name for an
encoded word where it has the form of one, and the writer does not keep such a
file name from looking like one. So a file name comes back as what it decodes
to, which is itself when it has another form (`EncodedWord.decode_of_not_shaped`).
-/
import MessageHead.Proofs.DispositionRoundTrip
import MessageHead.Proofs.EncodedWordRoundTrip

namespace MessageHead.Disposition

open Element (PlainName)

variable {kind : Text} {cs : Option Charset}

/-- The header value of a disposition with a file name in plain quotes. -/
def plainText (kind : Text) (name : Option Text) (f : Text) : Text :=
  kind ++ nameText name ++ quotedParameter "filename".toList f

/-- The element that such a header value is. -/
def plainElement (kind : Text) (name : Option Text) (f : Text) : Element :=
  ⟨kind, none, nameParameters name ++ [⟨"filename".toList, some f⟩]⟩

theorem build_plain (hk : PlainName kind) (hc : cs = none ∨ cs = some .usAscii) (name : Option Text) (f : Text) :
    Draft.build ⟨kind, name, some f, cs⟩ = .ok ⟨kind, name, some f, cs, plainText kind name f⟩ := by
  have hf : renderFilename f cs = .ok (quotedParameter "filename".toList f) := by
    rcases hc with rfl | rfl <;> rfl
  exact build_of_renderFilename hk hf

/-! ## Reading it -/

theorem writtenPairs_plainText (kind : Text) (name : Option Text) (f : Text) :
    Element.WrittenPairs ((plainElement kind name f).head :: (plainElement kind name f).parameters)
      (plainText kind name f) := by
  have hkind : Element.WrittenPair ⟨kind, none⟩ kind := by
    simpa [Element.renderPair] using Element.writtenPair_renderPair ⟨kind, none⟩
  have hfile := Element.WrittenPairs.one (writtenPair_quoted "filename".toList f)
  cases name with
  | none =>
    have := Element.WrittenPairs.more hkind hfile
    simpa [plainElement, plainText, nameText, nameParameters, quotedParameter, Element.head] using this
  | some n =>
    have := Element.WrittenPairs.more hkind (.more (writtenPair_quoted "name".toList n) hfile)
    simpa [plainElement, plainText, nameText, nameParameters, quotedParameter, Element.head] using this

theorem readable_plainElement (hk : PlainName kind) (name : Option Text) (f : Text) :
    Element.Readable (plainElement kind name f) := by
  refine (Element.Plain.mk hk fun p hp => ?_).readable
  obtain ⟨hname, hfile, -⟩ := plainName_parameters
  cases name with
  | none => simp_all [plainElement, nameParameters]
  | some n =>
    rcases List.mem_cons.1 hp with rfl | hp
    · exact hname
    · simp_all

/-- **The header is the element it was written as**, whatever is in its quotes. -/
theorem parse_plainText (hk : PlainName kind) (name : Option Text) (f : Text) :
    Element.parse (plainText kind name f) = .ok [plainElement kind name f] := by
  have hr := Element.readElement_written (writtenPairs_plainText kind name f)
    (readable_plainElement hk name f) .nil
  rw [List.append_nil] at hr
  exact Element.parse_of_readElement (by simp [plainText, hk.nonempty]) (isVoid_eq_false hk _) hr

theorem readFilename_plainElement (kind : Text) (name : Option Text) (f : Text) :
    readFilename (plainElement kind name f) = (EncodedWord.decode f).map fun g => (some g, none) := by
  have hn : Text.sameFold "name".toList "filename".toList = false := by decide
  have hf : Text.sameFold "filename".toList "filename".toList = true := by decide
  have hextended : (plainElement kind name f).parameter? "filename*".toList = none := by
    rw [plainElement, parameter?_extended]
    rfl
  have hfilename : (plainElement kind name f).parameter? "filename".toList =
      some ⟨"filename".toList, some f⟩ := by
    cases name <;> simp only [plainElement, Element.parameter?, Parameter.find?, nameParameters,
      List.nil_append, List.cons_append, List.find?_cons, hn, hf]
  unfold readFilename
  rw [hextended, hfilename]
  rfl

theorem parse_plainText_eq (hk : PlainName kind) (name : Option Text) (f : Text) :
    parse (plainText kind name f) =
      (EncodedWord.decode f).map fun g => ⟨kind, name, some g, none, plainText kind name g⟩ := by
  have hname : ((plainElement kind name f).parameter? "name".toList).bind Parameter.value = name := by
    rw [plainElement, parameter?_name]
    exact Option.or_none
  unfold parse
  simp only [parse_plainText hk, readFilename_plainElement, hname]
  cases EncodedWord.decode f with
  | error e => rfl
  | ok g => exact congrArg (Except.mapError Error.precondition) (build_plain hk (.inl rfl) name g)

/-! ## Round trip -/

/-- **A disposition with a file name in plain quotes comes back** unless the file
name has the form of an encoded word. Such a file name comes back as the text it
decodes to, and where the decoder refuses it so does the reader. -/
theorem parse_canonical_plain (name : Option Text) (f : Text) (hk : PlainName kind)
    (hc : cs = none ∨ cs = some .usAscii) :
    ∃ d, Draft.build ⟨kind, name, some f, cs⟩ = .ok d ∧
      (¬EncodedWord.Shaped f → parse d.canonical = .ok ⟨kind, name, some f, none, d.canonical⟩) ∧
      (∀ g, EncodedWord.decode f = .ok g →
        parse d.canonical = .ok ⟨kind, name, some g, none, plainText kind name g⟩) ∧
      (∀ e, EncodedWord.decode f = .error e → parse d.canonical = .error e) := by
  have decoded : ∀ g, EncodedWord.decode f = .ok g →
      parse (plainText kind name f) = .ok ⟨kind, name, some g, none, plainText kind name g⟩ := by
    intro g hg
    rw [parse_plainText_eq hk, hg]
    rfl
  refine ⟨_, build_plain hk hc name f, fun hf => ?_, decoded, fun e he => ?_⟩
  · exact decoded f (EncodedWord.decode_of_not_shaped hf)
  · show parse (plainText kind name f) = .error e
    rw [parse_plainText_eq hk, he]
    rfl

/-- Quotes, backslashes and delimiters in both texts, and the marks of an encoded
word without the question marks between them. -/
theorem parse_canonical_plain_marks :
    PlainName ['f'] ∧ (some Charset.usAscii = none ∨ some Charset.usAscii = some .usAscii) ∧
      ¬EncodedWord.Shaped ['=', '?', '"', '\\', ';', '?', '='] ∧
      ∃ d, Draft.build ⟨['f'], some [',', '"'], some ['=', '?', '"', '\\', ';', '?', '='], some .usAscii⟩ = .ok d ∧
        parse d.canonical =
          .ok ⟨['f'], some [',', '"'], some ['=', '?', '"', '\\', ';', '?', '='], none, d.canonical⟩ := by
  have hk : PlainName ['f'] := ⟨by decide, by decide, by decide⟩
  have hf : ¬EncodedWord.Shaped ['=', '?', '"', '\\', ';', '?', '='] := by
    rw [← EncodedWord.fields?_isSome_iff]
    decide
  have hc : some Charset.usAscii = none ∨ some Charset.usAscii = some .usAscii := .inr rfl
  obtain ⟨d, hb, hp, -⟩ := parse_canonical_plain (some [',', '"']) _ hk hc
  exact ⟨hk, hc, hf, d, hb, hp hf⟩

/-- A file name that is an encoded word comes back as what it encodes, and one in
another encoding cannot be read back. -/
theorem parse_canonical_plain_word :
    PlainName ['f'] ∧
      Draft.build ⟨['f'], none, some "=?UTF-8?Q?a?=".toList, none⟩ =
        .ok ⟨['f'], none, some "=?UTF-8?Q?a?=".toList, none, "f; filename=\"=?UTF-8?Q?a?=\"".toList⟩ ∧
      parse "f; filename=\"=?UTF-8?Q?a?=\"".toList =
        .ok ⟨['f'], none, some ['a'], none, "f; filename=\"a\"".toList⟩ ∧
      parse "f; filename=\"=?UTF-8?B?YQ==?=\"".toList =
        .error (.parse (.invalidEncodedValue "=?UTF-8?B?YQ==?=".toList)) := by
  have hk : PlainName ['f'] := ⟨by decide, by decide, by decide⟩
  have read : ∀ f, parse (plainText ['f'] none f) = _ := parse_plainText_eq hk none
  refine ⟨hk, build_plain hk (.inl rfl) none _, ?_, ?_⟩
  · exact (read "=?UTF-8?Q?a?=".toList).trans rfl
  · exact (read "=?UTF-8?B?YQ==?=".toList).trans rfl

end MessageHead.Disposition
