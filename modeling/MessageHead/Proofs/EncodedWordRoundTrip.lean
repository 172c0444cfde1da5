/-
Encoded words read back. The name of a charset holds no question mark, so the
marks around the payload are found where they were put, whatever the payload is;
and each byte is read from what it is written as, whatever follows
(`payload?_encodeByte`). What comes back is what the charset makes of the text.
-/
import MessageHead.Proofs.EncodedWordFacts

namespace MessageHead.EncodedWord

/-! ## The payload -/

theorem hexByte?_upperHex (b : UInt8) :
    hexByte? (Number.upperHex (b.toNat / 16)) (Number.upperHex (b.toNat % 16)) = some b := by
  have hb := b.toNat_lt
  have plus : ∀ n < 16, Number.upperHex n ≠ '+' := by decide
  have hplus := plus (b.toNat / 16) (by omega)
  rw [hexByte?, hexDigit?_upperHex _ (by omega), hexDigit?_upperHex _ (by omega)]
  simp only [beq_iff_eq, if_neg hplus, Option.map_some, ofNat_digits]

/-- **A byte is read from what it is written as**, whatever follows. -/
theorem payload?_encodeByte (b : UInt8) (s : Text) :
    payload? (encodeByte b ++ s) = (payload? s).map (b :: ·) := by
  -- A space as an underscore, a byte that stands for itself, an escape.
  rcases encodeByte_cases b with ⟨he, hb⟩ | ⟨he, hlo, hhi, hequals, hunderscore⟩ | ⟨he, -⟩
  · have hspace : b = 0x20 := UInt8.toNat_inj.1 hb
    rw [he, hspace, List.singleton_append, payload?]
  · have hn : (Char.ofNat b.toNat).toNat = b.toNat := Utf8.toNat_charOfNat (by omega)
    have hc₁ : Char.ofNat b.toNat ≠ '=' := fun e => hequals (by rw [← hn, e]; rfl)
    have hc₂ : Char.ofNat b.toNat ≠ '_' := fun e => hunderscore (by rw [← hn, e]; rfl)
    rw [he, List.singleton_append, payload?]
    · rw [if_neg (by simpa using hc₁), Utf8.encodeChar_ascii (by omega), hn, UInt8.ofNat_toNat]
      rfl
    · exact hc₂
    · exact fun _ _ _ e => absurd e hc₁
  · rw [he, Number.byteHex, List.cons_append, List.cons_append, List.cons_append, List.nil_append, payload?,
      hexByte?_upperHex]

theorem payload?_payload (cs : Charset) (s : Text) : payload? (payload cs s) = some (cs.encode s) := by
  unfold payload
  induction cs.encode s with
  | nil => rfl
  | cons b bs ih => rw [List.flatMap_cons, payload?_encodeByte, ih, Option.map_some]

/-! ## The marks -/

/-- The form of an encoded word: the marks, and two question marks between them. -/
def Shaped (s : Text) : Prop :=
  ∃ name encoding payload, s = ['=', '?'] ++ (name ++ '?' :: (encoding ++ '?' :: payload)) ++ ['?', '=']

/-- The first two question marks between the marks are where a word is cut. -/
theorem fields?_eq_some_iff {s name encoding payload : Text} :
    fields? s = some (name, encoding, payload) ↔
      s = ['=', '?'] ++ (name ++ '?' :: (encoding ++ '?' :: payload)) ++ ['?', '='] ∧
        '?' ∉ name ∧ '?' ∉ encoding := by
  simp only [fields?, Option.bind_eq_bind, Option.bind_eq_some_iff, Text.dropLead?_eq_some_iff,
    Text.dropTail?_eq_some_iff, Prod.exists, Text.cut_eq_some_iff, Option.pure_def, Option.some.injEq,
    Prod.mk.injEq]
  constructor
  · rintro ⟨_, rfl, _, rfl, _, _, ⟨rfl, hn⟩, _, _, ⟨rfl, he⟩, rfl, rfl, rfl⟩
    exact ⟨by simp, hn, he⟩
  · rintro ⟨rfl, hn, he⟩
    exact ⟨_, by simp, _, rfl, _, _, ⟨rfl, hn⟩, _, _, ⟨rfl, he⟩, rfl, rfl, rfl⟩

theorem fields?_isSome_iff {s : Text} : (fields? s).isSome = true ↔ Shaped s := by
  constructor
  · intro h
    obtain ⟨⟨name, encoding, payload⟩, hf⟩ := Option.isSome_iff_exists.1 h
    exact ⟨name, encoding, payload, (fields?_eq_some_iff.1 hf).1⟩
  · rintro ⟨name, encoding, payload, rfl⟩
    -- The name may hold question marks of its own, so the word is cut anew.
    obtain ⟨name', rest, hs, hn⟩ := List.eq_append_cons_of_mem
      (by simp : '?' ∈ name ++ '?' :: (encoding ++ '?' :: payload))
    have hcount := congrArg (List.count '?') hs
    simp only [List.count_append, List.count_cons_self, List.count_eq_zero_of_not_mem hn] at hcount
    obtain ⟨encoding', payload', hr, he⟩ := List.eq_append_cons_of_mem
      (List.count_pos_iff.1 (by omega : 0 < rest.count '?'))
    rw [hs, hr, fields?_eq_some_iff.2 ⟨rfl, hn, he⟩]
    rfl

theorem decode_of_not_shaped {s : Text} (h : ¬Shaped s) : decode s = .ok s := by
  have hf : fields? s = none := by
    rw [← Option.not_isSome_iff_eq_none, fields?_isSome_iff]
    exact h
  rw [decode, hf]

theorem fields?_encode {cs : Charset} (h : cs.isLegacy = false) (s : Text) :
    fields? (encode cs s) = some (cs.name, ['Q'], payload cs s) := by
  have hname : '?' ∉ cs.name := fun hm => (Charset.name_chars h _ hm).2.1 rfl
  exact fields?_eq_some_iff.2 ⟨by simp [encode_eq, mark], hname, by decide⟩

/-! ## Round trip -/

/-- **An encoded word is read back.** It is printable ASCII without blanks, and it is read as
what its charset makes of the text, which is the text itself exactly when the charset
has it. -/
theorem word_reads_back {cs : Charset} (h : cs.isLegacy = false) (s : Text) :
    (∀ c ∈ encode cs s, Text.Visible c) ∧
      decode (encode cs s) = .ok (cs.decode (cs.encode s)) ∧
      (decode (encode cs s) = .ok s ↔ cs.canEncode s = true) := by
  have hread : decode (encode cs s) = .ok (cs.decode (cs.encode s)) := by
    have hq : Text.sameFold ['Q'] ['q'] = true := by decide
    rw [decode, fields?_encode h]
    simp only [hq, Charset.ofName_name h, payload?_payload]
    rfl
  refine ⟨visible_encode h s, hread, ?_⟩
  rw [hread, Except.ok.injEq]
  exact Charset.decode_encode_eq_self_iff h

/-- Every mark of a word and a supplementary character, in units with a byte order mark. -/
theorem word_reads_back_marks :
    Charset.utf16.isLegacy = false ∧ Charset.utf16.canEncode ['=', '?', '_', ' ', '\x00', '😀'] = true ∧
      encode .utf16 ['?', '😀'] = "=?UTF-16?Q?=FE=FF=00=3F=D8=3D=DE=00?=".toList ∧
      decode (encode .utf16 ['=', '?', '_', ' ', '\x00', '😀']) = .ok ['=', '?', '_', ' ', '\x00', '😀'] := by
  have h : Charset.utf16.isLegacy = false := rfl
  exact ⟨h, rfl, by decide, (word_reads_back h _).2.2.2 rfl⟩

end MessageHead.EncodedWord
