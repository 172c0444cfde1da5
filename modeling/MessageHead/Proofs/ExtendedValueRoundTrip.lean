/-
Extended values, how they look and what they are read as. Behind the name of the
charset and two apostrophes stand attribute characters and escapes only
(`ValueChars`), so no text gets a delimiter, a quote or a further apostrophe
into a header; and the value is read as what its charset makes of the text.
-/
import MessageHead.Proofs.ExtendedValueFacts

namespace MessageHead.ExtendedValue

/-! ## The grammar -/

/-- A hexadecimal digit in upper case. -/
def UpperDigit (c : Char) : Prop := ('0' ≤ c ∧ c ≤ '9') ∨ ('A' ≤ c ∧ c ≤ 'F')

instance (c : Char) : Decidable (UpperDigit c) := inferInstanceAs (Decidable (_ ∨ _))

/-- Characters that stand for themselves, and percent signs with two digits each. -/
inductive ValueChars : Text → Prop
  | nil : ValueChars []
  | attr {c : Char} {s : Text} : AttrChar c → ValueChars s → ValueChars (c :: s)
  | escape {h l : Char} {s : Text} : UpperDigit h → UpperDigit l → ValueChars s → ValueChars ('%' :: h :: l :: s)

theorem valueChars_encodeByte (b : UInt8) {s : Text} (hs : ValueChars s) : ValueChars (encodeByte b ++ s) := by
  have hb := b.toNat_lt
  have digit : ∀ n < 16, UpperDigit (Number.upperHex n) := by decide
  rcases encodeByte_cases b with ⟨-, hp, he⟩ | he
  · rw [he]
    exact .attr (attrChar_of_isPlain hp) hs
  · rw [he]
    exact .escape (digit _ (by omega)) (digit _ (by omega)) hs

theorem valueChars_flatMap (bs : Bytes) : ValueChars (bs.flatMap encodeByte) := by
  induction bs with
  | nil => exact .nil
  | cons b bs ih =>
    rw [List.flatMap_cons]
    exact valueChars_encodeByte b ih

/-! ## Round trip -/

/-- **An extended value is written in its grammar and read back.** It is read as the text with
a question mark for every character that the charset lacks, which is the text itself
exactly when the charset has it. -/
theorem value_reads_back {cs : Charset} (h : Charset.Extended cs) (s : Text) :
    ∃ t, encode cs s = .ok (cs.name ++ '\'' :: '\'' :: t) ∧ ValueChars t ∧
      decode (cs.name ++ '\'' :: '\'' :: t) = .ok (cs.held s) ∧
      (decode (cs.name ++ '\'' :: '\'' :: t) = .ok s ↔ cs.canEncode s = true) := by
  have hread : decode (cs.name ++ '\'' :: '\'' :: (cs.encode s).flatMap encodeByte) = .ok (cs.held s) := by
    rw [decode, read_written h]
    rfl
  refine ⟨_, encode_eq h s, valueChars_flatMap _, hread, ?_⟩
  rw [hread, Except.ok.injEq, Charset.held_eq_self_iff, Charset.canEncode_iff h.own]

/-- A percent sign, an apostrophe, a delimiter and a character that the charset lacks. -/
theorem value_reads_back_lacking :
    Charset.Extended .iso8859_1 ∧
      encode .iso8859_1 "a%';é€".toList = .ok "ISO-8859-1''a%25%27%3B%E9%3F".toList ∧
      decode "ISO-8859-1''a%25%27%3B%E9%3F".toList = .ok "a%';é?".toList ∧
      decode "ISO-8859-1''a%25%27%3B%E9%3F".toList ≠ .ok "a%';é€".toList := by
  have h : Charset.Extended .iso8859_1 := .inr rfl
  have he : encode .iso8859_1 "a%';é€".toList = .ok "ISO-8859-1''a%25%27%3B%E9%3F".toList := rfl
  obtain ⟨t, ht, -, hread, hself⟩ := value_reads_back h "a%';é€".toList
  rw [he, Except.ok.injEq] at ht
  rw [← ht] at hread hself
  exact ⟨h, he, hread, fun e => absurd (hself.1 e) (by decide)⟩

end MessageHead.ExtendedValue
