/-
The six charsets defined here, there and back. What a charset makes of a text
is known from its repertoire alone: every character beyond it comes back as a
question mark and every other one as itself (`decode_encode_eq_held`). Bytes
that are read without a replacement are written again as they were, unless the
charset writes a byte order mark (`encode_decode`).
-/
import MessageHead.Charset.Codec
import MessageHead.Charset.Label
import MessageHead.Proofs.TextFacts
import MessageHead.Proofs.Utf16Facts

namespace MessageHead.Charset

/-! ## Repertoires -/

/-- The last code point that one of the six charsets has. -/
def lastCode : Charset → Nat
  | .usAscii => 0x7F
  | .iso8859_1 => 0xFF
  | _ => 0x10FFFF

/-- A text as far as the charset has its characters, a question mark for every other one. -/
def held (cs : Charset) (s : Text) : Text := s.map fun c => if c.toNat ≤ cs.lastCode then c else '?'

theorem toNat_le_last (c : Char) : c.toNat ≤ 0x10FFFF := by
  have hv : c.toNat < 0xD800 ∨ 0xDFFF < c.toNat ∧ c.toNat < 0x110000 := c.valid
  omega

theorem questionMark_le_lastCode (cs : Charset) : '?'.toNat ≤ cs.lastCode := by
  have h : 0x7F ≤ cs.lastCode := by cases cs <;> simp [lastCode]
  exact Nat.le_trans (by decide) h

theorem held_eq_self_iff {cs : Charset} {s : Text} : cs.held s = s ↔ ∀ c ∈ s, c.toNat ≤ cs.lastCode := by
  have hmap : cs.held s = s ↔ ∀ c ∈ s, (if c.toNat ≤ cs.lastCode then c else '?') = c := by
    conv => lhs; rhs; rw [← List.map_id s]
    exact List.map_inj_left
  rw [hmap]
  refine forall₂_congr fun c _ => ?_
  by_cases hc : c.toNat ≤ cs.lastCode
  · simp [hc]
  · rw [if_neg hc]
    refine ⟨fun he => absurd ?_ hc, fun h => absurd h hc⟩
    rw [← he]
    exact questionMark_le_lastCode cs

theorem held_unicode {cs : Charset} (h : cs.lastCode = 0x10FFFF) (s : Text) : cs.held s = s :=
  held_eq_self_iff.2 fun c _ => h ▸ toNat_le_last c

theorem canEncode_iff {cs : Charset} (h : cs.isLegacy = false) {s : Text} :
    cs.canEncode s = true ↔ ∀ c ∈ s, c.toNat ≤ cs.lastCode := by
  have lt_iff : ∀ n, (s.all fun c => decide (c.toNat < n + 1)) = true ↔ ∀ c ∈ s, c.toNat ≤ n := by
    intro n
    simp only [List.all_eq_true, decide_eq_true_eq, Nat.lt_succ_iff]
  have all : ∀ c ∈ s, c.toNat ≤ 0x10FFFF := fun c _ => toNat_le_last c
  cases cs with
  | usAscii => exact lt_iff 0x7F
  | iso8859_1 => exact lt_iff 0xFF
  | utf8 | utf16 | utf16BE | utf16LE => exact ⟨fun _ => all, fun _ => rfl⟩
  | legacy l => cases h

/-! ## Names -/

theorem ofName_name {cs : Charset} (h : cs.isLegacy = false) : ofName cs.name = .ok cs := by
  cases cs with
  | usAscii | iso8859_1 | utf8 | utf16 | utf16BE | utf16LE => rfl
  | legacy l => cases h

/-- The names are visible and hold no mark that delimits them where they are written. -/
theorem name_chars {cs : Charset} (h : cs.isLegacy = false) :
    ∀ c ∈ cs.name, Text.Visible c ∧ c ≠ '?' ∧ c ≠ '\'' := by
  cases cs with
  | usAscii | iso8859_1 | utf8 | utf16 | utf16BE | utf16LE => decide
  | legacy l => cases h

/-! ## There and back -/

/-- **What a charset makes of a text.** -/
theorem decode_encode_eq_held {cs : Charset} (h : cs.isLegacy = false) (s : Text) :
    cs.decode (cs.encode s) = cs.held s := by
  cases cs with
  | usAscii =>
    simp only [encode, decode, held, List.map_map]
    refine List.map_congr_left fun c _ => ?_
    simp only [Function.comp_apply]
    by_cases hc : c.toNat < 0x80
    · have hb := Utf8.toNat_ofNat (n := c.toNat) (by omega)
      have hlt : UInt8.ofNat c.toNat < 0x80 := by
        rw [UInt8.lt_iff_toNat_lt, hb]
        exact hc
      rw [if_pos hc, if_pos hlt, hb, Char.ofNat_toNat, if_pos (by show c.toNat ≤ 0x7F; omega)]
    · have hmark : questionMark < 0x80 := by decide
      rw [if_neg hc, if_pos hmark, if_neg (by show ¬c.toNat ≤ 0x7F; omega)]
      rfl
  | iso8859_1 =>
    simp only [encode, decode, held, List.map_map]
    refine List.map_congr_left fun c _ => ?_
    simp only [Function.comp_apply]
    by_cases hc : c.toNat < 0x100
    · rw [if_pos hc, Utf8.toNat_ofNat hc, Char.ofNat_toNat, if_pos (by show c.toNat ≤ 0xFF; omega)]
    · rw [if_neg hc, if_neg (by show ¬c.toNat ≤ 0xFF; omega)]
      rfl
  | utf8 => exact (Utf8.decode_encode s).trans (held_unicode rfl s).symm
  | utf16 | utf16BE => exact (Utf16.decode_encode .big s).trans (held_unicode rfl s).symm
  | utf16LE => exact (Utf16.decode_encode .little s).trans (held_unicode rfl s).symm
  | legacy l => cases h

theorem decode_encode_eq_self_iff {cs : Charset} (h : cs.isLegacy = false) {s : Text} :
    cs.decode (cs.encode s) = s ↔ cs.canEncode s = true := by
  rw [decode_encode_eq_held h, held_eq_self_iff, canEncode_iff h]

theorem toNat_byte (b : UInt8) : (Char.ofNat b.toNat).toNat = b.toNat :=
  Utf8.toNat_charOfNat (by have := b.toNat_lt; omega)

theorem encode_decode_iso8859_1 (bytes : Bytes) : iso8859_1.encode (iso8859_1.decode bytes) = bytes := by
  simp only [encode, decode, List.map_map]
  conv => rhs; rw [← List.map_id bytes]
  refine List.map_congr_left fun b _ => ?_
  simp only [Function.comp_apply, toNat_byte, if_pos b.toNat_lt, UInt8.ofNat_toNat, id]

/-- **Bytes that are read without a replacement are written again as they were.** -/
theorem encode_decode {cs : Charset} (h : cs.isLegacy = false) (hmark : cs ≠ .utf16) {bytes : Bytes}
    (hr : Utf8.replacement ∉ cs.decode bytes) : cs.encode (cs.decode bytes) = bytes := by
  cases cs with
  | usAscii =>
    simp only [encode, decode, List.map_map] at hr ⊢
    conv => rhs; rw [← List.map_id bytes]
    refine List.map_congr_left fun b hb => ?_
    have hlt : b < 0x80 := Decidable.byContradiction fun hn =>
      hr (List.mem_map.2 ⟨b, hb, if_neg hn⟩)
    have hlt' : b.toNat < 0x80 := hlt
    simp only [Function.comp_apply, if_pos hlt, toNat_byte, if_pos hlt', UInt8.ofNat_toNat, id]
  | iso8859_1 => exact encode_decode_iso8859_1 bytes
  | utf8 => exact Utf8.encode_decode hr
  | utf16 => exact absurd rfl hmark
  | utf16BE => exact Utf16.encode_decode hr
  | utf16LE => exact Utf16.encode_decode hr
  | legacy l => cases h

/-- **The six codecs are inverse.** A text comes back with a question mark for every
character that the charset lacks, and unchanged exactly when the charset has it.
Bytes that are read without a replacement come back unchanged too; only UTF-16,
which takes a byte order mark off and always writes one, is left out there. -/
theorem codecs_inverse {cs : Charset} (h : cs.isLegacy = false) :
    (∀ s, cs.decode (cs.encode s) = cs.held s) ∧
    (∀ s, cs.decode (cs.encode s) = s ↔ cs.canEncode s = true) ∧
    (cs ≠ .utf16 → ∀ bytes, Utf8.replacement ∉ cs.decode bytes → cs.encode (cs.decode bytes) = bytes) :=
  ⟨decode_encode_eq_held h, fun _ => decode_encode_eq_self_iff h, fun hmark _ => encode_decode h hmark⟩

/-- A byte order mark and a supplementary character, in little-endian units. -/
theorem codecs_inverse_supplementary :
    utf16LE.isLegacy = false ∧ utf16LE ≠ .utf16 ∧
      Utf8.replacement ∉ utf16LE.decode [0xFF, 0xFE, 0x3D, 0xD8, 0x00, 0xDE] ∧
      utf16LE.decode [0xFF, 0xFE, 0x3D, 0xD8, 0x00, 0xDE] = ['\uFEFF', '😀'] ∧
      utf16LE.encode ['\uFEFF', '😀'] = [0xFF, 0xFE, 0x3D, 0xD8, 0x00, 0xDE] ∧
      utf16LE.decode (utf16LE.encode ['\uFEFF', '😀']) = ['\uFEFF', '😀'] := by
  have h : utf16LE.isLegacy = false := rfl
  have hr : Utf8.replacement ∉ utf16LE.decode [0xFF, 0xFE, 0x3D, 0xD8, 0x00, 0xDE] := by decide
  have hd : utf16LE.decode [0xFF, 0xFE, 0x3D, 0xD8, 0x00, 0xDE] = ['\uFEFF', '😀'] := by decide
  obtain ⟨-, hself, hback⟩ := codecs_inverse h
  have hback := hback (by decide) _ hr
  rw [hd] at hback
  exact ⟨h, by decide, hr, hd, hback, (hself _).2 rfl⟩

end MessageHead.Charset
