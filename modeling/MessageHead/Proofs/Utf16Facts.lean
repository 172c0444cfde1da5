/-
UTF-16 there and back, in either byte order: the bytes of a text are read as
that text (`decode_encode`), and bytes that are read without a replacement are
the bytes of what was read (`encode_decode`). Both go through the units, where
a character is one unit that is no surrogate or a pair of them. A byte too many
counts as the unit FFFD, which is no surrogate and so is read as the
replacement wherever it stands.
-/
import MessageHead.Proofs.Utf8Facts
import MessageHead.Text.Utf16

namespace MessageHead.Utf16

open Utf8 (replacement toNat_charOfNat_valid)

theorem toNat_unit {n : Nat} (h : n < 0x10000) : (UInt16.ofNat n).toNat = n := UInt16.toNat_ofNat_of_lt' h

/-! ## Surrogates -/

theorem isHigh_iff {u : UInt16} : isHigh u = true ↔ 0xD800 ≤ u.toNat ∧ u.toNat < 0xDC00 := by
  simp only [isHigh, Bool.and_eq_true, decide_eq_true_eq, UInt16.le_iff_toNat_le, UInt16.lt_iff_toNat_lt]
  rfl

theorem isLow_iff {u : UInt16} : isLow u = true ↔ 0xDC00 ≤ u.toNat ∧ u.toNat < 0xE000 := by
  simp only [isLow, Bool.and_eq_true, decide_eq_true_eq, UInt16.le_iff_toNat_le, UInt16.lt_iff_toNat_lt]
  rfl

/-- Neither half of a pair. -/
def Single (u : UInt16) : Prop := u.toNat < 0xD800 ∨ 0xE000 ≤ u.toNat

theorem single_iff {u : UInt16} : Single u ↔ ¬isHigh u = true ∧ ¬isLow u = true := by
  rw [isHigh_iff, isLow_iff, Single]
  omega

theorem Single.isValidChar {u : UInt16} (h : Single u) : u.toNat.isValidChar := by
  have hu := u.toNat_lt
  have hs : u.toNat < 0xD800 ∨ 0xE000 ≤ u.toNat := h
  show u.toNat < 0xD800 ∨ 0xDFFF < u.toNat ∧ u.toNat < 0x110000
  omega

/-! ## One character -/

theorem ofUnits_single {u : UInt16} (h : Single u) (us : List UInt16) :
    ofUnits (u :: us) = Char.ofNat u.toNat :: ofUnits us := by
  obtain ⟨hh, hl⟩ := single_iff.1 h
  cases us with
  | nil => simp [ofUnits, hh, hl]
  | cons v us => simp [ofUnits, hh, hl]

theorem ofUnits_pair {hi lo : UInt16} (hh : isHigh hi = true) (hl : isLow lo = true) (us : List UInt16) :
    ofUnits (hi :: lo :: us) = pair hi lo :: ofUnits us := by
  rw [ofUnits, if_pos hh, if_pos hl]

theorem unitsOf_cases (c : Char) :
    (∃ u, unitsOf c = [u] ∧ Single u ∧ Char.ofNat u.toNat = c) ∨
      ∃ hi lo, unitsOf c = [hi, lo] ∧ isHigh hi = true ∧ isLow lo = true ∧ pair hi lo = c := by
  have hv : c.toNat < 0xD800 ∨ 0xDFFF < c.toNat ∧ c.toNat < 0x110000 := c.valid
  by_cases h : c.toNat < 0x10000
  · have hu := toNat_unit h
    refine .inl ⟨UInt16.ofNat c.toNat, if_pos h, ?_, by rw [hu, Char.ofNat_toNat]⟩
    rw [Single]
    omega
  · have hhi := toNat_unit (n := 0xD800 + (c.toNat - 0x10000) / 0x400) (by omega)
    have hlo := toNat_unit (n := 0xDC00 + (c.toNat - 0x10000) % 0x400) (by omega)
    refine .inr ⟨_, _, if_neg h, isHigh_iff.2 (by omega), isLow_iff.2 (by omega), ?_⟩
    rw [pair, hhi, hlo, show 0x10000 + (0xD800 + (c.toNat - 0x10000) / 0x400 - 0xD800) * 0x400 +
      (0xDC00 + (c.toNat - 0x10000) % 0x400 - 0xDC00) = c.toNat by omega, Char.ofNat_toNat]

/-- **A character is read from its units**, whatever follows. -/
theorem ofUnits_unitsOf (c : Char) (us : List UInt16) : ofUnits (unitsOf c ++ us) = c :: ofUnits us := by
  rcases unitsOf_cases c with ⟨u, hc, hs, rfl⟩ | ⟨hi, lo, hc, hh, hl, rfl⟩
  · rw [hc]
    exact ofUnits_single hs us
  · rw [hc]
    exact ofUnits_pair hh hl us

theorem unitsOf_single {u : UInt16} (h : Single u) : unitsOf (Char.ofNat u.toNat) = [u] := by
  have hu := u.toNat_lt
  rw [unitsOf, toNat_charOfNat_valid h.isValidChar, if_pos (by omega), UInt16.ofNat_toNat]

theorem unitsOf_pair {hi lo : UInt16} (hh : isHigh hi = true) (hl : isLow lo = true) :
    unitsOf (pair hi lo) = [hi, lo] := by
  rw [isHigh_iff] at hh
  rw [isLow_iff] at hl
  generalize hn : 0x10000 + (hi.toNat - 0xD800) * 0x400 + (lo.toNat - 0xDC00) = n
  have hv : n < 0xD800 ∨ 0xDFFF < n ∧ n < 0x110000 := by omega
  have hhi : UInt16.ofNat (0xD800 + (n - 0x10000) / 0x400) = hi := by
    rw [show 0xD800 + (n - 0x10000) / 0x400 = hi.toNat by omega, UInt16.ofNat_toNat]
  have hlo : UInt16.ofNat (0xDC00 + (n - 0x10000) % 0x400) = lo := by
    rw [show 0xDC00 + (n - 0x10000) % 0x400 = lo.toNat by omega, UInt16.ofNat_toNat]
  rw [pair, hn, unitsOf, toNat_charOfNat_valid hv, if_neg (by omega)]
  simp only [hhi, hlo]

/-! ## Texts as units -/

theorem ofUnits_units (s : Text) : ofUnits (units s) = s := by
  unfold units
  induction s with
  | nil => rfl
  | cons c s ih => rw [List.flatMap_cons, ofUnits_unitsOf, ih]

/-- Units that are read without a replacement are the units of what was read. -/
theorem units_ofUnits {us : List UInt16} (h : replacement ∉ ofUnits us) : units (ofUnits us) = us := by
  unfold units
  fun_induction ofUnits us with
  | case1 => rfl
  | case2 u =>
    split at h
    · simp at h
    · rename_i hu
      have hs : Single u := single_iff.2 (by simpa using hu)
      rw [if_neg hu, List.flatMap_cons, List.flatMap_nil, unitsOf_single hs]
      rfl
  | case3 u v us hh hl ih =>
    rw [List.mem_cons, not_or] at h
    rw [List.flatMap_cons, unitsOf_pair hh hl, ih h.2]
    rfl
  | case4 => simp at h
  | case5 => simp at h
  | case6 u v us hh hl ih =>
    rw [List.mem_cons, not_or] at h
    rw [List.flatMap_cons, unitsOf_single (single_iff.2 ⟨hh, hl⟩), ih h.2]
    rfl

/-- The unit FFFD is read as the replacement, wherever it stands. -/
theorem replacement_mem_ofUnits {us : List UInt16} (h : 0xFFFD ∈ us) : replacement ∈ ofUnits us := by
  -- Without a replacement the units are those of characters, and none of these has a unit FFFD
  -- but the replacement.
  refine Decidable.byContradiction fun hne => ?_
  rw [← units_ofUnits hne] at h
  obtain ⟨c, hc, hu⟩ := List.mem_flatMap.1 h
  rcases unitsOf_cases c with ⟨u, hcu, -, rfl⟩ | ⟨hi, lo, hcu, hh, hl, -⟩
  · rw [hcu, List.mem_singleton] at hu
    rw [← hu] at hc
    exact hne hc
  · rw [hcu, List.mem_cons, List.mem_singleton] at hu
    rcases hu with rfl | rfl
    · exact absurd hh (by decide)
    · exact absurd hl (by decide)

/-! ## Units as bytes -/

theorem unitsOfBytes_unitBytes (order : ByteOrder) (u : UInt16) (bytes : Bytes) :
    unitsOfBytes order (unitBytes order u ++ bytes) = u :: unitsOfBytes order bytes := by
  have hu := u.toNat_lt
  have hhi := Utf8.toNat_ofNat (n := u.toNat / 0x100) (by omega)
  have hlo := Utf8.toNat_ofNat (n := u.toNat % 0x100) (by omega)
  have hback : UInt16.ofNat (u.toNat / 0x100 * 0x100 + u.toNat % 0x100) = u := by
    rw [show u.toNat / 0x100 * 0x100 + u.toNat % 0x100 = u.toNat by omega, UInt16.ofNat_toNat]
  cases order <;> simp only [unitBytes, List.cons_append, List.nil_append, unitsOfBytes, unit, hhi, hlo, hback]

theorem unitBytes_unit (order : ByteOrder) (a b : UInt8) : unitBytes order (unit order a b) = [a, b] := by
  have ha := a.toNat_lt
  have hb := b.toNat_lt
  have split : ∀ {x y : UInt8}, x.toNat < 0x100 → y.toNat < 0x100 →
      UInt8.ofNat ((UInt16.ofNat (x.toNat * 0x100 + y.toNat)).toNat / 0x100) = x ∧
      UInt8.ofNat ((UInt16.ofNat (x.toNat * 0x100 + y.toNat)).toNat % 0x100) = y := by
    intro x y hx hy
    rw [toNat_unit (by omega), show (x.toNat * 0x100 + y.toNat) / 0x100 = x.toNat by omega,
      show (x.toNat * 0x100 + y.toNat) % 0x100 = y.toNat by omega, UInt8.ofNat_toNat, UInt8.ofNat_toNat]
    exact ⟨rfl, rfl⟩
  cases order with
  | big => simp only [unitBytes, unit, split ha hb]
  | little => simp only [unitBytes, unit, split hb ha]

theorem unitBytes_unitsOfBytes {order : ByteOrder} {bytes : Bytes} (h : 0xFFFD ∉ unitsOfBytes order bytes) :
    (unitsOfBytes order bytes).flatMap (unitBytes order) = bytes := by
  fun_induction unitsOfBytes order bytes with
  | case1 => rfl
  | case2 => simp at h
  | case3 a b bytes ih =>
    rw [List.mem_cons, not_or] at h
    rw [List.flatMap_cons, unitBytes_unit, ih h.2]
    rfl

/-! ## Texts as bytes -/

/-- **The bytes of a text are read as that text.** -/
theorem decode_encode (order : ByteOrder) (s : Text) : decode order (encode order s) = s := by
  have hunits : ∀ us : List UInt16, unitsOfBytes order (us.flatMap (unitBytes order)) = us := by
    intro us
    induction us with
    | nil => rfl
    | cons u us ih => rw [List.flatMap_cons, unitsOfBytes_unitBytes, ih]
  rw [decode, encode, hunits, ofUnits_units]

/-- **Bytes that are read without a replacement are the bytes of what was read.** -/
theorem encode_decode {order : ByteOrder} {bytes : Bytes} (h : replacement ∉ decode order bytes) :
    encode order (decode order bytes) = bytes := by
  rw [encode, decode, units_ofUnits h,
    unitBytes_unitsOfBytes fun hm => h (replacement_mem_ofUnits hm)]

end MessageHead.Utf16
