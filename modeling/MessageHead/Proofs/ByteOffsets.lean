/-
Byte offsets in a text. An offset cuts the text in two exactly when the text in
front of it has that many bytes (`cutAtByte?_eq_some_iff`), so an offset has one
cut at most; and every character has as many bytes as its size says
(`length_encode`).
-/
import MessageHead.Proofs.Utf8Facts

namespace MessageHead.Utf8

@[simp] theorem size_nil : size [] = 0 := rfl

@[simp] theorem size_cons (c : Char) (s : Text) : size (c :: s) = c.utf8Size + size s := rfl

@[simp] theorem size_append (s t : Text) : size (s ++ t) = size s + size t := by
  induction s with
  | nil => simp
  | cons c s ih =>
    rw [List.cons_append, size_cons, size_cons, ih]
    omega

theorem size_pos {s : Text} (h : s ≠ []) : 0 < size s := by
  obtain ⟨c, t, rfl⟩ := List.exists_cons_of_ne_nil h
  have := c.utf8Size_pos
  rw [size_cons]
  omega

theorem size_le_of_suffix {s t : Text} (h : s <:+ t) : size s ≤ size t := by
  obtain ⟨front, rfl⟩ := h
  rw [size_append]
  omega

/-- The size of a character by its code point. -/
theorem utf8Size_eq (c : Char) : c.utf8Size =
    if c.toNat < 0x80 then 1 else if c.toNat < 0x800 then 2 else if c.toNat < 0x10000 then 3 else 4 := by
  have le_iff : ∀ n : UInt32, c.val ≤ n ↔ c.toNat < n.toNat + 1 := fun n => by
    rw [UInt32.le_iff_toNat_le, Nat.lt_succ_iff]
    rfl
  unfold Char.utf8Size
  simp only [le_iff]
  rfl

/-- Characters of ASCII take one byte, and no others do. -/
theorem utf8Size_eq_one_iff {c : Char} : c.utf8Size = 1 ↔ c.toNat < 0x80 := by
  rw [utf8Size_eq]
  constructor
  · intro h
    by_cases hc : c.toNat < 0x80
    · exact hc
    · rw [if_neg hc] at h
      split at h
      · omega
      · split at h <;> omega
  · exact fun h => if_pos h

theorem length_encodeChar (c : Char) : (encodeChar c).length = c.utf8Size := by
  rw [utf8Size_eq, encodeChar]
  by_cases h₁ : c.toNat < 0x80
  · simp [h₁]
  · by_cases h₂ : c.toNat < 0x800
    · simp [h₁, h₂]
    · by_cases h₃ : c.toNat < 0x10000 <;> simp [h₁, h₂, h₃]

theorem length_encode (s : Text) : (encode s).length = size s := by
  induction s with
  | nil => rfl
  | cons c s ih =>
    rw [size_cons, ← ih, ← length_encodeChar]
    exact List.length_append

theorem cutAtByte?_append (a b : Text) : cutAtByte? (size a) (a ++ b) = some (a, b) := by
  induction a with
  | nil => cases b <;> rfl
  | cons c a ih =>
    have hc := c.utf8Size_pos
    obtain ⟨n, hn⟩ : ∃ n, c.utf8Size + size a = n + 1 := ⟨c.utf8Size + size a - 1, by omega⟩
    rw [size_cons, List.cons_append, hn, cutAtByte?, if_pos (by omega), ← hn, Nat.add_sub_cancel_left, ih]
    rfl

theorem append_of_cutAtByte? {n : Nat} {s a b : Text} (h : cutAtByte? n s = some (a, b)) :
    a ++ b = s ∧ size a = n := by
  fun_induction cutAtByte? n s generalizing a b with
  | case1 =>
    simp only [Option.some.injEq, Prod.mk.injEq] at h
    obtain ⟨rfl, rfl⟩ := h
    exact ⟨rfl, rfl⟩
  | case2 => cases h
  | case3 n c s hc ih =>
    obtain ⟨⟨a', b'⟩, h', he⟩ := Option.map_eq_some_iff.1 h
    simp only [Prod.mk.injEq] at he
    obtain ⟨rfl, rfl⟩ := he
    obtain ⟨rfl, hsize⟩ := ih h'
    exact ⟨rfl, by rw [size_cons]; omega⟩
  | case4 => cases h

/-- **Where an offset cuts**: behind as many bytes. -/
theorem cutAtByte?_eq_some_iff {n : Nat} {s a b : Text} :
    cutAtByte? n s = some (a, b) ↔ a ++ b = s ∧ size a = n := by
  constructor
  · exact append_of_cutAtByte?
  · rintro ⟨rfl, rfl⟩
    exact cutAtByte?_append a b

end MessageHead.Utf8
