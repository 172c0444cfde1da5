/-
Whole numbers written and read again. The digits of a number are digits and have its value
(`digits?_decimal`); with a sign where there is one, any number within the bounds of a
field is read back from what it is written as. Of other texts, decimal numerals are read
(`digits?_eq_some_iff`), and a field without a sign reads them behind a plus sign too.
-/
import MessageHead.Proofs.TextFacts
import MessageHead.Text.Number

namespace MessageHead.Number

theorem visible_of_isDigit {c : Char} (h : c.isDigit = true) : Text.Visible c := by
  simp only [Char.isDigit, Bool.and_eq_true, decide_eq_true_eq] at h
  have hd : 48 ≤ c.toNat ∧ c.toNat ≤ 57 := h
  unfold Text.Visible
  omega

theorem isDigit_decimal {n : Nat} {c : Char} (h : c ∈ decimal n) : c.isDigit = true :=
  Nat.isDigit_of_mem_toDigits (by decide) (by decide) h

theorem readDigits_eq {s : Text} (h : ∀ c ∈ s, c.isDigit = true) (acc : Nat) :
    readDigits acc s = some (Nat.ofDigitChars 10 s acc) := by
  induction s generalizing acc with
  | nil => rfl
  | cons c s ih =>
    obtain ⟨hc, hs⟩ := List.forall_mem_cons.1 h
    rw [readDigits, if_pos hc, ih hs, Nat.ofDigitChars_cons, Nat.mul_comm]
    rfl

/-- **The digits of a number have its value.** -/
theorem digits?_decimal (n : Nat) : digits? (decimal n) = some n := by
  have hvalue := readDigits_eq (s := decimal n) (fun _ => isDigit_decimal) 0
  rw [decimal, Nat.ofDigitChars_ten_toDigits] at hvalue
  rw [digits?.eq_2 (decimal n) Nat.toDigits_ne_nil]
  exact hvalue

/-- A number begins with a digit and so with no sign. -/
theorem exists_decimal (n : Nat) : ∃ c s, decimal n = c :: s ∧ c ≠ '+' ∧ c ≠ '-' := by
  cases hs : decimal n with
  | nil => exact absurd hs Nat.toDigits_ne_nil
  | cons c s =>
    have hc : c.isDigit = true := isDigit_decimal (n := n) (by simp [hs])
    refine ⟨c, s, rfl, ?_, ?_⟩ <;> rintro rfl <;> exact absurd hc (by decide)

theorem unsigned?_decimal {max n : Nat} (h : n ≤ max) : unsigned? max (decimal n) = some n := by
  obtain ⟨c, s, hs, hplus, -⟩ := exists_decimal n
  have hvalue := digits?_decimal n
  rw [hs] at hvalue ⊢
  simp [unsigned?, hplus, hvalue, h]

theorem signed?_signedDecimal {min max n : Int} (hmin : min ≤ n) (hmax : n ≤ max) :
    signed? min max (signedDecimal n) = some n := by
  unfold signedDecimal
  split
  · rename_i hneg
    have habs : -(n.natAbs : Int) = n := by omega
    have hread : (digits? (decimal n.natAbs)).map (fun k => -Int.ofNat k) = some n := by
      rw [digits?_decimal, Option.map_some]
      exact congrArg some habs
    show ((digits? (decimal n.natAbs)).map fun k => -Int.ofNat k).filter _ = some n
    rw [hread]
    simp [hmin, hmax]
  · rename_i hpos
    obtain ⟨c, s, hs, hplus, hminus⟩ := exists_decimal n.natAbs
    have hvalue := digits?_decimal n.natAbs
    have habs : (n.natAbs : Int) = n := by omega
    rw [hs] at hvalue ⊢
    simp [signed?, hplus, hminus, hvalue, habs, hmin, hmax]

theorem trimmed_decimal (n : Nat) : Text.Trimmed (decimal n) :=
  .of_visible fun _ hc => visible_of_isDigit (isDigit_decimal hc)

theorem trimmed_signedDecimal (n : Int) : Text.Trimmed (signedDecimal n) := by
  refine .of_visible fun c hc => ?_
  unfold signedDecimal at hc
  split at hc
  · rcases List.mem_cons.1 hc with rfl | hc
    · exact ⟨by decide, by decide⟩
    · exact visible_of_isDigit (isDigit_decimal hc)
  · exact visible_of_isDigit (isDigit_decimal hc)

/-! ## What is read -/

/-- The text is `n` in decimal: one or more ASCII digits, with leading zeros or without. -/
structure Numeral (s : Text) (n : Nat) : Prop where
  nonempty : s ≠ []
  digits : ∀ c ∈ s, c.isDigit = true
  value : Nat.ofDigitChars 10 s 0 = n

theorem isDigit_of_readDigits {s : Text} {acc n : Nat} (h : readDigits acc s = some n) :
    ∀ c ∈ s, c.isDigit = true := by
  induction s generalizing acc with
  | nil => simp
  | cons c s ih =>
    rw [readDigits] at h
    split at h
    · rename_i hc
      exact List.forall_mem_cons.2 ⟨hc, ih h⟩
    · cases h

/-- **Decimal numerals are read as their value, and nothing else is.** -/
theorem digits?_eq_some_iff {s : Text} {n : Nat} : digits? s = some n ↔ Numeral s n := by
  by_cases hne : s = []
  · subst hne
    constructor
    · intro h
      cases h
    · intro h
      exact absurd rfl h.nonempty
  · rw [digits?.eq_2 s hne]
    constructor
    · intro h
      have hd := isDigit_of_readDigits h
      rw [readDigits_eq hd, Option.some.injEq] at h
      exact ⟨hne, hd, h⟩
    · intro h
      rw [readDigits_eq h.digits, h.value]

theorem Numeral.ne_plus {s : Text} {n : Nat} (h : Numeral s n) (t : Text) : s ≠ '+' :: t := by
  rintro rfl
  exact absurd (h.digits '+' (by simp)) (by decide)

/-- **A field without a sign reads numerals up to its bound**, also behind a plus sign. -/
theorem unsigned?_eq_some_iff {max n : Nat} {s : Text} :
    unsigned? max s = some n ↔ n ≤ max ∧ (Numeral s n ∨ ∃ t, s = '+' :: t ∧ Numeral t n) := by
  have bounded : ∀ body : Text,
      (digits? body).filter (· ≤ max) = some n ↔ n ≤ max ∧ Numeral body n := by
    intro body
    rw [Option.filter_eq_some_iff, digits?_eq_some_iff, decide_eq_true_eq, and_comm]
  unfold unsigned?
  split
  · rename_i t
    rw [bounded]
    constructor
    · exact fun ⟨hn, ht⟩ => ⟨hn, .inr ⟨t, rfl, ht⟩⟩
    · rintro ⟨hn, hs | ⟨t', ht', hn'⟩⟩
      · exact absurd rfl (hs.ne_plus t)
      · cases ht'
        exact ⟨hn, hn'⟩
  · rename_i hplus
    rw [bounded]
    constructor
    · exact fun ⟨hn, hs⟩ => ⟨hn, .inl hs⟩
    · rintro ⟨hn, hs | ⟨t, ht, -⟩⟩
      · exact ⟨hn, hs⟩
      · exact absurd ht (hplus t)

end MessageHead.Number
