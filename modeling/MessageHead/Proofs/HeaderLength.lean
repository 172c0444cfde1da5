/-
The length of a body as the header fields give it. The last value of its field
counts, without the blanks around it, and is read as a number of 64 bits. That
accepts decimal digits, and digits behind a plus sign as well, which no length has.
-/
import MessageHead.Proofs.HeaderHistory
import MessageHead.Proofs.NumberFacts

namespace MessageHead.Headers

open Number (Numeral)

variable {h : Headers} {n : Nat}

theorem last?_eq (hs : h.Sound) (name : Text) : h.last? name = (valuesIn name h.lines).getLast? := by
  rw [valuesIn_lines hs, last?]
  cases h.values? name <;> rfl

/-- The last line that gives a length has, between blanks, `lead` and then `n` in
decimal digits, and `n` is a number of 64 bits. -/
def Tells (h : Headers) (lead : Text) (n : Nat) : Prop :=
  n ≤ Number.maxUnsigned64 ∧ ∃ v digits, (valuesIn contentLengthName h.lines).getLast? = some v ∧
    Text.trim v = lead ++ digits ∧ Numeral digits n

theorem tells_iff {v lead : Text} (hv : (valuesIn contentLengthName h.lines).getLast? = some v) :
    h.Tells lead n ↔
      n ≤ Number.maxUnsigned64 ∧ ∃ digits, Text.trim v = lead ++ digits ∧ Numeral digits n := by
  constructor
  · rintro ⟨hn, v', digits, hv', ht, hd⟩
    cases hv.symm.trans hv'
    exact ⟨hn, digits, ht, hd⟩
  · rintro ⟨hn, digits, ht, hd⟩
    exact ⟨hn, v, digits, hv, ht, hd⟩

theorem not_tells {lead : Text} (hv : (valuesIn contentLengthName h.lines).getLast? = none) :
    ¬h.Tells lead n := by
  rintro ⟨-, v, digits, hv', -⟩
  cases hv.symm.trans hv'

theorem contentLength?_eq_some_iff (hs : h.Sound) :
    h.contentLength? = some n ↔ h.Tells [] n ∨ h.Tells ['+'] n := by
  rw [contentLength?, last?_eq hs]
  cases hv : (valuesIn contentLengthName h.lines).getLast? with
  | none =>
    constructor
    · intro hn
      cases hn
    · rintro (ht | ht)
      · exact absurd ht (not_tells hv)
      · exact absurd ht (not_tells hv)
  | some v =>
    rw [Option.bind_some, Number.unsigned?_eq_some_iff, tells_iff hv, tells_iff hv, ← and_or_left]
    simp

theorem Tells.not_plus {n m : Nat} (h₁ : h.Tells [] n) : ¬h.Tells ['+'] m := by
  rintro ⟨-, v, digits, hv, ht, -⟩
  obtain ⟨-, v', digits', hv', ht', hd'⟩ := h₁
  cases hv.symm.trans hv'
  exact hd'.ne_plus digits (ht'.symm.trans ht)

/-- **A length is accepted exactly when the last one given is decimal digits**, of a number
of 64 bits, or such digits behind a plus sign. The plus sign is all that keeps the fields
from giving valid lengths and no others. -/
theorem contentLength_told (hr : Reachable h) (n : Nat) :
    (h.contentLength? = some n ↔ h.Tells [] n ∨ h.Tells ['+'] n) ∧
      ((h.contentLength? = some n ↔ h.Tells [] n) ↔ ¬h.Tells ['+'] n) := by
  have hread := contentLength?_eq_some_iff (n := n) hr.sound
  refine ⟨hread, ?_⟩
  rw [hread]
  constructor
  · intro hiff hplus
    exact (hiff.1 (.inr hplus)).not_plus hplus
  · intro hplus
    exact ⟨fun ht => ht.resolve_right hplus, .inl⟩

/-- Two lengths under two spellings of the name. The last one has blanks around it and a
leading zero. -/
def twoLengths : Headers :=
  ofLines [("content-length".toList, ['7']), ("CONTENT-Length".toList, "\u00a0018446744073709551615\t".toList)]

/-- The last length is the greatest number of 64 bits. -/
theorem contentLength_told_greatest :
    Reachable twoLengths ∧ twoLengths.Tells [] 18446744073709551615 ∧
      twoLengths.contentLength? = some 18446744073709551615 ∧
      (twoLengths.contentLength? = some 7 ↔ twoLengths.Tells [] 7) := by
  have hr : Reachable twoLengths := .change (c := .addLines _) .empty (by simp [Change.sources])
  have htells : twoLengths.Tells [] 18446744073709551615 :=
    ⟨by decide, "\u00a0018446744073709551615\t".toList, "018446744073709551615".toList, by decide, by decide,
      by decide, by decide, by decide⟩
  obtain ⟨hread, -⟩ := contentLength_told hr 18446744073709551615
  obtain ⟨-, hexact⟩ := contentLength_told hr 7
  exact ⟨hr, htells, hread.2 (.inl htells), hexact.2 htells.not_plus⟩

/-- A length with a sign is accepted. -/
theorem contentLength_told_sign :
    Reachable (ofLines [(contentLengthName, ['+', '5'])]) ∧
      (ofLines [(contentLengthName, ['+', '5'])]).contentLength? = some 5 ∧
      ¬(ofLines [(contentLengthName, ['+', '5'])]).Tells [] 5 := by
  have htells : (ofLines [(contentLengthName, ['+', '5'])]).Tells ['+'] 5 :=
    ⟨by decide, ['+', '5'], ['5'], by decide, by decide, by decide, by decide, by decide⟩
  exact ⟨.change (c := .addLines _) .empty (by simp [Change.sources]), by decide, fun h => h.not_plus htells⟩

end MessageHead.Headers
