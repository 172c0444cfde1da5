/-
Splitting a text outside quotes and joining its segments undo one another.

A segment is a text that splits into itself alone. What these texts are is said without
splitting: their quotes close, and outside the quotes they have no delimiter (`Quoted.Whole`).
So a segment that is split again, away from the text it was found in, is still one segment, and
segments that are joined in any number and order are found again.
-/
import MessageHead.Proofs.QuotedReaders
import MessageHead.Proofs.ScanAgreement

namespace MessageHead.Quoted

variable {d : Char} {g s : Text}

/-- **The segments**: the texts that split into themselves. -/
theorem split?_eq_self_iff (hd : d ≠ '"') : split? d g = .ok [g] ↔ Whole (· == d) g := by
  constructor
  · intro h
    exact (join_of_split? hd h).2 g (List.mem_singleton_self g)
  · exact split?_whole

theorem split?_eq_ok_iff_segments (hd : d ≠ '"') {gs : List Text} :
    split? d s = .ok gs ↔ gs ≠ [] ∧ Text.join [d] gs = s ∧ ∀ g ∈ gs, split? d g = .ok [g] := by
  rw [split?_eq_ok_iff hd]
  simp only [split?_eq_self_iff hd]

theorem run_split_of_ascii (hascii : d.toNat < 0x80) (s : Text) :
    (Scan.split s (UInt8.ofNat d.toNat)).run = some (split? d s) := by
  have hbyte : (UInt8.ofNat d.toNat).toNat = d.toNat := Utf8.toNat_ofNat (by omega)
  have h := Scan.split_eq (d := UInt8.ofNat d.toNat) (by rwa [hbyte]) s
  rwa [hbyte, Char.ofNat_toNat] at h

/-- **Splitting is undone by joining, and joining by splitting.** The segments of a text are
joined to the text and split into themselves, and they are the only list with these two
properties; so every list of such segments, if it is not empty, is found again in what it is
joined to. A segment has no delimiter outside quotes and all its quotes close. The scan, which
looks for the delimiter byte by byte, finds the same segments. -/
theorem split_join_inverse (hd : d ≠ '"') :
    (∀ s gs, split? d s = .ok gs → Text.join [d] gs = s ∧ ∀ g ∈ gs, split? d g = .ok [g]) ∧
    (∀ gs, gs ≠ [] → (∀ g ∈ gs, split? d g = .ok [g]) → split? d (Text.join [d] gs) = .ok gs) ∧
    (∀ s gs hs, split? d s = .ok gs → hs ≠ [] → Text.join [d] hs = s → (∀ h ∈ hs, split? d h = .ok [h]) →
      hs = gs) ∧
    (∀ g, split? d g = .ok [g] ↔ Whole (· == d) g) ∧
    (d.toNat < 0x80 → ∀ s, (Scan.split s (UInt8.ofNat d.toNat)).run = some (split? d s)) := by
  refine ⟨fun s gs h => ((split?_eq_ok_iff_segments hd).1 h).2, fun gs hne hgs => ?_,
    fun s gs hs h hne hj hhs => ?_, fun g => split?_eq_self_iff hd, fun hascii => run_split_of_ascii hascii⟩
  · exact (split?_eq_ok_iff_segments hd).2 ⟨hne, rfl, hgs⟩
  · have hsplit := (split?_eq_ok_iff_segments hd).2 ⟨hne, hj, hhs⟩
    exact Except.ok.inj (hsplit.symm.trans h)

/-- A backslash outside quotes, an empty segment, and an escaped quote in front of a delimiter
inside quotes. -/
theorem split_join_inverse_quoted :
    (';' ≠ '"' ∧ ∀ g ∈ [['\\', 'é'], [], ['"', '\\', '"', ';', '"']], Whole (· == ';') g) ∧
    split? ';' (Text.join [';'] [['\\', 'é'], [], ['"', '\\', '"', ';', '"']]) =
      .ok [['\\', 'é'], [], ['"', '\\', '"', ';', '"']] ∧
    (Scan.split (Text.join [';'] [['\\', 'é'], [], ['"', '\\', '"', ';', '"']]) (UInt8.ofNat ';'.toNat)).run =
      some (.ok [['\\', 'é'], [], ['"', '\\', '"', ';', '"']]) := by
  obtain ⟨-, hjoined, -, hsegment, hscan⟩ := split_join_inverse (d := ';') (by decide)
  have hwhole : ∀ g ∈ [['\\', 'é'], [], ['"', '\\', '"', ';', '"']], Whole (· == ';') g := by decide
  have hsplit := hjoined _ (by simp) fun g hg => (hsegment g).2 (hwhole g hg)
  exact ⟨⟨by decide, hwhole⟩, hsplit, by rw [hscan (by decide), hsplit]⟩

end MessageHead.Quoted
