/-
A window of a text is read as the part of the text that it covers is read on its own.

Both readings read the same characters, so they find the same elements and stop at the same
fault. What they make of a fault differs, for the place of an unexpected character is counted
from the beginning of the text: it is the size of what lies before it. A fault keeps what is
left to read (`Fault.text`), and that is never more than there was to read.
-/
import MessageHead.Proofs.ScanAgreement

namespace MessageHead

namespace Element

/-! ## Where reading stops -/

/-- What is left to read from a fault on. -/
def Fault.text : Fault → Text
  | .unterminatedQuote opened => opened
  | .unexpected _ rest => rest

variable {s : Text} {fault : Fault}

theorem map_eq_error {ε α β : Type} {f : α → β} {r : Except ε α} {e : ε} :
    r.map f = .error e ↔ r = .error e := by
  cases r <;> simp [Except.map]

theorem Fault.suffix_of_readRaw {stop : Char → Bool} (h : readRaw stop s = .error fault) : fault.text <:+ s := by
  fun_induction readRaw stop s with
  | case1 => simp at h
  | case2 => simp at h
  | case3 c s _ _ _ =>
    obtain rfl := Except.error.inj h
    exact List.suffix_rfl
  | case4 c s _ _ quoted rest hs ih =>
    exact ((ih (map_eq_error.1 h)).trans (Quoted.skip?_suffix hs)).trans (List.suffix_cons _ _)
  | case5 c s _ _ ih => exact (ih (map_eq_error.1 h)).trans (List.suffix_cons _ _)

theorem Fault.suffix_of_readToken {stop : Char → Bool} (h : readToken stop s = .error fault) :
    fault.text <:+ s :=
  suffix_of_readRaw (map_eq_error.1 h)

theorem Fault.suffix_of_closeValue {value : Text} (h : closeValue value s = .error fault) : fault.text <:+ s := by
  have hs := List.dropWhile_suffix isSpacing (l := s)
  unfold closeValue at h
  split at h
  · simp at h
  · rename_i c rest hc
    rw [hc] at hs
    split at h
    · simp at h
    · obtain rfl := Except.error.inj h
      exact hs

theorem Fault.suffix_of_readValue (h : readValue s = .error fault) : fault.text <:+ s := by
  have hs := List.dropWhile_suffix isSpacing (l := s)
  unfold readValue at h
  split at h
  · rename_i body hb
    rw [hb] at hs
    split at h
    · obtain rfl := Except.error.inj h
      exact hs
    · rename_i value rest hq
      exact (((suffix_of_closeValue h).trans (Quoted.read?_suffix hq)).trans (List.suffix_cons _ _)).trans hs
  · exact (suffix_of_readToken h).trans hs

theorem Fault.suffix_of_readPair (h : readPair s = .error fault) : fault.text <:+ s := by
  unfold readPair at h
  split at h
  · rename_i e ht
    obtain rfl := Except.error.inj h
    exact suffix_of_readToken ht
  · rename_i name rest ht
    exact ((suffix_of_readValue (map_eq_error.1 h)).trans (List.suffix_cons _ _)).trans (readToken_suffix ht).1
  · simp at h

theorem Fault.suffix_of_readParameters (h : readParameters s = .error fault) : fault.text <:+ s := by
  fun_induction readParameters s with
  | case1 s e hp =>
    obtain rfl := Except.error.inj h
    exact (suffix_of_readPair hp).trans (List.suffix_cons _ _)
  | case2 s p rest hp ih =>
    exact ((ih (map_eq_error.1 h)).trans (readPair_suffix hp).1).trans (List.suffix_cons _ _)
  | case3 => simp at h

theorem Fault.suffix_of_readElement (h : readElement s = .error fault) : fault.text <:+ s := by
  unfold readElement at h
  split at h
  · rename_i e hp
    obtain rfl := Except.error.inj h
    exact suffix_of_readPair hp
  · rename_i head rest hp
    exact (suffix_of_readParameters (map_eq_error.1 h)).trans (readPair_suffix hp).1

/-- **A fault leaves a suffix of what was there to read.** -/
theorem Fault.suffix_of_readAll (h : readAll s = .error fault) : fault.text <:+ s := by
  fun_induction readAll s with
  | case1 => simp at h
  | case2 c s e he =>
    obtain rfl := Except.error.inj h
    exact suffix_of_readElement he
  | case3 c s e rest he ih => exact (ih (map_eq_error.1 h)).trans (readElement_suffix he)

end Element

/-! ## Windows and parts -/

namespace Window

open Utf8 (size)
open Scan (isBoundary piece?)

/-- What a window of `buffer` that begins at `lower` answers, beside what its part answers. -/
inductive Alike (buffer part : Text) (lower : Nat) :
    Except ParseError (List Element) → Except ParseError (List Element) → Prop
  | elements (es : List Element) : Alike buffer part lower (.ok es) (.ok es)
  | empty : Alike buffer part lower (.error .empty) (.error .empty)
  | unterminatedQuote (opened : Text) :
    Alike buffer part lower (.error (.unterminatedQuote opened)) (.error (.unterminatedQuote opened))
  | unexpectedCharacter (found : Char) (offset : Nat) :
    Alike buffer part lower (.error (.unexpectedCharacter buffer found (offset + lower)))
      (.error (.unexpectedCharacter part found offset))

variable {buffer part : Text} {lower upper : Nat}

/-- The window is the part, and what it has behind it is all that follows the part. -/
theorem cut?_ofBounds (h : piece? buffer lower upper = some part) :
    ∃ behind, (ofBounds lower upper).cut? buffer = some (part, behind) ∧
      size buffer - size behind = lower + size part := by
  obtain ⟨hend, hle⟩ := Scan.end_of_piece? h
  have hmin : min (ofBounds lower upper).upper (size buffer) = upper := by
    simp only [ofBounds]
    omega
  obtain ⟨behind, hcut, hsize⟩ := Scan.cut?_eq_some (w := ofBounds lower upper) (by rw [hmin]; exact h)
  exact ⟨behind, hcut, by rw [hsize, hmin, hend]⟩

theorem alike_of_piece? (h : piece? buffer lower upper = some part) :
    Alike buffer part lower (Element.parseIn buffer (ofBounds lower upper)).1 (Element.parse part) := by
  obtain ⟨behind, hcut, hsize⟩ := cut?_ofBounds h
  rw [Element.parse_eq]
  simp only [Element.parseIn, hcut]
  cases hr : Element.readAll part with
  | error fault =>
    have hle := Utf8.size_le_of_suffix (Element.Fault.suffix_of_readAll hr)
    cases fault with
    | unterminatedQuote opened => exact .unterminatedQuote opened
    | unexpected found rest =>
      have hoffset : lower + size part - size rest = size part - size [] - size rest + lower := by
        rw [Element.Fault.text] at hle
        rw [Utf8.size_nil]
        omega
      simp only [Element.Fault.toError, hsize, hoffset]
      exact .unexpectedCharacter found _
  | ok es =>
    cases es with
    | nil => exact .empty
    | cons e es => exact .elements (e :: es)

theorem Alike.ok_iff {a b : Except ParseError (List Element)} (h : Alike buffer part lower a b)
    {es : List Element} : a = .ok es ↔ b = .ok es := by
  cases h <;> simp

/-- **A window is read as the part it covers.** The elements are those of the part; a window
that holds none is empty; a quote that is not closed runs to the end of the window; an
unexpected character stands as much further on as the window begins. So the elements do not
depend on what is around the window: they are those of every window over the same part. The
scan, which takes escaped characters out of the whole buffer, answers the same. -/
theorem parse_window (hle : lower ≤ upper) (hlower : isBoundary buffer lower = true)
    (hupper : isBoundary buffer upper = true) :
    ∃ part, piece? buffer lower upper = some part ∧
      Alike buffer part lower (Element.parseIn buffer (ofBounds lower upper)).1 (Element.parse part) ∧
      (∀ other lower' upper', piece? other lower' upper' = some part → ∀ es,
        (Element.parseIn buffer (ofBounds lower upper)).1 = .ok es ↔
          (Element.parseIn other (ofBounds lower' upper')).1 = .ok es) ∧
      Scan.parseIn buffer (ofBounds lower upper) = some (Element.parseIn buffer (ofBounds lower upper)) ∧
      Scan.parse part = some (Element.parse part) := by
  obtain ⟨part, h⟩ := Scan.exists_piece?_iff.2 ⟨hle, hlower, hupper⟩
  refine ⟨part, h, alike_of_piece? h, fun other lower' upper' h' es => ?_, Scan.parseIn_eq _ _, Scan.parse_eq _⟩
  exact (alike_of_piece? h).ok_iff.trans (alike_of_piece? h').ok_iff.symm

/-- The window ends with a backslash inside quotes; the character it would hide and the quote
that would close lie behind it. -/
theorem parse_window_backslash :
    (3 ≤ 7 ∧ isBoundary ['é', ',', 'a', '=', '"', '\\', '"', '"'] 3 = true ∧
      isBoundary ['é', ',', 'a', '=', '"', '\\', '"', '"'] 7 = true) ∧
    piece? ['é', ',', 'a', '=', '"', '\\', '"', '"'] 3 7 = some ['a', '=', '"', '\\'] ∧
    Alike ['é', ',', 'a', '=', '"', '\\', '"', '"'] ['a', '=', '"', '\\'] 3
      (Element.parseIn ['é', ',', 'a', '=', '"', '\\', '"', '"'] (ofBounds 3 7)).1
      (Element.parse ['a', '=', '"', '\\']) := by
  have hpart : piece? ['é', ',', 'a', '=', '"', '\\', '"', '"'] 3 7 = some ['a', '=', '"', '\\'] := by decide
  have hlower : isBoundary ['é', ',', 'a', '=', '"', '\\', '"', '"'] 3 = true := by decide
  have hupper : isBoundary ['é', ',', 'a', '=', '"', '\\', '"', '"'] 7 = true := by decide
  obtain ⟨part, hp, halike, -⟩ := parse_window (by decide) hlower hupper
  obtain rfl := Option.some.inj (hp.symm.trans hpart)
  exact ⟨⟨by decide, hlower, hupper⟩, hpart, halike⟩

end Window

end MessageHead
