/-
Text as a list of characters, with the few operations every header reader shares:
comparison up to ASCII case, cutting at the first, the last or every separator, and
joining again.
-/

namespace MessageHead

/-- A piece of a message head, character by character. -/
abbrev Text := List Char

/-- What travels on the wire. -/
abbrev Bytes := List UInt8

namespace Text

/-! ## ASCII case -/

/-- `s` with the letters `A` to `Z` in lower case; no other character changes. -/
def lower (s : Text) : Text := s.map Char.toLower

/-- Two texts are the same up to the case of ASCII letters. -/
def sameFold (a b : Text) : Bool := lower a == lower b

/-! ## Cutting -/

/-- Cuts `s` at its first character satisfying `p`, which belongs to neither part. -/
def cutAt (p : Char → Bool) : Text → Option (Text × Text)
  | [] => none
  | c :: s => if p c then some ([], s) else (cutAt p s).map fun (a, b) => (c :: a, b)

/-- Cuts `s` at its first `c`. -/
def cut (c : Char) (s : Text) : Option (Text × Text) := cutAt (· == c) s

/-- The part of `s` after its last `c`. -/
def afterLast (c : Char) : Text → Option Text
  | [] => none
  | d :: s => match afterLast c s with
    | some tail => some tail
    | none => if d == c then some s else none

/-- The pieces of `s` between one `c` and the next; there is always at least one. -/
def pieces (c : Char) : Text → List Text
  | [] => [[]]
  | d :: s =>
    if d == c then [] :: pieces c s
    else match pieces c s with
      | [] => [[d]]
      | piece :: more => (d :: piece) :: more

/-- `parts` with `sep` between neighbours. -/
def join (sep : Text) : List Text → Text
  | [] => []
  | [part] => part
  | part :: parts => part ++ sep ++ join sep parts

/-- `s` without `lead` in front, when it starts so. -/
def dropLead? : Text → Text → Option Text
  | [], s => some s
  | c :: lead, d :: s => if c == d then dropLead? lead s else none
  | _ :: _, [] => none

/-- `s` without `tail` at its end, when it ends so. -/
def dropTail? (tail s : Text) : Option Text :=
  (dropLead? tail.reverse s.reverse).map List.reverse

/-- `s` ends with `tail`. -/
def endsWith (s tail : Text) : Bool := tail.isSuffixOf s

/-! ## Trimming -/

/-- `s` without the characters satisfying `p` at its end. -/
def trimEndWhere (p : Char → Bool) (s : Text) : Text := (s.reverse.dropWhile p).reverse

/-- `s` without the characters satisfying `p` at either end. -/
def trimWhere (p : Char → Bool) (s : Text) : Text := trimEndWhere p (s.dropWhile p)

/-! ## Laws -/

theorem sameFold_iff {a b : Text} : sameFold a b = true ↔ lower a = lower b := beq_iff_eq

theorem sameFold_self (s : Text) : sameFold s s = true := sameFold_iff.2 rfl

theorem sameFold_comm (a b : Text) : sameFold a b = sameFold b a := Bool.beq_comm

theorem sameFold_congr {a b : Text} (h : sameFold a b = true) (c : Text) : sameFold a c = sameFold b c := by
  unfold sameFold
  rw [sameFold_iff.1 h]

theorem pieces_ne_nil (c : Char) (s : Text) : pieces c s ≠ [] := by
  cases s with
  | nil => simp [pieces]
  | cons d s =>
    simp only [pieces]
    split
    · simp
    · split <;> simp

end Text

end MessageHead
