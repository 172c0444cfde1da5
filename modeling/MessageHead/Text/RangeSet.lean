/-
Sets of characters as ranges of code points in ascending order, none of which touches the next.
The tables of character properties are written as lines of the form `A-B C D-E` with
hexadecimal code points, and read into such sets.
-/
import MessageHead.Text.CodePoint

namespace MessageHead

/-- A set of code points as a list of closed ranges. -/
structure RangeSet where
  ranges : List (Nat × Nat)
deriving DecidableEq, Repr

namespace RangeSet

/-! ## Members -/

/-- `n` lies in one of the ranges. They ascend, so the search ends at the first one above `n`. -/
def covers (n : Nat) : List (Nat × Nat) → Bool
  | [] => false
  | (lo, hi) :: more => if n < lo then false else n ≤ hi || covers n more

/-- `c` belongs to the set. -/
def contains (s : RangeSet) (c : Char) : Bool := covers c.toNat s.ranges

/-- The set has no members beyond ASCII. -/
def isAscii (s : RangeSet) : Bool := s.ranges.all fun r => r.2 < 0x80

/-- The one member of a set that has no other. -/
def only? (s : RangeSet) : Option Char :=
  match s.ranges with
  | [(lo, hi)] => if lo == hi then charOf? lo else none
  | _ => none

/-! ## Code points in order -/

/-- The last code point. -/
def lastCode : Nat := 0x10FFFF

/-- The code point behind `n`. The numbers from D800 to DFFF are no characters. -/
def nextCode (n : Nat) : Nat := if n == 0xD7FF then 0xE000 else n + 1

/-- The code point in front of `n`. -/
def prevCode (n : Nat) : Nat := if n == 0xE000 then 0xD7FF else n - 1

/-! ## Building sets -/

/-- No character. -/
def empty : RangeSet := ⟨[]⟩

/-- Every character. -/
def all : RangeSet := ⟨[(0, lastCode)]⟩

/-- The characters from one to another. -/
def between (lo hi : Char) : RangeSet := ⟨[(lo.toNat, hi.toNat)]⟩

/-- One character. -/
def single (c : Char) : RangeSet := between c c

/-- Puts a range in front of ranges that begin no lower, and joins it with those it touches. -/
def absorb (r : Nat × Nat) : List (Nat × Nat) → List (Nat × Nat)
  | [] => [r]
  | s :: more => if r.2 + 1 < s.1 then r :: s :: more else absorb (r.1, max r.2 s.2) more

/-- Puts a range in its place, and joins it with those it touches. -/
def place (r : Nat × Nat) : List (Nat × Nat) → List (Nat × Nat)
  | [] => [r]
  | s :: more =>
    if s.2 + 1 < r.1 then s :: place r more
    else if r.2 + 1 < s.1 then r :: s :: more
    else absorb (min r.1 s.1, max r.2 s.2) more

/-- The characters of a short list. -/
def ofList (cs : List Char) : RangeSet := ⟨cs.foldr (fun c => place (c.toNat, c.toNat)) []⟩

/-- The characters of any ranges in any order. -/
def ofRanges (rs : List (Nat × Nat)) : RangeSet :=
  ⟨(rs.mergeSort fun r s => r.1 ≤ s.1).foldr absorb []⟩

/-! ## Sets from sets -/

/-- The characters of either set. -/
def union (a b : RangeSet) : RangeSet :=
  ⟨(a.ranges.merge b.ranges fun r s => r.1 ≤ s.1).foldr absorb []⟩

/-- The characters of any of several sets. -/
def unions (sets : List RangeSet) : RangeSet := .ofRanges (sets.flatMap ranges)

/-- What two lists of ranges have in common. -/
def common : List (Nat × Nat) → List (Nat × Nat) → List (Nat × Nat)
  | [], _ => []
  | (lo, hi) :: more, others =>
    let others := others.dropWhile fun r => r.2 < lo
    (others.takeWhile fun r => r.1 ≤ hi).map (fun r => (max lo r.1, min hi r.2)) ++
      common more others

/-- The characters of both sets. -/
def inter (a b : RangeSet) : RangeSet := ⟨common a.ranges b.ranges⟩

/-- What other ranges leave of the range from `lo` to `hi`; none of them ends below `lo`. -/
def left (lo hi : Nat) : List (Nat × Nat) → List (Nat × Nat)
  | [] => [(lo, hi)]
  | (lo', hi') :: more =>
    if hi < lo' then [(lo, hi)]
    else
      (if lo < lo' then [(lo, prevCode lo')] else []) ++
        (if hi' < hi then left (nextCode hi') hi more else [])

/-- What a list of ranges has and another lacks. -/
def beyond : List (Nat × Nat) → List (Nat × Nat) → List (Nat × Nat)
  | [], _ => []
  | (lo, hi) :: more, others =>
    let others := others.dropWhile fun r => r.2 < lo
    left lo hi others ++ beyond more others

/-- The characters of the first set that the second lacks. -/
def diff (a b : RangeSet) : RangeSet := ⟨beyond a.ranges b.ranges⟩

/-- The characters of exactly one of two sets. -/
def symmDiff (a b : RangeSet) : RangeSet := (a.union b).diff (a.inter b)

/-- What lies behind `hi` and between the ranges that follow. Where two ranges are neighbours
because only code points of no character are between them, these make the gap, together with
the character on either side. -/
def gaps (hi : Nat) : List (Nat × Nat) → List (Nat × Nat)
  | [] => if hi < lastCode then [(nextCode hi, lastCode)] else []
  | (lo', hi') :: more =>
    (min (nextCode hi) (prevCode lo'), max (nextCode hi) (prevCode lo')) :: gaps hi' more

/-- The characters that the set lacks. -/
def compl (s : RangeSet) : RangeSet :=
  match s.ranges with
  | [] => all
  | (lo, hi) :: more => ⟨(if 0 < lo then [(0, prevCode lo)] else []) ++ gaps hi more⟩

instance : Union RangeSet := ⟨union⟩

instance : Inter RangeSet := ⟨inter⟩

instance : SDiff RangeSet := ⟨diff⟩

/-! ## Tables -/

/-- Reads a line of a table: code points and ranges of them, one blank between two. The low end
of an open range and the value of the digits so far are given. -/
def readLine (low : Option Nat) (value : Nat) : Text → List (Nat × Nat)
  | [] => [(low.getD value, value)]
  | c :: s =>
    if c == '-' then readLine (some value) 0 s
    else if c == ' ' then (low.getD value, value) :: readLine none 0 s
    else readLine low (value * 16 + (hexDigit? c).getD 0) s

/-- Reads a table from its lines. -/
def read (lines : List String) : RangeSet :=
  ⟨lines.flatMap fun line => readLine none 0 line.toList⟩

end RangeSet

end MessageHead
