/-
Ranges of characters as sequences of ranges of bytes: a range of code points is cut until the
UTF-8 forms of each piece are all the sequences with a first byte from one range, a second byte
from another, and so on.
-/
import MessageHead.Text.CodePoint
import MessageHead.Text.Utf8

namespace MessageHead.Pattern

/-- A range of bytes. -/
abbrev ByteRange := UInt8 × UInt8

namespace ByteRange

/-- Where a range of code points is cut so that the lower bits of its ends are all zeros and all
ones above `block`, when it runs over several blocks of that size. -/
def blockCuts (lo hi block : Nat) : List Nat :=
  if lo / block == hi / block then []
  else
    (if lo % block == 0 then [] else [(lo / block + 1) * block]) ++
      (if hi % block == block - 1 then [] else [hi / block * block])

/-- The places where a range of code points can be cut, the most important first: where the
forms get longer by a byte, and then at the blocks whose last one, two or three bytes go through
all values. -/
def cuts (lo hi : Nat) : List Nat :=
  [0x80, 0x800, 0x10000] ++
    if hi < 0x80 then []
    else blockCuts lo hi 0x40 ++ blockCuts lo hi 0x1000 ++ blockCuts lo hi 0x40000

/-- The first place where a range is cut, if it is. -/
def cut? (lo hi : Nat) : Option Nat := (cuts lo hi).find? fun k => lo < k && k ≤ hi

/-- The UTF-8 form of a code point. -/
def bytes (n : Nat) : Bytes := (charOf? n).elim [] Utf8.encodeChar

/-- Cuts a range of code points, and writes each piece as a sequence. -/
def sequencesFrom (lo hi : Nat) : List (List ByteRange) :=
  match h : cut? lo hi with
  | none => [(bytes lo).zip (bytes hi)]
  | some k =>
    have : lo < k ∧ k ≤ hi := by
      simpa using List.find?_some h
    sequencesFrom lo (k - 1) ++ sequencesFrom k hi
termination_by hi - lo

/-- The sequences for a range of characters. The code points between D7FF and E000 are no
characters and have no form. -/
def sequences (range : Nat × Nat) : List (List ByteRange) :=
  if range.1 < 0xE000 && 0xD7FF < range.2 then
    sequencesFrom range.1 0xD7FF ++ sequencesFrom 0xE000 range.2
  else sequencesFrom range.1 range.2

end ByteRange

end MessageHead.Pattern
