/-
Numbered character tables: the charsets of East Asia compute a number from two or three bytes
and look the character up.
-/
import Std.Data.HashMap
import MessageHead.Text.Utf8

namespace MessageHead.Charset

/-- A numbered table of characters. -/
structure Index where
  /-- The characters by number, U+FFFD where there is none. -/
  chars : Array Char
  /-- The first number of each character, by its code point. -/
  numbers : Std.HashMap Nat Nat

namespace Index

/-- Places the characters of one row, which begins at the number `start`. -/
def placeRow (chars : Array Char) : Nat → Text → Array Char
  | _, [] => chars
  | start, c :: row => placeRow (chars.setIfInBounds start c) (start + 1) row

/-- Places a run of `count` characters that follow each other in code point order too. -/
def placeRun (chars : Array Char) : Nat → Nat → Nat → Array Char
  | _, 0, _ => chars
  | start, count + 1, code =>
    placeRun (chars.setIfInBounds start (Char.ofNat code)) (start + 1) count (code + 1)

/-- More numbers than any of the tables uses. -/
def capacity : Nat := 24066

/-- The number of each code point, the first one where it has several; numbers refused by
`keep` do not count. -/
def numbering (keep : Nat → Bool) (chars : Array Char) : Std.HashMap Nat Nat :=
  (chars.foldl (fun (p : Nat × Std.HashMap Nat Nat) c =>
    (p.1 + 1, if c != Utf8.replacement && keep p.1 then p.2.insertIfNew c.toNat p.1 else p.2))
    (0, ∅)).2

/-- The table made of rows of characters and of runs. -/
def ofRows (rows : List (Nat × String)) (runs : List (Nat × Nat × Nat)) : Index :=
  let empty := Array.replicate capacity Utf8.replacement
  let chars := rows.foldl (fun t row => placeRow t row.1 row.2.toList) empty
  let chars := runs.foldl (fun t run => placeRun t run.1 run.2.1 run.2.2) chars
  ⟨chars, numbering (fun _ => true) chars⟩

/-- The table with the numbers that `keep` accepts as the only ones to write with. -/
def restrict (t : Index) (keep : Nat → Bool) : Index := { t with numbers := numbering keep t.chars }

/-- The character with that number. -/
def char? (t : Index) (n : Nat) : Option Char := t.chars[n]?.filter (· != Utf8.replacement)

/-- The number to write a character with. -/
def number? (t : Index) (c : Char) : Option Nat := t.numbers[c.toNat]?

end Index

end MessageHead.Charset
