/-
Blank characters: the Unicode property White_Space. Header readers trim names, values and
segments by it, so a no-break space at the edge of a name is dropped like an ordinary one.
-/
import MessageHead.Text.Basic

namespace MessageHead

/-- The property White_Space, all twenty-five characters of it. -/
def isBlank (c : Char) : Bool :=
  let n := c.toNat
  (0x9 ≤ n && n ≤ 0xD) || n == 0x20 || n == 0x85 || n == 0xA0 || n == 0x1680 ||
  (0x2000 ≤ n && n ≤ 0x200A) || n == 0x2028 || n == 0x2029 || n == 0x202F || n == 0x205F ||
  n == 0x3000

namespace Text

/-- `s` without blank characters in front. -/
def trimStart (s : Text) : Text := s.dropWhile isBlank

/-- `s` without blank characters at either end. -/
def trim (s : Text) : Text := trimWhere isBlank s

end Text

end MessageHead
