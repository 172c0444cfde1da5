/-
EUC-JP: ASCII, half-width katakana after the byte 8E, JIS X 0208 in two bytes and JIS X 0212,
which is only read, in two bytes after the byte 8F.
-/
import MessageHead.Charset.Index.Jis0208
import MessageHead.Charset.Index.Jis0212

namespace MessageHead.Charset.EucJp

/-- A byte of the two-byte tables. -/
def isTableByte (b : UInt8) : Bool := 0xA1 ≤ b && b ≤ 0xFE

/-- The number of two bytes in a table. -/
def number (b b' : UInt8) : Nat := (b.toNat - 0xA1) * 94 + (b'.toNat - 0xA1)

/-- The character of two bytes. -/
def pair? (b b' : UInt8) : Option Char :=
  if b == 0x8E && 0xA1 ≤ b' && b' ≤ 0xDF then some (Char.ofNat (0xFF61 + (b'.toNat - 0xA1)))
  else if isTableByte b && isTableByte b' then Index.jis0208.char? (number b b')
  else none

/-- The character of two bytes after 8F. -/
def triple? (b b' : UInt8) : Option Char :=
  if isTableByte b && isTableByte b' then Index.jis0212.char? (number b b') else none

/-- The text of `bytes`. What stands for nothing gives one U+FFFD; an ASCII character is never
taken along. -/
def decode : Bytes → Text
  | [] => []
  | [b] => [if b < 0x80 then Char.ofNat b.toNat else Utf8.replacement]
  | b :: b' :: rest =>
    if b < 0x80 then Char.ofNat b.toNat :: decode (b' :: rest)
    else if b == 0x8F && isTableByte b' then
      match rest with
      | [] => [Utf8.replacement]
      | b'' :: rest =>
        match triple? b' b'' with
        | some c => c :: decode rest
        | none =>
          if b'' < 0x80 then Utf8.replacement :: decode (b'' :: rest)
          else Utf8.replacement :: decode rest
    else if b == 0x8E || b == 0x8F || isTableByte b then
      match pair? b b' with
      | some c => c :: decode rest
      | none =>
        if b' < 0x80 then Utf8.replacement :: decode (b' :: rest)
        else Utf8.replacement :: decode rest
    else Utf8.replacement :: decode (b' :: rest)

/-- The bytes of a character. -/
def encodeChar? (c : Char) : Option Bytes :=
  let code := c.toNat
  if code < 0x80 then some [UInt8.ofNat code]
  else if c == '\u00A5' then some [0x5C]
  else if c == '\u203E' then some [0x7E]
  else if 0xFF61 ≤ code && code ≤ 0xFF9F then some [0x8E, UInt8.ofNat (code - 0xFF61 + 0xA1)]
  else (Index.jis0208.number? (if c == '\u2212' then '\uFF0D' else c)).map fun n =>
    [UInt8.ofNat (n / 94 + 0xA1), UInt8.ofNat (n % 94 + 0xA1)]

end MessageHead.Charset.EucJp
