/-
ISO-2022-JP: seven-bit text that switches between character sets by escape sequences.
-/
import MessageHead.Charset.Index.Jis0208

namespace MessageHead.Charset.Iso2022Jp

/-- The character set in force. -/
inductive Mode where
  /-- ASCII. -/
  | ascii
  /-- ASCII with a yen sign and an overline. -/
  | roman
  /-- Half-width katakana. -/
  | katakana
  /-- JIS X 0208, two bytes a character. -/
  | kanji
deriving DecidableEq, Repr

/-- The mode that two bytes after an escape byte switch to. -/
def Mode.ofEscape? : UInt8 → UInt8 → Option Mode
  | 0x28, 0x42 => some .ascii
  | 0x28, 0x4A => some .roman
  | 0x28, 0x49 => some .katakana
  | 0x24, 0x40 => some .kanji
  | 0x24, 0x42 => some .kanji
  | _, _ => none

/-- The escape sequence that switches to a mode. -/
def Mode.escape : Mode → Bytes
  | .ascii => [0x1B, 0x28, 0x42]
  | .roman => [0x1B, 0x28, 0x4A]
  | .katakana => [0x1B, 0x28, 0x49]
  | .kanji => [0x1B, 0x24, 0x42]

/-! ## Reading -/

/-- A byte from 21 to 7E, which the tables use. -/
def isTableByte (b : UInt8) : Bool := 0x21 ≤ b && b ≤ 0x7E

/-- What a byte is on its own; in the two-byte mode it is nothing. -/
def Mode.single : Mode → UInt8 → Char
  | .ascii, b => if b < 0x80 && b != 0x0E && b != 0x0F then Char.ofNat b.toNat else Utf8.replacement
  | .roman, b =>
    if b == 0x5C then '\u00A5'
    else if b == 0x7E then '\u203E'
    else if b < 0x80 && b != 0x0E && b != 0x0F then Char.ofNat b.toNat
    else Utf8.replacement
  | .katakana, b =>
    if 0x21 ≤ b && b ≤ 0x5F then Char.ofNat (0xFF61 + (b.toNat - 0x21)) else Utf8.replacement
  | .kanji, _ => Utf8.replacement

/-- The character of two bytes in the two-byte mode. -/
def pair (b b' : UInt8) : Char :=
  if isTableByte b' then
    (Index.jis0208.char? ((b.toNat - 0x21) * 94 + (b'.toNat - 0x21))).getD Utf8.replacement
  else Utf8.replacement

/-- Reads on in a mode; `fresh` when an escape sequence has just ended, since another one right
behind it is an error. An escape byte that begins no sequence gives one U+FFFD and leaves the
mode as it is. -/
def decodeIn (mode : Mode) (fresh : Bool) : Bytes → Text
  | [] => []
  | [b] => [if b == 0x1B then Utf8.replacement else mode.single b]
  | [b, b'] =>
    if b == 0x1B then Utf8.replacement :: decodeIn mode false [b']
    else if mode == .kanji && isTableByte b then
      if b' == 0x1B then [Utf8.replacement, Utf8.replacement] else [pair b b']
    else mode.single b :: decodeIn mode false [b']
  | b :: b' :: b'' :: rest =>
    if b == 0x1B then
      match Mode.ofEscape? b' b'' with
      | some next =>
        if fresh then Utf8.replacement :: decodeIn next true rest else decodeIn next true rest
      | none => Utf8.replacement :: decodeIn mode false (b' :: b'' :: rest)
    else if mode == .kanji && isTableByte b then
      if b' == 0x1B then Utf8.replacement :: decodeIn mode false (b' :: b'' :: rest)
      else pair b b' :: decodeIn mode false (b'' :: rest)
    else mode.single b :: decodeIn mode false (b' :: b'' :: rest)

/-- The text of `bytes`, which begin in ASCII. -/
def decode (bytes : Bytes) : Text := decodeIn .ascii false bytes

/-! ## Writing -/

/-- The full-width forms of the half-width katakana U+FF61 to U+FF9F. -/
def fullWidth : Array Char :=
  "。「」、・ヲァィゥェォャュョッーアイウエオカキクケコサシスセソタチツテトナニヌネノハヒフヘホマミムメモヤユヨラリルレロワン゛゜".toList.toArray

/-- The character written for `c`: a minus sign and half-width katakana change their width. -/
def widen (c : Char) : Char :=
  let code := c.toNat
  if c == '\u2212' then '\uFF0D'
  else if 0xFF61 ≤ code && code ≤ 0xFF9F then fullWidth.getD (code - 0xFF61) c
  else c

/-- The mode and the bytes that write a character, `mode` being in force. -/
def place? (mode : Mode) (c : Char) : Option (Mode × Bytes) :=
  let code := c.toNat
  if code == 0x0E || code == 0x0F || code == 0x1B then none
  else if code < 0x80 then
    some (if mode == .roman && c != '\\' && c != '~' then .roman else .ascii, [UInt8.ofNat code])
  else if c == '\u00A5' then some (.roman, [0x5C])
  else if c == '\u203E' then some (.roman, [0x7E])
  else (Index.jis0208.number? (widen c)).map fun n =>
    (.kanji, [UInt8.ofNat (n / 94 + 0x21), UInt8.ofNat (n % 94 + 0x21)])

/-- The bytes that switch from one mode to another. -/
def Mode.switch (mode next : Mode) : Bytes := if mode == next then [] else next.escape

/-- Writes on in a mode, a question mark for what has no bytes, and ends in ASCII. -/
def encodeIn (mode : Mode) : Text → Bytes
  | [] => mode.switch .ascii
  | c :: s =>
    match place? mode c with
    | some (next, bytes) => mode.switch next ++ bytes ++ encodeIn next s
    | none =>
      let next := if mode == .kanji then .ascii else mode
      mode.switch next ++ 0x3F :: encodeIn next s

/-- The bytes of a text. -/
def encode (s : Text) : Bytes := encodeIn .ascii s

end MessageHead.Charset.Iso2022Jp
