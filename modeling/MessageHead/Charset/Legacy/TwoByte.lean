/-
Charsets of one or two bytes a character: Shift_JIS, EUC-KR and Big5. They differ in the bytes
that stand alone, in the bytes that lead a pair and in the table of pairs.
-/
import MessageHead.Charset.Index.Big5
import MessageHead.Charset.Index.EucKr
import MessageHead.Charset.Index.Jis0208

namespace MessageHead.Charset

/-- A charset of one or two bytes a character. -/
structure TwoByte where
  /-- The character a byte is on its own. -/
  single? : UInt8 → Option Char
  /-- The byte is the first of two. -/
  isLead : UInt8 → Bool
  /-- The text of two bytes. -/
  pair? : UInt8 → UInt8 → Option Text
  /-- The bytes of a character. -/
  encodeChar? : Char → Option Bytes

namespace TwoByte

/-- The text of `bytes`. A pair that stands for nothing gives one U+FFFD and takes its second
byte along, unless that is an ASCII character, which is then read on its own. -/
def decode (t : TwoByte) : Bytes → Text
  | [] => []
  | [b] => [(t.single? b).getD Utf8.replacement]
  | b :: b' :: rest =>
    match t.single? b with
    | some c => c :: t.decode (b' :: rest)
    | none =>
      if t.isLead b then
        match t.pair? b b' with
        | some s => s ++ t.decode rest
        | none =>
          if b' < 0x80 then Utf8.replacement :: t.decode (b' :: rest)
          else Utf8.replacement :: t.decode rest
      else Utf8.replacement :: t.decode (b' :: rest)

/-- An ASCII byte as a character. -/
def ascii? (b : UInt8) : Option Char := if b < 0x80 then some (Char.ofNat b.toNat) else none

/-- The byte lies between the two. -/
def within (lo hi b : UInt8) : Bool := lo ≤ b && b ≤ hi

/-- The single byte of an ASCII character. -/
def asciiByte? (c : Char) : Option Bytes :=
  if c.toNat < 0x80 then some [UInt8.ofNat c.toNat] else none

/-! ## EUC-KR -/

/-- The number of a pair of EUC-KR. -/
def eucKrNumber? (b b' : UInt8) : Option Nat :=
  if within 0x41 0xFE b' then some ((b.toNat - 0x81) * 190 + (b'.toNat - 0x41)) else none

/-- EUC-KR with its extension. -/
def eucKr : TwoByte where
  single? := ascii?
  isLead := within 0x81 0xFE
  pair? b b' := (eucKrNumber? b b').bind fun n => (Index.eucKr.char? n).map ([·])
  encodeChar? c := (asciiByte? c).or <| (Index.eucKr.number? c).map fun n =>
    [UInt8.ofNat (n / 190 + 0x81), UInt8.ofNat (n % 190 + 0x41)]

/-! ## Big5 -/

/-- The number of a pair of Big5. -/
def big5Number? (b b' : UInt8) : Option Nat :=
  if within 0x40 0x7E b' then some ((b.toNat - 0x81) * 157 + (b'.toNat - 0x40))
  else if within 0xA1 0xFE b' then some ((b.toNat - 0x81) * 157 + (b'.toNat - 0x62))
  else none

/-- The pairs that stand for a letter and a combining mark. -/
def big5Composed? : Nat → Option Text
  | 1133 => some ['\u00CA', '\u0304']
  | 1135 => some ['\u00CA', '\u030C']
  | 1164 => some ['\u00EA', '\u0304']
  | 1166 => some ['\u00EA', '\u030C']
  | _ => none

/-- The numbers Big5 is written with: those of the Hong Kong supplement in front of the
standard ones only read, and six box-drawing characters and numerals are written as their
later copies. -/
def isBig5Number (n : Nat) : Bool :=
  5024 ≤ n && !([5247, 5248, 5249, 5250, 5287, 5289].contains n)

/-- Big5 as it is written. -/
def big5Written : Index := Index.big5.restrict isBig5Number

/-- Big5 with the Hong Kong supplementary set. -/
def big5 : TwoByte where
  single? := ascii?
  isLead := within 0x81 0xFE
  pair? b b' := (big5Number? b b').bind fun n =>
    (big5Composed? n).or ((Index.big5.char? n).map ([·]))
  encodeChar? c := (asciiByte? c).or <| (big5Written.number? c).map fun n =>
    let trail := n % 157
    [UInt8.ofNat (n / 157 + 0x81), UInt8.ofNat (if trail < 63 then trail + 0x40 else trail + 0x62)]

/-! ## Shift_JIS -/

/-- The number of a pair of Shift_JIS. -/
def shiftJisNumber? (b b' : UInt8) : Option Nat :=
  let lead := if b < 0xA0 then b.toNat - 0x81 else b.toNat - 0xC1
  if within 0x40 0x7E b' then some (lead * 188 + (b'.toNat - 0x40))
  else if within 0x80 0xFC b' then some (lead * 188 + (b'.toNat - 0x41))
  else none

/-- The character of a number: the numbers 8836 to 10715 are private-use characters. -/
def shiftJisChar? (n : Nat) : Option Char :=
  if 8836 ≤ n && n ≤ 10715 then some (Char.ofNat (0xE000 + (n - 8836))) else Index.jis0208.char? n

/-- JIS X 0208 as Shift_JIS writes it, without the vendor rows that occur twice. -/
def shiftJisWritten : Index := Index.jis0208.restrict fun n => n < 8272 || 8835 < n

/-- The number to write a character with. A minus sign is written in full width. -/
def shiftJisNumberOf? (c : Char) : Option Nat :=
  shiftJisWritten.number? (if c == '\u2212' then '\uFF0D' else c)

/-- Shift_JIS. Half-width katakana and the byte 80 stand alone. -/
def shiftJis : TwoByte where
  single? b :=
    if b ≤ 0x80 then some (Char.ofNat b.toNat)
    else if within 0xA1 0xDF b then some (Char.ofNat (0xFF61 + (b.toNat - 0xA1)))
    else none
  isLead b := within 0x81 0x9F b || within 0xE0 0xFC b
  pair? b b' := (shiftJisNumber? b b').bind fun n => (shiftJisChar? n).map ([·])
  encodeChar? c :=
    let code := c.toNat
    if code ≤ 0x80 then some [UInt8.ofNat code]
    else if c == '\u00A5' then some [0x5C]
    else if c == '\u203E' then some [0x7E]
    else if 0xFF61 ≤ code && code ≤ 0xFF9F then some [UInt8.ofNat (code - 0xFF61 + 0xA1)]
    else (shiftJisNumberOf? c).map fun n =>
      let lead := n / 188
      let trail := n % 188
      [UInt8.ofNat (if lead < 0x1F then lead + 0x81 else lead + 0xC1),
        UInt8.ofNat (if trail < 0x3F then trail + 0x40 else trail + 0x41)]

end TwoByte

end MessageHead.Charset
