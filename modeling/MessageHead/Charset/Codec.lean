/-
Texts as bytes of a charset and back. Writing puts a question mark for every character the
charset lacks; reading puts U+FFFD for what it cannot read. `canEncode` says beforehand
whether writing loses anything.
-/
import MessageHead.Charset.Basic
import MessageHead.Text.Utf16

namespace MessageHead.Charset

/-- The byte that stands for a character the charset lacks. -/
def questionMark : UInt8 := 0x3F

/-! ## Legacy charsets -/

namespace Legacy

/-- How the charset writes one character, where characters are written each on its own. -/
def writer : Legacy → Char → Option Bytes
  | .singleByte table => SingleByte.encodeChar? table.upperChars
  | .gbk => Gb18030.encodeGbkChar?
  | .gb18030 => Gb18030.encodeChar?
  | .big5 => TwoByte.big5.encodeChar?
  | .eucJp => EucJp.encodeChar?
  | .iso2022Jp => fun c => (Iso2022Jp.place? .ascii c).map Prod.snd
  | .shiftJis => TwoByte.shiftJis.encodeChar?
  | .eucKr => TwoByte.eucKr.encodeChar?

/-- The bytes of a text. -/
def encode (l : Legacy) (s : Text) : Bytes :=
  match l with
  | .iso2022Jp => Iso2022Jp.encode s
  | l =>
    let write := l.writer
    s.flatMap fun c => (write c).getD [questionMark]

/-- The text of bytes. -/
def decode : Legacy → Bytes → Text
  | .singleByte table => table.decode
  | .gbk => Gb18030.decode
  | .gb18030 => Gb18030.decode
  | .big5 => TwoByte.big5.decode
  | .eucJp => EucJp.decode
  | .iso2022Jp => Iso2022Jp.decode
  | .shiftJis => TwoByte.shiftJis.decode
  | .eucKr => TwoByte.eucKr.decode

/-- Every character of the text can be written. -/
def canEncode (l : Legacy) (s : Text) : Bool :=
  let write := l.writer
  s.all fun c => (write c).isSome

end Legacy

/-! ## All charsets -/

/-- The bytes of a text. UTF-16 writes a byte order mark and then the higher byte first. -/
def encode : Charset → Text → Bytes
  | .usAscii, s => s.map fun c => if c.toNat < 0x80 then UInt8.ofNat c.toNat else questionMark
  | .iso8859_1, s => s.map fun c => if c.toNat < 0x100 then UInt8.ofNat c.toNat else questionMark
  | .utf8, s => Utf8.encode s
  | .utf16, s => 0xFE :: 0xFF :: Utf16.encode .big s
  | .utf16BE, s => Utf16.encode .big s
  | .utf16LE, s => Utf16.encode .little s
  | .legacy l, s => l.encode s

/-- The text of bytes. UTF-16 follows a byte order mark and takes the higher byte first without
one. -/
def decode : Charset → Bytes → Text
  | .usAscii, bytes => bytes.map fun b => if b < 0x80 then Char.ofNat b.toNat else Utf8.replacement
  | .iso8859_1, bytes => bytes.map fun b => Char.ofNat b.toNat
  | .utf8, bytes => Utf8.decode bytes
  | .utf16, 0xFF :: 0xFE :: bytes => Utf16.decode .little bytes
  | .utf16, 0xFE :: 0xFF :: bytes => Utf16.decode .big bytes
  | .utf16, bytes => Utf16.decode .big bytes
  | .utf16BE, bytes => Utf16.decode .big bytes
  | .utf16LE, bytes => Utf16.decode .little bytes
  | .legacy l, bytes => l.decode bytes

/-- The charset has every character of the text. -/
def canEncode : Charset → Text → Bool
  | .usAscii, s => s.all fun c => c.toNat < 0x80
  | .iso8859_1, s => s.all fun c => c.toNat < 0x100
  | .legacy l, s => l.canEncode s
  | _, _ => true

end MessageHead.Charset
