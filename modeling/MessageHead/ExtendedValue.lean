/-
Extended parameter values: `charset'language'text`, where every byte of the text that is not a
plain character is written as a percent sign and two hexadecimal digits.
-/
import MessageHead.Charset.Codec
import MessageHead.Charset.Label
import MessageHead.Text.Number
import MessageHead.Text.CodePoint

namespace MessageHead.ExtendedValue

/-! ## Writing -/

/-- The marks that are written as they are. -/
def plainMarks : Text := ['!', '#', '$', '&', '+', '-', '.', '^', '_', '\x60', '|', '~']

/-- The character is written as it is. -/
def isPlain (c : Char) : Bool := c.isAlphanum || plainMarks.contains c

/-- One byte as it is written. -/
def encodeByte (b : UInt8) : Text :=
  let c := Char.ofNat b.toNat
  if b < 0x80 && isPlain c then [c] else '%' :: Number.byteHex b

/-- A text as an extended value without a language. Only UTF-8 and ISO-8859-1 are written, and
US-ASCII needs no extended form. -/
def encode (charset : Charset) (s : Text) : Except PreconditionError Text :=
  match charset with
  | .utf8 | .iso8859_1 =>
    .ok (charset.name ++ '\'' :: '\'' :: (charset.encode s).flatMap encodeByte)
  | .usAscii => .error (.encodingNotRequired charset.name)
  | _ => .error (.unsupportedCharset charset.name)

/-! ## Reading -/

/-- The bytes of a text in which a percent sign and two hexadecimal digits stand for a byte. -/
def percentDecode : Text → Bytes
  | [] => []
  | '%' :: a :: b :: s =>
    match hexDigit? a, hexDigit? b with
    | some high, some low => UInt8.ofNat (high * 16 + low) :: percentDecode s
    | _, _ => 0x25 :: percentDecode (a :: b :: s)
  | c :: s => Utf8.encodeChar c ++ percentDecode s

/-- Charset, language and text of an extended value. -/
def fields? (s : Text) : Option (Text × Text × Text) := do
  let (charset, rest) ← Text.cut '\'' s
  let (language, text) ← Text.cut '\'' rest
  return (charset, language, text)

/-- The charset and the text of an extended value. -/
def read (s : Text) : Except Error (Charset × Text) :=
  match fields? s with
  | none => .error (.parse (.invalidEncodedValue s))
  | some (name, _, text) =>
    if name.isEmpty then .error (.precondition (.emptyArgument "charset".toList))
    else match Charset.ofName name with
      | .error e => .error (.charset e)
      | .ok charset => .ok (charset, charset.decode (percentDecode text))

/-- The text of an extended value. -/
def decode (s : Text) : Except Error Text := (read s).map Prod.snd

end MessageHead.ExtendedValue
