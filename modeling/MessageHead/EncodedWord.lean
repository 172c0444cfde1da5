/-
Encoded words: `=?charset?Q?payload?=`, a text as printable ASCII. A blank is written as an
underscore, and every byte that is not a printable character, or could be misread, as an
equals sign and two hexadecimal digits.
-/
import MessageHead.Charset.Codec
import MessageHead.Charset.Label
import MessageHead.Text.Number
import MessageHead.Text.CodePoint

namespace MessageHead.EncodedWord

/-! ## Writing -/

/-- One byte of the payload. -/
def encodeByte (b : UInt8) : Text :=
  if b == 0x20 then ['_']
  else if b == 0x3D || b == 0x3F || b == 0x5F then '=' :: Number.byteHex b
  else if 0x21 ≤ b && b ≤ 0x7E then [Char.ofNat b.toNat]
  else '=' :: Number.byteHex b

/-- A text as an encoded word. -/
def encode (charset : Charset) (s : Text) : Text :=
  '=' :: '?' :: charset.name ++ ['?', 'Q', '?'] ++ (charset.encode s).flatMap encodeByte ++
    ['?', '=']

/-! ## Reading -/

/-- The byte of two characters: two hexadecimal digits, or a plus sign and one. -/
def hexByte? (a b : Char) : Option UInt8 :=
  match hexDigit? b with
  | none => none
  | some low =>
    if a == '+' then some (UInt8.ofNat low)
    else (hexDigit? a).map fun high => UInt8.ofNat (high * 16 + low)

/-- The bytes of a payload, unless one of its equals signs begins no byte. -/
def payload? : Text → Option Bytes
  | [] => some []
  | '_' :: s => (payload? s).map (0x20 :: ·)
  | '=' :: a :: b :: s =>
    match hexByte? a b with
    | none => none
    | some byte => (payload? s).map (byte :: ·)
  | c :: s => if c == '=' then none else (payload? s).map (Utf8.encodeChar c ++ ·)

/-- Charset, encoding and payload of an encoded word. -/
def fields? (s : Text) : Option (Text × Text × Text) := do
  let inside ← Text.dropTail? ['?', '='] (← Text.dropLead? ['=', '?'] s)
  let (charset, rest) ← Text.cut '?' inside
  let (encoding, payload) ← Text.cut '?' rest
  return (charset, encoding, payload)

/-- The text of an encoded word; any other text stands for itself. -/
def decode (s : Text) : Except Error Text :=
  match fields? s with
  | none => .ok s
  | some (name, encoding, payload) =>
    if !Text.sameFold encoding ['q'] then .error (.parse (.invalidEncodedValue s))
    else match Charset.ofName name with
      | .error e => .error (.charset e)
      | .ok charset =>
        match payload? payload with
        | none => .error (.parse (.invalidEncodedValue s))
        | some bytes => .ok (charset.decode bytes)

end MessageHead.EncodedWord
