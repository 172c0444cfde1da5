/-
UTF-16: characters as sixteen-bit units, units as pairs of bytes in either order. Reading is
lossy: an unpaired surrogate and an odd last byte become U+FFFD.
-/
import MessageHead.Text.Utf8

namespace MessageHead.Utf16

/-- Which byte of a unit comes first. -/
inductive ByteOrder where
  | big
  | little
deriving DecidableEq, Repr

/-! ## Units -/

/-- The units of one character: itself, or a high and a low surrogate. -/
def unitsOf (c : Char) : List UInt16 :=
  let n := c.toNat
  if n < 0x10000 then [UInt16.ofNat n]
  else
    let m := n - 0x10000
    [UInt16.ofNat (0xD800 + m / 0x400), UInt16.ofNat (0xDC00 + m % 0x400)]

/-- The units of a text. -/
def units (s : Text) : List UInt16 := s.flatMap unitsOf

/-- `u` is the first half of a pair. -/
def isHigh (u : UInt16) : Bool := 0xD800 ≤ u && u < 0xDC00

/-- `u` is the second half of a pair. -/
def isLow (u : UInt16) : Bool := 0xDC00 ≤ u && u < 0xE000

/-- The character of a pair of surrogates. -/
def pair (hi lo : UInt16) : Char :=
  Char.ofNat (0x10000 + (hi.toNat - 0xD800) * 0x400 + (lo.toNat - 0xDC00))

/-- The text of a list of units. -/
def ofUnits : List UInt16 → Text
  | [] => []
  | [u] => [if isHigh u || isLow u then Utf8.replacement else Char.ofNat u.toNat]
  | u :: v :: rest =>
    if isHigh u then
      if isLow v then pair u v :: ofUnits rest
      else Utf8.replacement :: ofUnits (v :: rest)
    else if isLow u then Utf8.replacement :: ofUnits (v :: rest)
    else Char.ofNat u.toNat :: ofUnits (v :: rest)

/-! ## Bytes -/

/-- The two bytes of a unit. -/
def unitBytes (order : ByteOrder) (u : UInt16) : Bytes :=
  let hi := UInt8.ofNat (u.toNat / 0x100)
  let lo := UInt8.ofNat (u.toNat % 0x100)
  match order with
  | .big => [hi, lo]
  | .little => [lo, hi]

/-- The unit of two bytes. -/
def unit (order : ByteOrder) (a b : UInt8) : UInt16 :=
  match order with
  | .big => UInt16.ofNat (a.toNat * 0x100 + b.toNat)
  | .little => UInt16.ofNat (b.toNat * 0x100 + a.toNat)

/-- The units of bytes; an odd last byte counts as the unit FFFD. -/
def unitsOfBytes (order : ByteOrder) : Bytes → List UInt16
  | [] => []
  | [_] => [0xFFFD]
  | a :: b :: rest => unit order a b :: unitsOfBytes order rest

/-- The bytes of a text, without a byte order mark. -/
def encode (order : ByteOrder) (s : Text) : Bytes := (units s).flatMap (unitBytes order)

/-- The text of bytes; a byte order mark is read as the character it is. -/
def decode (order : ByteOrder) (bytes : Bytes) : Text := ofUnits (unitsOfBytes order bytes)

end MessageHead.Utf16
