/-
Whole numbers in headers: decimal digits with an optional sign, accepted only within the
bounds of the field that holds them.
-/
import MessageHead.Text.Basic

namespace MessageHead.Number

/-- The value of a list of decimal digits, read onto `acc`. -/
def readDigits : Nat → Text → Option Nat
  | acc, [] => some acc
  | acc, c :: s => if c.isDigit then readDigits (acc * 10 + (c.toNat - 0x30)) s else none

/-- The value of a text of one or more decimal digits and nothing else. -/
def digits? : Text → Option Nat
  | [] => none
  | s => readDigits 0 s

/-- A number from 0 to `max`, which may carry a plus sign. -/
def unsigned? (max : Nat) (s : Text) : Option Nat :=
  let body := match s with
    | '+' :: rest => rest
    | _ => s
  (digits? body).filter (· ≤ max)

/-- A number from `min` to `max`, which may carry a plus or a minus sign. -/
def signed? (min max : Int) (s : Text) : Option Int :=
  let value : Option Int := match s with
    | '+' :: rest => (digits? rest).map Int.ofNat
    | '-' :: rest => (digits? rest).map fun n => -Int.ofNat n
    | _ => (digits? s).map Int.ofNat
  value.filter fun n => min ≤ n && n ≤ max

/-- The greatest number of 64 bits. -/
def maxUnsigned64 : Nat := 0xFFFFFFFFFFFFFFFF

/-- The greatest number of 32 bits. -/
def maxUnsigned32 : Nat := 0xFFFFFFFF

/-- A number of 64 bits with a sign. -/
def signed64? (s : Text) : Option Int := signed? (-0x8000000000000000) 0x7FFFFFFFFFFFFFFF s

/-- The decimal digits of `n`. -/
def decimal (n : Nat) : Text := Nat.toDigits 10 n

/-- The decimal digits of `n`, after a minus sign when it is negative. -/
def signedDecimal (n : Int) : Text :=
  if n < 0 then '-' :: decimal n.natAbs else decimal n.natAbs

/-- `n` with at least `width` digits, zeros in front. -/
def padded (width n : Nat) : Text :=
  let d := decimal n
  List.replicate (width - d.length) '0' ++ d

/-! ## Hexadecimal -/

/-- The hexadecimal digits `n` takes, with the given digit characters. -/
def hexDigits (n : Nat) : Text := Nat.toDigits 16 n

/-- The hexadecimal digit of a number below sixteen, in upper case. -/
def upperHex (n : Nat) : Char :=
  if n < 10 then Char.ofNat (0x30 + n) else Char.ofNat (0x41 + n - 10)

/-- The two hexadecimal digits of a byte, in upper case. -/
def byteHex (b : UInt8) : Text := [upperHex (b.toNat / 16), upperHex (b.toNat % 16)]

end MessageHead.Number
