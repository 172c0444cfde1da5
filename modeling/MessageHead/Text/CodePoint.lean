/-
Characters by their code points, written in hexadecimal digits.
-/
import MessageHead.Text.Basic

namespace MessageHead

/-- The value of a hexadecimal digit, of either case. -/
def hexDigit? (c : Char) : Option Nat :=
  if '0' ≤ c && c ≤ '9' then some (c.toNat - 0x30)
  else if 'A' ≤ c && c ≤ 'F' then some (c.toNat - 0x41 + 10)
  else if 'a' ≤ c && c ≤ 'f' then some (c.toNat - 0x61 + 10)
  else none

/-- The value of hexadecimal digits, read onto `n`. -/
def readHex? (n : Nat) : Text → Option Nat
  | [] => some n
  | c :: s => match hexDigit? c with
    | some d => readHex? (n * 16 + d) s
    | none => none

/-- The character with that code point. Some numbers are the code point of no character. -/
def charOf? (n : Nat) : Option Char :=
  if h : n.isValidChar then some (Char.ofNatAux n h) else none

/-- The character whose code point has these hexadecimal digits. -/
def charOfHex? (digits : Text) : Option Char :=
  if digits.isEmpty then none else (readHex? 0 digits).bind charOf?

end MessageHead
