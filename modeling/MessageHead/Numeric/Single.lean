/-
Numbers of the IEEE-754 single format, as far as reading a decimal needs them: the bits of
the single nearest to an exact fraction, ties going to the even neighbour.
-/
import MessageHead.Text.Number

namespace MessageHead

/-- A number of the single format, by its bits. -/
structure Single where
  bits : UInt32
deriving DecidableEq, Repr

namespace Single

/-- `num / den` rounded to the nearest whole number, a half going to the even neighbour. -/
def roundHalfEven (num den : Nat) : Nat :=
  let q := num / den
  let r := num % den
  if 2 * r < den then q
  else if 2 * r == den then q + q % 2
  else q + 1

/-- The greatest `e` with `2 ^ e ≤ num / den`, for a positive fraction. -/
def floorLog2 (num den : Nat) : Int :=
  let guess : Int := Int.ofNat num.log2 - Int.ofNat den.log2
  let reached := if 0 ≤ guess then den * Nat.pow 2 guess.toNat ≤ num
    else den ≤ num * Nat.pow 2 (-guess).toNat
  if reached then guess else guess - 1

/-- The bits, sign aside, of the single nearest to `num / den`. A single is `m * 2 ^ q` with
`-149 ≤ q` and `m ≤ 2 ^ 24`; its bits are then `(q + 149) * 2 ^ 23 + m`, for subnormal numbers
and for a mantissa rounded up to `2 ^ 24` too. -/
def magnitude (num den : Nat) : Nat :=
  if num == 0 then 0
  else
    let q : Int := max (floorLog2 num den - 23) (-149)
    let m := if 0 ≤ q then roundHalfEven num (den * Nat.pow 2 q.toNat)
      else roundHalfEven (num * Nat.pow 2 (-q).toNat) den
    (q + 149).toNat * 0x800000 + m

/-- The bits of the number one. -/
def oneBits : Nat := 0x3F800000

/-- The bits of the smallest magnitude past every finite number. -/
def infinityBits : Nat := 0x7F800000

/-- The number one. -/
def one : Single := ⟨0x3F800000⟩

/-- The bits of `digits * 10 ^ exponent`, sign aside. Far from the range of the format the
answer is known from the count of digits alone. -/
def decimalMagnitude (digits : Nat) (exponent : Int) : Nat :=
  let top : Int := Int.ofNat (Number.decimal digits).length + exponent
  if digits == 0 then 0
  else if 60 < top then infinityBits
  else if top < -60 then 0
  else if 0 ≤ exponent then magnitude (digits * Nat.pow 10 exponent.toNat) 1
  else magnitude digits (Nat.pow 10 (-exponent).toNat)

/-- The number `± digits * 10 ^ exponent`. -/
def ofDecimal (negative : Bool) (digits : Nat) (exponent : Int) : Single :=
  let m := min (decimalMagnitude digits exponent) infinityBits
  ⟨UInt32.ofNat (if negative then 0x80000000 + m else m)⟩

/-! ## Decimal text -/

/-- Splits `s` after its decimal digits. -/
def spanDigits (s : Text) : Text × Text := s.span Char.isDigit

/-- The exponent at the end of a decimal: nothing, or `e` and a number with an optional sign. -/
def exponent? : Text → Option Int
  | [] => some 0
  | c :: rest =>
    if c == 'e' || c == 'E' then
      match rest with
      | '+' :: d => (Number.digits? d).map Int.ofNat
      | '-' :: d => (Number.digits? d).map fun n => -Int.ofNat n
      | d => (Number.digits? d).map Int.ofNat
    else none

/-- A decimal without sign: digits, with or without a point among or around them, then the
exponent. -/
def readDecimal? (negative : Bool) (s : Text) : Option Single :=
  let (whole, rest) := spanDigits s
  let (fraction, rest) := match rest with
    | '.' :: rest => spanDigits rest
    | _ => ([], rest)
  if whole.isEmpty && fraction.isEmpty then none
  else do
    let digits ← Number.digits? (whole ++ fraction)
    let exponent ← exponent? rest
    return ofDecimal negative digits (exponent - Int.ofNat fraction.length)

/-- The single nearest to a decimal. Words for infinities and for no number are no decimals. -/
def ofText? : Text → Option Single
  | '+' :: s => readDecimal? false s
  | '-' :: s => readDecimal? true s
  | s => readDecimal? false s

/-- The number lies from 0 to 1; the negative zero does. -/
def inUnitInterval (x : Single) : Bool := x.bits.toNat ≤ oneBits || x.bits.toNat == 0x80000000

end Single

end MessageHead
