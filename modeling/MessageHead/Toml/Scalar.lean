/-
Values of TOML documents that take one word: truth values, numbers, dates and times. A date
and a time may also have one blank between them.
-/
import MessageHead.HttpDate
import MessageHead.Text.CodePoint
import MessageHead.Toml.Basic

namespace MessageHead.Toml

/-! ## Numbers -/

/-- Digits with single underscores between them, without the underscores. -/
def joinedDigits? (isDigit : Char → Bool) : Text → Option Text
  | [] => none
  | [c] => if isDigit c then some [c] else none
  | c :: '_' :: s => if isDigit c then (joinedDigits? isDigit s).map (c :: ·) else none
  | c :: s => if isDigit c then (joinedDigits? isDigit s).map (c :: ·) else none

/-- The whole part of a decimal number: no zero stands in front of other digits. -/
def wholeDigits? (s : Text) : Option Text :=
  match joinedDigits? Char.isDigit s with
  | some ('0' :: _ :: _) => none
  | digits => digits

/-- A sign, if there is one, and what follows it. -/
def cutSign : Text → Bool × Text
  | '+' :: s => (false, s)
  | '-' :: s => (true, s)
  | s => (false, s)

/-- The digit belongs to numbers with that base. -/
def isDigitOf (base : Nat) (c : Char) : Bool := (hexDigit? c).any (· < base)

/-- The value of digits with a base, up to sixteen. -/
def ofDigits (base : Nat) (digits : Text) : Nat :=
  digits.foldl (fun n c => n * base + (hexDigit? c).getD 0) 0

/-- A whole number: decimal with a sign, or with another base and none. -/
def integer? (s : Text) : Option Int :=
  let based := fun base s =>
    (joinedDigits? (isDigitOf base) s).map fun d => Int.ofNat (ofDigits base d)
  match s with
  | '0' :: 'x' :: s => based 16 s
  | '0' :: 'o' :: s => based 8 s
  | '0' :: 'b' :: s => based 2 s
  | s =>
    let (negative, digits) := cutSign s
    (wholeDigits? digits).map fun d =>
      if negative then -Int.ofNat (ofDigits 10 d) else Int.ofNat (ofDigits 10 d)

/-- The whole number fits 128 bits, with or without a sign. -/
def fitsInteger (n : Int) : Bool := -Int.ofNat (Nat.pow 2 127) ≤ n && n < Int.ofNat (Nat.pow 2 128)

/-- A decimal number with a fraction or an exponent: its digits and the power of ten they count,
and none for the words for what is no finite number. -/
def float? (s : Text) : Option (Option (Nat × Int)) :=
  let s := (cutSign s).2
  if s == "inf".toList || s == "nan".toList then some none
  else
    let isExponent := fun c => c == 'e' || c == 'E'
    let (body, exponent) := match Text.cutAt isExponent s with
      | some (body, exponent) => (body, some exponent)
      | none => (s, none)
    let (whole, fraction) := match Text.cut '.' body with
      | some (whole, fraction) => (whole, some fraction)
      | none => (body, none)
    if exponent.isNone && fraction.isNone then none
    else do
      let whole ← wholeDigits? whole
      let fraction ← match fraction with
        | some s => joinedDigits? Char.isDigit s
        | none => some []
      let exponent ← match exponent with
        | some s =>
          let (negative, digits) := cutSign s
          (joinedDigits? Char.isDigit digits).map fun d =>
            if negative then -Int.ofNat (ofDigits 10 d) else Int.ofNat (ofDigits 10 d)
        | none => some 0
      return some (ofDigits 10 (whole ++ fraction), exponent - Int.ofNat fraction.length)

/-- The smallest number that no finite double is nearest to. -/
def doubleBound : Nat := Nat.pow 2 1024 - Nat.pow 2 970

/-- The number `digits * 10 ^ exponent` is nearest to a finite double. Far from the bound that is
known from the count of digits alone. -/
def fitsDouble (digits : Nat) (exponent : Int) : Bool :=
  let top : Int := Int.ofNat (Number.decimal digits).length + exponent
  if digits == 0 || top < 300 then true
  else if 320 < top then false
  else if 0 ≤ exponent then digits * Nat.pow 10 exponent.toNat < doubleBound
  else digits < doubleBound * Nat.pow 10 (-exponent).toNat

/-! ## Dates and times -/

/-- Two digits, from `lo` to `hi`, and what follows. -/
def twoDigits? (lo hi : Nat) : Text → Option (Nat × Text)
  | a :: b :: s =>
    if a.isDigit && b.isDigit then
      let n := ofDigits 10 [a, b]
      if lo ≤ n && n ≤ hi then some (n, s) else none
    else none
  | _ => none

/-- What follows a character. -/
def behind? (c : Char) : Text → Option Text
  | d :: s => if d == c then some s else none
  | [] => none

/-- What follows a day of the calendar. -/
def behindDate? (s : Text) : Option Text := do
  let (century, s) ← twoDigits? 0 99 s
  let (year, s) ← twoDigits? 0 99 s
  let (month, s) ← twoDigits? 1 12 (← behind? '-' s)
  let (_, s) ← twoDigits? 1 (HttpDate.daysInMonth (century * 100 + year) month) (← behind? '-' s)
  return s

/-- What follows a time of the day. Seconds, and fractions of them, may be left out. -/
def behindTime? (s : Text) : Option Text := do
  let (_, s) ← twoDigits? 0 23 s
  let (_, s) ← twoDigits? 0 59 (← behind? ':' s)
  match s with
  | ':' :: s =>
    let (_, s) ← twoDigits? 0 60 s
    match s with
    | '.' :: s =>
      let (fraction, s) := s.span Char.isDigit
      if fraction.isEmpty then none else return s
    | s => return s
  | s => return s

/-- What follows an offset from universal time. -/
def behindOffset? : Text → Option Text
  | 'Z' :: s => some s
  | 'z' :: s => some s
  | c :: s => do
    if c != '+' && c != '-' then none
    else
      let (_, s) ← twoDigits? 0 23 s
      let (_, s) ← twoDigits? 0 59 (← behind? ':' s)
      return s
  | [] => none

/-- The text is a date, a time, or a date and a time, perhaps with an offset. -/
def isMoment (s : Text) : Bool :=
  match behindDate? s with
  | some [] => true
  | some (c :: s) =>
    (c == 'T' || c == 't' || c == ' ') && match behindTime? s with
      | some [] => true
      | some s => behindOffset? s == some []
      | none => false
  | none => behindTime? s == some []

/-! ## Words -/

/-- The character may be in a word. -/
def isWordChar (c : Char) : Bool :=
  c.isAlphanum || c == '_' || c == '+' || c == '-' || c == '.' || c == ':'

/-- The value of a word. -/
def wordValue (w : Text) : Except Malformed Value :=
  if w == "true".toList then .ok (.boolean true)
  else if w == "false".toList then .ok (.boolean false)
  else if isMoment w then .ok (.moment w)
  else match integer? w, float? w with
    | some n, _ => if fitsInteger n then .ok (.integer n) else .error .number
    | none, some none => .ok (.float w)
    | none, some (some (digits, exponent)) =>
      if fitsDouble digits exponent then .ok (.float w) else .error .number
    | none, none => .error .value

/-- Reads a word. A date goes on behind one blank when a digit follows it. -/
def readWord (s : Text) : Except Malformed (Value × Text) :=
  let (word, s) := s.span isWordChar
  match behindDate? word, s with
  | some [], ' ' :: c :: s =>
    if c.isDigit then
      let (time, s) := (c :: s).span isWordChar
      (wordValue (word ++ ' ' :: time)).map fun v => (v, s)
    else (wordValue word).map fun v => (v, ' ' :: c :: s)
  | _, _ => (wordValue word).map fun v => (v, s)

end MessageHead.Toml
