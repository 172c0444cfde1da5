/-
Dates in header values. Three layouts are read and one is written:

    Sun, 06 Nov 1994 08:49:37 GMT
    Sunday, 06-Nov-94 08:49:37 GMT
    Sun Nov  6 08:49:37 1994

A date is accepted only if it exists, lies in the years 1970 to 9999 and falls on the weekday
that is given with it.
-/
import MessageHead.Text.Number

namespace MessageHead

/-- A day of the calendar and a time of the day. -/
structure HttpDate where
  year : Nat
  month : Nat
  day : Nat
  hour : Nat
  minute : Nat
  second : Nat
deriving DecidableEq, Repr

namespace HttpDate

/-! ## The calendar -/

/-- February has a twenty-ninth day. -/
def isLeap (year : Nat) : Bool := year % 4 == 0 && (year % 100 != 0 || year % 400 == 0)

/-- The number of days of a month. -/
def daysInMonth (year month : Nat) : Nat :=
  if month == 2 then (if isLeap year then 29 else 28)
  else if month == 4 || month == 6 || month == 9 || month == 11 then 30
  else 31

/-- Days from the first of March of the year 0 to the first of January 1970. -/
def epochShift : Nat := 719468

/-- Days since the first of January 1970. Years are counted from March, so that the leap day
comes last. -/
def toDays (d : HttpDate) : Nat :=
  let year := if d.month ≤ 2 then d.year - 1 else d.year
  let month := (d.month + 9) % 12
  year * 365 + year / 4 - year / 100 + year / 400 + (153 * month + 2) / 5 + d.day - 1 - epochShift

/-- Seconds since the first of January 1970. -/
def toSeconds (d : HttpDate) : Nat :=
  d.toDays * 86400 + d.hour * 3600 + d.minute * 60 + d.second

/-- The date that many seconds after the first of January 1970. -/
def ofSeconds (seconds : Nat) : HttpDate :=
  let shifted := seconds / 86400 + epochShift
  let era := shifted / 146097
  let inEra := shifted % 146097
  let yearInEra := (inEra - inEra / 1460 + inEra / 36524 - inEra / 146096) / 365
  let inYear := inEra - (365 * yearInEra + yearInEra / 4 - yearInEra / 100)
  let march := (5 * inYear + 2) / 153
  let month := if march < 10 then march + 3 else march - 9
  let year := era * 400 + yearInEra
  let rest := seconds % 86400
  { year := if month ≤ 2 then year + 1 else year
    month
    day := inYear - (153 * march + 2) / 5 + 1
    hour := rest / 3600
    minute := rest % 3600 / 60
    second := rest % 60 }

/-- The weekday of a date, from 0 for Monday to 6 for Sunday. -/
def weekday (d : HttpDate) : Nat := (d.toDays + 3) % 7

/-- The date exists and lies in the years that are read. -/
def isValid (d : HttpDate) : Bool :=
  d.second < 60 && d.minute < 60 && d.hour < 24 && 1 ≤ d.month && d.month ≤ 12 && 1 ≤ d.day &&
    d.day ≤ daysInMonth d.year d.month && 1970 ≤ d.year && d.year ≤ 9999

/-! ## Names -/

/-- The weekdays from Monday on. -/
def weekdayNames : List String :=
  ["Monday", "Tuesday", "Wednesday", "Thursday", "Friday", "Saturday", "Sunday"]

/-- The months from January on, in three letters. -/
def monthNames : List String :=
  ["Jan", "Feb", "Mar", "Apr", "May", "Jun", "Jul", "Aug", "Sep", "Oct", "Nov", "Dec"]

/-- A weekday in three letters. -/
def shortWeekday (n : Nat) : Text := (weekdayNames.getD n "").toList.take 3

/-- The place of `s` among names with something before and after each. -/
def placeOf? (names : List String) (before after : Text) (s : Text) : Option Nat :=
  names.findIdx? fun name => before ++ name.toList ++ after == s

/-- The weekday whose first three letters, followed by `after`, are `s`. -/
def shortWeekday? (after s : Text) : Option Nat :=
  weekdayNames.findIdx? fun name => name.toList.take 3 ++ after == s

/-! ## Reading -/

/-- `n` characters of `s` from the one numbered `i` on. -/
def slice (s : Text) (i n : Nat) : Text := (s.drop i).take n

/-- The number in a slice that holds nothing but digits. -/
def number? (s : Text) (i n : Nat) : Option Nat := Number.digits? (slice s i n)

/-- The date, if it is valid and falls on the given weekday. -/
def checked? (weekday : Nat) (d : HttpDate) : Option HttpDate :=
  if d.isValid && d.weekday == weekday then some d else none

/-- A weekday with the date it was given with. -/
abbrev Dated := Nat × HttpDate

/-- The layout with a comma, blanks and a year of four digits. -/
def fixed? (s : Text) : Option Dated := do
  guard (s.length == 29 && slice s 25 4 == " GMT".toList && slice s 16 1 == [' '] &&
    slice s 19 1 == [':'] && slice s 22 1 == [':'])
  let second ← number? s 23 2
  let minute ← number? s 20 2
  let hour ← number? s 17 2
  let day ← number? s 5 2
  let month ← placeOf? monthNames [' '] [' '] (slice s 7 5)
  let year ← number? s 12 4
  let weekday ← shortWeekday? [',', ' '] (slice s 0 5)
  return (weekday, ⟨year, month + 1, day, hour, minute, second⟩)

/-- The weekday in full at the start of a text, and what follows the comma and the blank. -/
def fullWeekday? (s : Text) : Option (Nat × Text) :=
  weekdayNames.zipIdx.findSome? fun (name, i) =>
    (Text.dropLead? (name.toList ++ [',', ' ']) s).map (i, ·)

/-- The layout with dashes and a year of two digits, from 1970 to 2069. The character before
the hour is not looked at. -/
def dashed? (s : Text) : Option Dated := do
  let (weekday, s) ← fullWeekday? s
  guard (s.length == 22 && slice s 12 1 == [':'] && slice s 15 1 == [':'] &&
    slice s 18 4 == " GMT".toList)
  let year ← number? s 7 2
  let second ← number? s 16 2
  let minute ← number? s 13 2
  let hour ← number? s 10 2
  let day ← number? s 0 2
  let month ← placeOf? monthNames ['-'] ['-'] (slice s 2 5)
  let year := if year < 70 then year + 2000 else year + 1900
  return (weekday, ⟨year, month + 1, day, hour, minute, second⟩)

/-- The layout without comma, the year at the end. A blank may stand for the first digit of
the day. -/
def trailingYear? (s : Text) : Option Dated := do
  guard (s.length == 24 && slice s 10 1 == [' '] && slice s 13 1 == [':'] &&
    slice s 16 1 == [':'] && slice s 19 1 == [' '])
  let second ← number? s 17 2
  let minute ← number? s 14 2
  let hour ← number? s 11 2
  let day ← if slice s 8 1 == [' '] then number? s 9 1 else number? s 8 2
  let month ← placeOf? monthNames [] [' '] (slice s 4 4)
  let year ← number? s 20 4
  let weekday ← shortWeekday? [' '] (slice s 0 4)
  return (weekday, ⟨year, month + 1, day, hour, minute, second⟩)

/-- Reads a date in any of the three layouts, all of them plain ASCII. -/
def parse? (s : Text) : Option HttpDate := do
  guard (s.all fun c => c.toNat < 0x80)
  let (weekday, d) ← (fixed? s).or <| (dashed? s).or (trailingYear? s)
  checked? weekday d

/-! ## Writing -/

/-- The date as it is written. -/
def render (d : HttpDate) : Text :=
  shortWeekday d.weekday ++ [',', ' '] ++ Number.padded 2 d.day ++ ' ' ::
    (monthNames.getD (d.month - 1) "").toList ++ ' ' :: Number.padded 4 d.year ++ ' ' ::
    Number.padded 2 d.hour ++ ':' :: Number.padded 2 d.minute ++ ':' :: Number.padded 2 d.second ++
    " GMT".toList

end HttpDate

end MessageHead
