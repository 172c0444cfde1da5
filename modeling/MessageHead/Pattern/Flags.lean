/-
The switches a pattern can turn on and off as it goes, and what the switch for spaced-out
patterns does to the reader: blanks and comments between the parts of a pattern do not count.
-/
import MessageHead.Text.Blank

namespace MessageHead.Pattern

/-- Why a pattern cannot be read. -/
inductive Malformed where
  /-- A parenthesis closes no group. -/
  | unopenedGroup
  /-- A group is not closed. -/
  | unclosedGroup
  /-- A group looks ahead or behind. -/
  | lookAround
  /-- The name of a group is no name, or an earlier group has it. -/
  | groupName
  /-- The switches of a group are not in order. -/
  | flags
  /-- There is nothing a repetition could repeat. -/
  | nothingToRepeat
  /-- The bounds of a repetition are not in order. -/
  | bounds
  /-- A backslash is followed by nothing it could escape. -/
  | escape
  /-- A number is the code point of no character. -/
  | codePoint
  /-- No property has this name. -/
  | property
  /-- A set in brackets is not closed. -/
  | unclosedSet
  /-- What is not a character stands where only characters may. -/
  | setItem
  /-- The ends of a range are the wrong way round. -/
  | range
  /-- Something beyond ASCII is asked for where the switch for it is off. -/
  | beyondAscii
  /-- The parts of the pattern are nested too deep. -/
  | tooDeep
  /-- Writing out all repetitions makes the pattern too large. -/
  | tooLarge
deriving DecidableEq, Repr

/-- The switches. -/
structure Flags where
  /-- Case does not count. -/
  ignoreCase : Bool := false
  /-- Anchors hold at every line. -/
  multiLine : Bool := false
  /-- A dot stands for line feeds too. -/
  dotAll : Bool := false
  /-- A carriage return ends a line too. -/
  crlf : Bool := false
  /-- Blanks and comments in the pattern do not count. -/
  extended : Bool := false
  /-- Classes and case go beyond ASCII. -/
  unicode : Bool := true
  /-- Repetitions try fewer times first, unless they say otherwise. -/
  lazy : Bool := false
deriving DecidableEq, Repr

namespace Flags

/-- Turns the switch of a letter on or off. -/
def set? (f : Flags) (c : Char) (on : Bool) : Option Flags :=
  match c with
  | 'i' => some { f with ignoreCase := on }
  | 'm' => some { f with multiLine := on }
  | 's' => some { f with dotAll := on }
  | 'R' => some { f with crlf := on }
  | 'x' => some { f with extended := on }
  | 'u' => some { f with unicode := on }
  | 'U' => some { f with lazy := on }
  | _ => none

/-- Reads switches up to a parenthesis or a colon; those behind a hyphen are turned off. No
letter may come twice, and something must follow the hyphen. -/
def read (f : Flags) (on : Bool) (seen : List Char) : Text → Except Malformed (Flags × Text)
  | [] => .error .unclosedGroup
  | c :: s =>
    if c == ')' || c == ':' then
      if seen.head? == some '-' then .error .flags else .ok (f, c :: s)
    else if seen.contains c then .error .flags
    else if c == '-' then read f false ('-' :: seen) s
    else match f.set? c on with
      | some f => read f on (c :: seen) s
      | none => .error .flags

/-- The first characters that satisfy `p`, at most `limit` of them, and what follows. In an
extended pattern, blanks and comments in front of and between them are left out; `inside` when
the text begins in a comment. -/
def spread (f : Flags) (p : Char → Bool) : Nat → Bool → Text → Text × Text
  | _, _, [] => ([], [])
  | limit, true, c :: s => spread f p limit (c != '\n') s
  | limit, false, c :: s =>
    if f.extended && isBlank c then spread f p limit false s
    else if f.extended && c == '#' then spread f p limit true s
    else match limit with
      | 0 => ([], c :: s)
      | limit + 1 =>
        if p c then
          let more := spread f p limit false s
          (c :: more.1, more.2)
        else ([], c :: s)

/-- The first characters that satisfy `p`, and what follows. -/
def take (f : Flags) (p : Char → Bool) (s : Text) : Text × Text := f.spread p s.length false s

/-- `s` from the first character on that counts. -/
def skip (f : Flags) (s : Text) : Text := (f.spread (fun _ => false) 0 false s).2

end Flags

end MessageHead.Pattern
