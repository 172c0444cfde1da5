/-
Quoted texts of TOML documents. Double quotes allow escapes and single quotes do not; three
quotes of either kind allow line ends, and drop one right behind them.
-/
import MessageHead.Text.CodePoint
import MessageHead.Toml.Basic

namespace MessageHead.Toml

/-! ## Blanks and lines -/

/-- Blanks within a line. -/
def isGap (c : Char) : Bool := c == ' ' || c == '\t'

/-- The character may stand in a comment or a quoted text. -/
def isPlain (c : Char) : Bool := c == '\t' || (0x20 ≤ c.toNat && c.toNat != 0x7F)

/-- `s` without the blanks in front. -/
def skipGap (s : Text) : Text := s.dropWhile isGap

/-- What follows a line end. -/
def lineEnd? : Text → Option Text
  | '\n' :: s => some s
  | '\r' :: '\n' :: s => some s
  | _ => none

/-- `s` without the blanks and line ends in front. -/
def skipSpace : Text → Text
  | '\r' :: '\n' :: s => skipSpace s
  | c :: s => if isGap c || c == '\n' then skipSpace s else c :: s
  | [] => []

/-! ## Quoted texts -/

/-- The ways to quote. -/
structure Quoting where
  quote : Char
  /-- The text may hold line ends, and three quotes close it. -/
  multiLine : Bool
  /-- Backslashes escape. -/
  escapes : Bool

/-- What closes a text: further quotes that still belong to it, and what follows. -/
def Quoting.closing? (q : Quoting) (s : Text) : Option (Text × Text) :=
  if q.multiLine then
    let quotes := (s.takeWhile (· == q.quote)).length
    if quotes < 3 then none
    else
      let more := min (quotes - 3) 2
      some (List.replicate more q.quote, s.drop (more + 3))
  else match s with
    | c :: s => if c == q.quote then some ([], s) else none
    | [] => none

/-- The character of `count` hexadecimal digits. -/
def readDigits? (count : Nat) (s : Text) : Option (Char × Text) :=
  let digits := s.take count
  if digits.length == count then (charOfHex? digits).map fun c => (c, s.drop count) else none

/-- What stands behind a backslash, as one character. -/
def readEscape? : Text → Option (Char × Text)
  | [] => none
  | c :: s => match c with
    | 'b' => some ('\x08', s)
    | 't' => some ('\t', s)
    | 'n' => some ('\n', s)
    | 'f' => some ('\x0c', s)
    | 'r' => some ('\r', s)
    | 'e' => some ('\x1b', s)
    | '"' => some ('"', s)
    | '\\' => some ('\\', s)
    | 'x' => readDigits? 2 s
    | 'u' => readDigits? 4 s
    | 'U' => readDigits? 8 s
    | _ => none

/-- Reads on to the end of a quoted text; each round takes a character at least. A backslash at
the end of a line takes the line end and the blanks behind it away. -/
def Quoting.readFrom (q : Quoting) : Nat → Text → Except Malformed (Text × Text)
  | 0, _ => .error .text
  | n + 1, s => match q.closing? s, s with
    | some (more, s), _ => .ok (more, s)
    | none, [] => .error .text
    | none, c :: s =>
      let go := fun (lead : Text) s => (q.readFrom n s).map fun (t, s) => (lead ++ t, s)
      if q.escapes && c == '\\' then
        match if q.multiLine then lineEnd? (skipGap s) else none, readEscape? s with
        | some s, _ => go [] (skipSpace s)
        | none, some (c, s) => go [c] s
        | none, none => .error .text
      else if isPlain c then go [c] s
      else match if q.multiLine then lineEnd? (c :: s) else none with
        | some rest => go ((c :: s).take ((c :: s).length - rest.length)) rest
        | none => .error .text

/-- Reads a quoted text from behind its opening quotes. -/
def Quoting.read (q : Quoting) (s : Text) : Except Malformed (Text × Text) :=
  q.readFrom (s.length + 1) (if q.multiLine then (lineEnd? s).getD s else s)

/-- Reads a text in quotes that takes one line. -/
def readLineText? : Text → Option (Except Malformed (Text × Text))
  | '"' :: s => some (Quoting.read ⟨'"', false, true⟩ s)
  | '\'' :: s => some (Quoting.read ⟨'\'', false, false⟩ s)
  | _ => none

/-- Reads a text in quotes. -/
def readText? : Text → Option (Except Malformed (Text × Text))
  | '"' :: '"' :: '"' :: s => some (Quoting.read ⟨'"', true, true⟩ s)
  | '\'' :: '\'' :: '\'' :: s => some (Quoting.read ⟨'\'', true, false⟩ s)
  | s => readLineText? s

end MessageHead.Toml
