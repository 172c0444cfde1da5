/-
Escapes of patterns: a backslash and what follows it stand for one character, for a set of
characters or for an assertion.
-/
import MessageHead.Pattern.Basic
import MessageHead.Pattern.CharClass
import MessageHead.Pattern.Flags

namespace MessageHead.Pattern

/-- What an escape or a plain character stands for. -/
inductive Atom where
  /-- A character. -/
  | literal (c : Char)
  /-- A set of characters. -/
  | set (cs : RangeSet)
  /-- An assertion. -/
  | look (a : Assertion)

/-! ## Sets -/

/-- Adds the characters that differ in case only, if case does not count. -/
def Flags.fold (f : Flags) (set : RangeSet) : RangeSet :=
  if !f.ignoreCase then set
  else if f.unicode then Property.foldCase set
  else Property.foldAscii set

/-- The set or what it lacks. Most of what an ASCII set lacks is not in ASCII. -/
def Flags.negate (f : Flags) (negated : Bool) (set : RangeSet) : Except Malformed RangeSet :=
  if !negated then .ok set
  else if f.unicode then .ok set.compl
  else .error .beyondAscii

/-- The character can be asked for under these switches. -/
def Flags.checkLiteral (f : Flags) (c : Char) : Except Malformed Char :=
  if f.unicode || c.toNat < 0x80 then .ok c else .error .beyondAscii

/-- The expression that a character is. -/
def Flags.literal (f : Flags) (c : Char) : Expr :=
  if !f.ignoreCase then .literal [c]
  else if f.unicode then .ofSet (.ofList (Property.family c))
  else .ofSet (.ofList [c.toLower, c.toUpper])

/-- The classes with a letter: digits, blanks, characters of words, or what is none of them. -/
def Flags.letterClass? (f : Flags) (c : Char) : Option (Except Malformed RangeSet) :=
  let pick := fun wide ascii negated => some (f.negate negated (if f.unicode then wide else ascii))
  match c with
  | 'd' => pick Property.decimalNumber CharClass.asciiDigit false
  | 'D' => pick Property.decimalNumber CharClass.asciiDigit true
  | 's' => pick Property.whiteSpace CharClass.asciiBlank false
  | 'S' => pick Property.whiteSpace CharClass.asciiBlank true
  | 'w' => pick Property.word CharClass.asciiWord false
  | 'W' => pick Property.word CharClass.asciiWord true
  | _ => none

/-! ## Characters by number -/

/-- The character whose hexadecimal digits these are. -/
def charOfHex (digits : Text) : Except Malformed Char :=
  match charOfHex? digits with
  | some c => .ok c
  | none => .error .codePoint

/-- Reads `count` hexadecimal digits, or any number of them in braces. Two digits are a byte,
which must be in ASCII where nothing beyond is allowed. -/
def readCodePoint (f : Flags) (count : Nat) (s : Text) : Except Malformed (Char × Text) := do
  match f.skip s with
  | '\x7b' :: s =>
    match f.take (· != '\x7d') s with
    | (digits, '\x7d' :: s) => return (← charOfHex digits, s)
    | _ => .error .escape
  | s =>
    let (digits, s) := f.spread (fun c => (hexDigit? c).isSome) count false s
    if digits.length != count then .error .escape
    else
      let c ← charOfHex digits
      if count == 2 then return (← f.checkLiteral c, s) else return (c, s)

/-! ## Properties -/

/-- Cuts at the first `lead`. -/
def cutText (lead : Text) : Text → Option (Text × Text)
  | [] => none
  | c :: s => match Text.dropLead? lead (c :: s) with
    | some rest => some ([], rest)
    | none => (cutText lead s).map fun (a, b) => (c :: a, b)

/-- The set that is named between the braces of a property, either alone or as a value of a
property. A sign between the two can say that the value is not to be had: then the set is to be
negated. -/
def propertyNamed? (name : Text) : Option (Bool × RangeSet) :=
  match cutText ['!', '='] name with
  | some (property, value) => (Property.valued? property value).map fun set => (true, set)
  | none => match (Text.cut ':' name).or (Text.cut '=' name) with
    | some (property, value) => (Property.valued? property value).map fun set => (false, set)
    | none => (Property.named? name).map fun set => (false, set)

/-- Reads the name of a property: one letter, or a name in braces. -/
def readPropertyName (f : Flags) (s : Text) : Except Malformed (Text × Text) :=
  match f.skip s with
  | [] => .error .escape
  | '\\' :: _ => .error .property
  | '\x7b' :: s => match f.take (· != '\x7d') s with
    | (name, '\x7d' :: s) => .ok (name, s)
    | _ => .error .escape
  | c :: s => .ok ([c], s)

/-- Reads a property, or what lacks it. -/
def readProperty (f : Flags) (negated : Bool) (s : Text) : Except Malformed (RangeSet × Text) := do
  let (name, s) ← readPropertyName f s
  if !f.unicode then .error .beyondAscii
  else match propertyNamed? name with
    | some (lacking, set) => return (← f.negate (negated != lacking) (f.fold set), s)
    | none => .error .property

/-! ## Assertions about words -/

/-- The assertions that are written with a name in braces. -/
def wordAssertion? (f : Flags) (name : Text) : Option Assertion :=
  if name == "start".toList then some (.wordStart !f.unicode)
  else if name == "end".toList then some (.wordEnd !f.unicode)
  else if name == "start-half".toList then some (.afterNoWord !f.unicode)
  else if name == "end-half".toList then some (.beforeNoWord !f.unicode)
  else none

/-- The character can be in the name of an assertion. -/
def isNameChar (c : Char) : Bool := c.isAlpha || c == '-'

/-- Reads what follows an escape for an edge of a word: the name of a narrower assertion, unless
what the brace opens cannot be a name and so repeats the edge. -/
def readWordEdge (f : Flags) (s : Text) : Except Malformed (Assertion × Text) :=
  match s with
  | '\x7b' :: inner => match f.skip inner with
    | [] => .error .escape
    | c :: rest =>
      if isNameChar c then
        match f.take isNameChar (c :: rest) with
        | (name, '\x7d' :: rest) => match wordAssertion? f name with
          | some a => .ok (a, rest)
          | none => .error .escape
        | _ => .error .escape
      else .ok (.wordEdge !f.unicode, s)
  | _ => .ok (.wordEdge !f.unicode, s)

/-! ## Escapes -/

/-- Characters that have an escape of their own. -/
def controlEscape? : Char → Option Char
  | 'a' => some '\x07'
  | 'f' => some '\x0c'
  | 't' => some '\t'
  | 'n' => some '\n'
  | 'r' => some '\r'
  | 'v' => some '\x0b'
  | _ => none

/-- The character stands for itself when it is escaped. -/
def escapesItself (c : Char) : Bool :=
  c.toNat < 0x80 && !c.isAlphanum && c != '<' && c != '>'

/-- Reads what follows a backslash. -/
def readEscape (f : Flags) : Text → Except Malformed (Atom × Text)
  | [] => .error .escape
  | c :: s => match c with
    | 'x' => (readCodePoint f 2 s).map fun (c, s) => (.literal c, s)
    | 'u' => (readCodePoint f 4 s).map fun (c, s) => (.literal c, s)
    | 'U' => (readCodePoint f 8 s).map fun (c, s) => (.literal c, s)
    | 'p' => (readProperty f false s).map fun (cs, s) => (.set cs, s)
    | 'P' => (readProperty f true s).map fun (cs, s) => (.set cs, s)
    | 'b' => (readWordEdge f s).map fun (a, s) => (.look a, s)
    | 'B' => .ok (.look (.noWordEdge !f.unicode), s)
    | '<' => .ok (.look (.wordStart !f.unicode), s)
    | '>' => .ok (.look (.wordEnd !f.unicode), s)
    | 'A' => .ok (.look .textStart, s)
    | 'z' => .ok (.look .textEnd, s)
    | _ =>
      if escapesItself c then .ok (.literal c, s)
      else match controlEscape? c, f.letterClass? c with
        | some c, _ => .ok (.literal c, s)
        | none, some cs => cs.map fun cs => (.set cs, s)
        | none, none => .error .escape

end MessageHead.Pattern
