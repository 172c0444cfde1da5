/-
Patterns as text. Literal characters, escapes, sets in brackets and groups stand one after the
other; `?`, `*`, `+` and bounds in braces repeat what is in front of them; a bar separates
branches. A pattern is refused when it is malformed, when its parts are nested too deep, or
when an automaton for it takes too much room.
-/
import MessageHead.Pattern.Bracket
import MessageHead.Pattern.GroupName
import MessageHead.Pattern.Automaton.Size
import MessageHead.Text.Number

namespace MessageHead.Pattern

/-- How deep the parts of a pattern may be nested. -/
def depthLimit : Nat := 250

/-! ## Parts -/

/-- A part of a pattern. -/
structure Part where
  expr : Expr
  /-- How deep its own parts are nested. -/
  depth : Nat := 0
  /-- It can be repeated; only a change of switches cannot. -/
  repeatable : Bool := true

namespace Part

/-- A change of switches. -/
def settings : Part := { expr := .empty, repeatable := false }

/-- How deep several parts side by side are nested. -/
def depthOf (parts : List Part) : Nat := 1 + (parts.map Part.depth).foldl max 0

/-- Parts one after the other. A single part stays as it is. -/
def sequence : List Part → Part
  | [] => { expr := .empty }
  | [part] => part
  | parts => { expr := .sequence (parts.map expr), depth := depthOf parts }

/-- Parts to choose from. A single part stays as it is. -/
def choice : List Part → Part
  | [part] => part
  | parts => { expr := .choice (parts.map expr), depth := depthOf parts }

/-- A group around a part. -/
def group (captures : Bool) (part : Part) : Part :=
  { expr := if captures then .group part.expr else part.expr, depth := 1 + part.depth }

/-- A repetition. -/
def repeated (part : Part) (min : Nat) (max : Option Nat) (lazy : Bool) : Part :=
  { expr := part.expr.repeated min max lazy, depth := 1 + part.depth }

end Part

/-- What has been read of a group, or of the pattern outside all groups. -/
structure Scope where
  /-- The switches that hold for what follows. -/
  flags : Flags
  /-- The names of all groups up to here. -/
  names : List Text := []
  /-- The finished branches, the last first. -/
  branches : List Part := []
  /-- The parts of the branch being read, the last first. -/
  parts : List Part := []

namespace Scope

/-- The branch being read. -/
def branch (sc : Scope) : Part := .sequence sc.parts.reverse

/-- Everything read so far. -/
def whole (sc : Scope) : Part := .choice (sc.branch :: sc.branches).reverse

/-- Adds a part to the branch. -/
def add (sc : Scope) (part : Part) : Scope := { sc with parts := part :: sc.parts }

/-- Begins the next branch. -/
def nextBranch (sc : Scope) : Scope := { sc with branches := sc.branch :: sc.branches, parts := [] }

/-- Repeats the last part; a question mark behind the repetition reverses what it tries first. -/
def repeatLast (sc : Scope) (min : Nat) (max : Option Nat) (s : Text) :
    Except Malformed (Scope × Text) :=
  match sc.parts with
  | [] => .error .nothingToRepeat
  | part :: parts =>
    if !part.repeatable then .error .nothingToRepeat
    else
      let (reversed, s) := match s with
        | '?' :: s => (true, s)
        | s => (false, s)
      let part := part.repeated min max (sc.flags.lazy != reversed)
      .ok ({ sc with parts := part :: parts }, s)

end Scope

/-! ## Bounds -/

/-- The number that digits make, within 32 bits. -/
def bound (digits : Text) : Except Malformed Nat :=
  match (Number.digits? digits).filter (· ≤ Number.maxUnsigned32) with
  | some n => .ok n
  | none => .error .bounds

/-- Reads decimal digits with blanks around them. -/
def takeDigits (f : Flags) (s : Text) : Text × Text :=
  let (digits, s) := f.take Char.isDigit (Text.trimStart s)
  (digits, Text.trimStart s)

/-- Reads bounds from behind their opening brace: one number, or a number, a comma and perhaps
another that is not smaller. -/
def readBounds (f : Flags) (s : Text) : Except Malformed ((Nat × Option Nat) × Text) := do
  let (digits, s) := takeDigits f (f.skip s)
  let lo ← bound digits
  match s with
  | '\x7d' :: s => return ((lo, some lo), s)
  | ',' :: s => match f.skip s with
    | '\x7d' :: s => return ((lo, none), s)
    | s =>
      let (digits, s) := takeDigits f s
      let hi ← bound digits
      match s with
      | '\x7d' :: s => if hi < lo then .error .bounds else return ((lo, some hi), s)
      | _ => .error .bounds
  | _ => .error .bounds

/-! ## Groups -/

/-- What a parenthesis opens. -/
inductive Opening where
  /-- A change of switches for the rest of the group around it. -/
  | settings (flags : Flags)
  /-- A group with switches of its own; one that captures what it matches may have a name. -/
  | group (flags : Flags) (captures : Bool) (name : Option Text)

/-- Reads the name of a group, which ends at the first `>`. -/
def readGroupName (f : Flags) (s : Text) : Except Malformed (Opening × Text) :=
  match Text.cut '>' s with
  | some (name, s) =>
    if isGroupName name then .ok (.group f true (some name), s) else .error .groupName
  | none => .error .groupName

/-- Reads what follows an opening parenthesis up to the body of the group. -/
def readOpening (f : Flags) (s : Text) : Except Malformed (Opening × Text) :=
  match f.skip s with
  | '?' :: 'P' :: '<' :: s => readGroupName f s
  | '?' :: '=' :: _ => .error .lookAround
  | '?' :: '!' :: _ => .error .lookAround
  | '?' :: '<' :: '=' :: _ => .error .lookAround
  | '?' :: '<' :: '!' :: _ => .error .lookAround
  | '?' :: '<' :: s => readGroupName f s
  | '?' :: ')' :: _ => .error .nothingToRepeat
  | '?' :: s => (f.read true [] s).map fun (flags, s) => match s with
    | ')' :: s => (.settings flags, s)
    | s => (.group flags false none, s.tail)
  | s => .ok (.group f true none, s)

/-! ## The whole pattern -/

/-- The set for a dot. -/
def Flags.dot (f : Flags) : Except Malformed RangeSet :=
  if !f.unicode then .error .beyondAscii
  else if f.dotAll then .ok .all
  else if f.crlf then .ok (RangeSet.ofList ['\n', '\r']).compl
  else .ok (RangeSet.single '\n').compl

/-- Where a circumflex matches. -/
def Flags.start (f : Flags) : Assertion := if f.multiLine then .lineStart f.crlf else .textStart

/-- Where a dollar sign matches. -/
def Flags.stop (f : Flags) : Assertion := if f.multiLine then .lineEnd f.crlf else .textEnd

/-- The expression that an atom is. -/
def Atom.expr (f : Flags) : Atom → Expr
  | .literal c => f.literal c
  | .set cs => .ofSet cs
  | .look a => .look a

/-- Reads one character or an escape. -/
def readAtom (f : Flags) : Text → Except Malformed (Expr × Text)
  | [] => .error .escape
  | '\\' :: s => (readEscape f s).map fun (atom, s) => (atom.expr f, s)
  | '.' :: s => f.dot.map fun set => (.ofSet set, s)
  | '^' :: s => .ok (.look f.start, s)
  | '$' :: s => .ok (.look f.stop, s)
  | c :: s => .ok (f.literal c, s)

/-- Reads to the end of a group or of the pattern, the closing parenthesis left in place; each
round takes a character at least. -/
def readScope : Nat → Scope → Text → Except Malformed (Scope × Text)
  | 0, _, _ => .error .tooDeep
  | n + 1, sc, s => do
    match sc.flags.skip s with
    | [] => return (sc, [])
    | ')' :: s => return (sc, ')' :: s)
    | '|' :: s => readScope n sc.nextBranch s
    | '(' :: s =>
      match ← readOpening sc.flags s with
      | (.settings flags, s) => readScope n { sc.add .settings with flags } s
      | (.group flags captures name, s) =>
        if name.any sc.names.contains then .error .groupName
        else
          let (inner, s) ← readScope n { flags, names := name.toList ++ sc.names } s
          match s with
          | ')' :: s =>
            readScope n { sc.add (inner.whole.group captures) with names := inner.names } s
          | _ => .error .unclosedGroup
    | '[' :: s =>
      let (part, s) ← readBracket sc.flags s
      readScope n (sc.add { expr := .ofSet part.set, depth := part.depth }) s
    | '?' :: s =>
      let (sc, s) ← sc.repeatLast 0 (some 1) s
      readScope n sc s
    | '*' :: s =>
      let (sc, s) ← sc.repeatLast 0 none s
      readScope n sc s
    | '+' :: s =>
      let (sc, s) ← sc.repeatLast 1 none s
      readScope n sc s
    | '\x7b' :: s =>
      let ((lo, hi), s) ← readBounds sc.flags s
      let (sc, s) ← sc.repeatLast lo hi (sc.flags.skip s)
      readScope n sc s
    | s =>
      let (expr, s) ← readAtom sc.flags s
      readScope n (sc.add { expr }) s

/-- Reads a pattern. -/
def Expr.parse (s : Text) : Except Malformed Expr := do
  let (sc, rest) ← readScope (s.length + 1) { flags := {} } s
  let whole := sc.whole
  if !rest.isEmpty then .error .unopenedGroup
  else if whole.depth > depthLimit then .error .tooDeep
  else if !whole.expr.fits then .error .tooLarge
  else return whole.expr

end MessageHead.Pattern
