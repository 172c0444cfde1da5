/-
Sets of characters in brackets: characters, ranges, escapes, named classes and further sets in
brackets, and the operators `&&`, `--` and `~~` between such lists. The operators bind weaker
than standing side by side and group to the left.
-/
import MessageHead.Pattern.Escape

namespace MessageHead.Pattern

/-- The operators between sets. -/
inductive SetOperator where
  /-- What both sides have. -/
  | inter
  /-- What the left side has and the right side lacks. -/
  | diff
  /-- What exactly one side has. -/
  | symmDiff
deriving DecidableEq, Repr

/-- What the operator makes of two sets. -/
def SetOperator.apply : SetOperator → RangeSet → RangeSet → RangeSet
  | .inter => .inter
  | .diff => .diff
  | .symmDiff => .symmDiff

/-- A set with how deep its parts are nested. -/
structure SetPart where
  set : RangeSet
  depth : Nat := 0

/-- What has been read of a set in brackets. -/
structure Bracket where
  /-- The set is what the brackets leave out. -/
  negated : Bool
  /-- What stands in front of the last operator, and that operator. -/
  left : Option (SetPart × SetOperator) := none
  /-- What stands behind it, the last first. -/
  items : List SetPart := []

namespace Bracket

/-- Adds an item. -/
def add (b : Bracket) (item : SetPart) : Bracket := { b with items := item :: b.items }

/-- The union of the items behind the last operator. -/
def right (b : Bracket) : SetPart :=
  match b.items with
  | [] => ⟨.empty, 0⟩
  | [item] => item
  | items => ⟨.unions (items.map SetPart.set), 1 + (items.map SetPart.depth).foldl max 0⟩

/-- The set that everything read so far makes. Both sides of an operator hold what differs in
case only, if case does not count. -/
def value (f : Flags) (b : Bracket) : SetPart :=
  match b.left with
  | none => b.right
  | some (l, op) =>
    ⟨op.apply (f.fold l.set) (f.fold b.right.set), 1 + max l.depth b.right.depth⟩

/-- Begins the right side of an operator. -/
def operate (f : Flags) (b : Bracket) (op : SetOperator) : Bracket :=
  { b with left := some (b.value f, op), items := [] }

/-- The set when the bracket closes. -/
def close (f : Flags) (b : Bracket) : Except Malformed SetPart :=
  (f.negate b.negated (f.fold (b.value f).set)).map fun set => ⟨set, 1 + (b.value f).depth⟩

end Bracket

/-! ## Items -/

/-- Reads an escape or one character. -/
def readSetAtom (f : Flags) : Text → Except Malformed (Atom × Text)
  | [] => .error .unclosedSet
  | '\\' :: s => readEscape f s
  | c :: s => .ok (.literal c, s)

/-- The set that an atom is as an item. -/
def Atom.item (f : Flags) : Atom → Except Malformed SetPart
  | .literal c => (f.checkLiteral c).map fun c => ⟨.single c, 0⟩
  | .set cs => .ok ⟨cs, 0⟩
  | .look _ => .error .setItem

/-- The character that an atom is as the end of a range. -/
def Atom.rangeEnd (f : Flags) : Atom → Except Malformed Char
  | .literal c => f.checkLiteral c
  | _ => .error .setItem

/-- The character that decides whether a hyphen in front of it is part of a range. In an
extended pattern it is looked for behind blanks and one number sign. -/
def behindHyphen? (f : Flags) (s : Text) : Option Char :=
  if f.extended then
    match Text.trimStart s with
    | '#' :: s => (Text.trimStart s).head?
    | s => s.head?
  else s.head?

/-- Reads a range, or an item that begins none. -/
def readSetItem (f : Flags) (s : Text) : Except Malformed (SetPart × Text) := do
  let (first, s) ← readSetAtom f s
  match f.skip s with
  | '-' :: rest =>
    if behindHyphen? f rest == some ']' || behindHyphen? f rest == some '-' then
      return (← first.item f, '-' :: rest)
    else
      let (last, s) ← readSetAtom f (f.skip rest)
      let lo ← first.rangeEnd f
      let hi ← last.rangeEnd f
      if hi < lo then .error .range else return (⟨.between lo hi, 0⟩, s)
  | s => return (← first.item f, s)

/-- The class that is written `:name:]` or `:^name:]` behind a bracket, if one is. -/
def readNamedClass? : Text → Option (Bool × RangeSet × Text)
  | ':' :: s =>
    let (negated, s) := match s with
      | '^' :: s => (true, s)
      | _ => (false, s)
    match Text.cut ':' s with
    | some (name, ']' :: s) => (CharClass.posix? name).map fun cs => (negated, cs, s)
    | _ => none
  | _ => none

/-! ## Brackets -/

/-- Reads what may only come first: the sign for what is left out, and then hyphens or a closing
bracket that stand for themselves. -/
def openBracket (f : Flags) (s : Text) : Bracket × Text :=
  let (negated, s) := match f.skip s with
    | '^' :: s => (true, s)
    | s => (false, s)
  match f.take (· == '-') s with
  | ([], ']' :: s) => ({ negated, items := [⟨.single ']', 0⟩] }, s)
  | (hyphens, s) => ({ negated, items := hyphens.map fun c => ⟨.single c, 0⟩ }, s)

/-- Reads on to the end of a bracket; each round takes a character at least. -/
def readBracketFrom : Nat → Flags → Bracket → Text → Except Malformed (SetPart × Text)
  | 0, _, _, _ => .error .unclosedSet
  | n + 1, f, b, s => do
    match f.skip s with
    | [] => .error .unclosedSet
    | ']' :: s => return (← b.close f, s)
    | '&' :: '&' :: s => readBracketFrom n f (b.operate f .inter) s
    | '-' :: '-' :: s => readBracketFrom n f (b.operate f .diff) s
    | '~' :: '~' :: s => readBracketFrom n f (b.operate f .symmDiff) s
    | '[' :: s => match readNamedClass? s with
      | some (negated, cs, s) =>
        readBracketFrom n f (b.add ⟨← f.negate negated (f.fold cs), 0⟩) s
      | none =>
        let (inner, s) := openBracket f s
        let (part, s) ← readBracketFrom n f inner s
        readBracketFrom n f (b.add part) s
    | s =>
      let (item, s) ← readSetItem f s
      readBracketFrom n f (b.add item) s

/-- Reads a set from behind its opening bracket. -/
def readBracket (f : Flags) (s : Text) : Except Malformed (SetPart × Text) :=
  let (b, rest) := openBracket f s
  readBracketFrom (s.length + 1) f b rest

end MessageHead.Pattern
