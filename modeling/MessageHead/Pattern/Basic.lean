/-
Patterns: regular expressions over characters, with assertions about the neighbours of a
position. What a pattern captures does not matter here, only whether it matches.

Expressions are kept in a simple form by the functions that build them: a sequence has no
sequence, no empty part and no two literals side by side in it, and a choice has no choice in
it. Both are pairs whose second half goes on. The form decides how much room an expression
takes.
-/
import MessageHead.Text.RangeSet

namespace MessageHead.Pattern

/-- What a position between two characters can be asked for. -/
inductive Assertion where
  /-- The text begins here. -/
  | textStart
  /-- The text ends here. -/
  | textEnd
  /-- A line begins here; `crlf` when carriage returns end lines too. -/
  | lineStart (crlf : Bool)
  /-- A line ends here; `crlf` when carriage returns end lines too. -/
  | lineEnd (crlf : Bool)
  /-- A word begins or ends here. -/
  | wordEdge (ascii : Bool)
  /-- No word begins or ends here. -/
  | noWordEdge (ascii : Bool)
  /-- A word begins here. -/
  | wordStart (ascii : Bool)
  /-- A word ends here. -/
  | wordEnd (ascii : Bool)
  /-- What is before this position is not a character of a word. -/
  | afterNoWord (ascii : Bool)
  /-- What is behind this position is not a character of a word. -/
  | beforeNoWord (ascii : Bool)
deriving DecidableEq, Repr

/-- A regular expression. -/
inductive Expr where
  /-- The empty text. -/
  | empty
  /-- These characters. -/
  | literal (s : Text)
  /-- One character of a set. -/
  | chars (set : RangeSet)
  /-- The empty text where an assertion holds. -/
  | look (a : Assertion)
  /-- A group that captures what it matches. -/
  | group (p : Expr)
  /-- One after the other. -/
  | seq (p q : Expr)
  /-- One or the other. -/
  | alt (p q : Expr)
  /-- From `min` to `max` times, or any number of times from `min` on; `lazy` when fewer times
  are tried first. -/
  | times (p : Expr) (min : Nat) (max : Option Nat) (lazy : Bool)
deriving DecidableEq

namespace Expr

/-- The expression matches the empty text only, wherever it matches. -/
def isHollow : Expr → Bool
  | empty | look _ => true
  | literal _ | chars _ => false
  | group p => p.isHollow
  | seq p q => p.isHollow && q.isHollow
  | alt p q => p.isHollow && q.isHollow
  | times p _ _ _ => p.isHollow

/-- The expression captures something. -/
def captures : Expr → Bool
  | empty | literal _ | chars _ | look _ => false
  | group _ => true
  | seq p q => p.captures || q.captures
  | alt p q => p.captures || q.captures
  | times p _ _ _ => p.captures

/-! ## Sets and repetitions -/

/-- One character of a set. -/
def ofSet (set : RangeSet) : Expr :=
  match set.only? with
  | some c => literal [c]
  | none => chars set

/-- A repetition. Repeating what takes no character is the same as having it once. -/
def repeated (p : Expr) (min : Nat) (max : Option Nat) (lazy : Bool) : Expr :=
  let (min, max) := if p.isHollow then (Nat.min min 1, some (Nat.min (max.getD 1) 1)) else (min, max)
  if min == 0 && max == some 0 then empty
  else if min == 1 && max == some 1 then p
  else times p min max lazy

/-! ## Sequences -/

/-- The parts of a sequence. -/
def parts : Expr → List Expr
  | empty => []
  | seq p q => p :: q.parts
  | p => [p]

/-- Joins literals that stand side by side. -/
def joinLiterals : List Expr → List Expr
  | [] => []
  | literal s :: ps => match joinLiterals ps with
    | literal t :: ps => literal (s ++ t) :: ps
    | ps => literal s :: ps
  | p :: ps => p :: joinLiterals ps

/-- Parts one after the other. -/
def chain : List Expr → Expr
  | [] => empty
  | [p] => p
  | p :: ps => seq p (chain ps)

/-- Expressions one after the other. -/
def sequence (ps : List Expr) : Expr := chain (joinLiterals (ps.flatMap parts))

/-! ## Choices -/

/-- The branches of a choice. -/
def branches : Expr → List Expr
  | alt p q => p :: q.branches
  | p => [p]

/-- Any of several branches. -/
def anyOf : List Expr → Expr
  | [] => chars .empty
  | [p] => p
  | p :: ps => alt p (anyOf ps)

/-- The character of a literal that has no other. -/
def char? : Expr → Option Char
  | literal [c] => some c
  | _ => none

/-- The set that an expression asks one character of. -/
def set? : Expr → Option RangeSet
  | chars set => some set
  | _ => none

/-- Expressions to choose from. A choice between characters or between sets is a set. -/
def merged (ps : List Expr) : Expr :=
  match ps.flatMap branches with
  | [p] => p
  | ps => match ps.mapM char?, ps.mapM set? with
    | some cs, _ => ofSet (.ofRanges (cs.map fun c => (c.toNat, c.toNat)))
    | none, some sets => ofSet (.unions sets)
    | none, none => anyOf ps

/-- The parts with which two sequences begin. No two groups that capture are the same. -/
def sharedFront : List Expr → List Expr → List Expr
  | p :: ps, q :: qs => if p = q && !p.captures then p :: sharedFront ps qs else []
  | _, _ => []

/-- The parts with which all of several sequences begin. -/
def commonFront : List Expr → List Expr
  | [] => []
  | p :: ps => ps.foldl (fun front q => sharedFront front q.parts) p.parts

/-- Expressions to choose from. What all branches begin with is asked for once, if each branch
is a sequence of several parts. -/
def choice (ps : List Expr) : Expr :=
  let whole := merged ps
  match whole.branches with
  | [_] => whole
  | branches =>
    let front := commonFront branches
    if front.isEmpty || branches.any (·.parts.length < 2) then whole
    else
      let rest := branches.map fun p => sequence (p.parts.drop front.length)
      sequence (front ++ [merged rest])

end Expr

end MessageHead.Pattern
