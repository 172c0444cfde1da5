/-
Matching by sets of positions. A text of `n` characters has `n + 1` positions; a set of them is
a list of `n + 1` truth values. An expression carries a set of positions to the set of those
it can reach from them, so every expression is matched in bounded time.
-/
import MessageHead.Pattern.Basic
import MessageHead.Pattern.CharClass

namespace MessageHead.Pattern

/-- A set of positions. -/
abbrev Positions := List Bool

namespace Positions

/-- The positions of either set. -/
def union (a b : Positions) : Positions := List.zipWith or a b

/-- Where one step leads that takes a character satisfying `p`. -/
def step (p : Char → Bool) (input : Text) (at? : Positions) : Positions :=
  false :: List.zipWith (fun here c => here && p c) at? input

/-- Adds what `f` reaches, at most `n` times or until nothing is added. -/
def saturate (f : Positions → Positions) : Nat → Positions → Positions
  | 0, s => s
  | n + 1, s =>
    let s' := union s (f s)
    if s' == s then s else saturate f n s'

/-- What `n` applications of `f` reach; once one changes nothing, no other will. -/
def iterate (f : Positions → Positions) : Nat → Positions → Positions
  | 0, s => s
  | n + 1, s =>
    let s' := f s
    if s' == s then s else iterate f n s'

end Positions

/-! ## Assertions -/

/-- A position with what is before and behind it. -/
structure Place where
  before : Option Char
  behind : Option Char

/-- The positions of a text that goes on behind `before`. -/
def placesFrom (before : Option Char) : Text → List Place
  | [] => [⟨before, none⟩]
  | c :: s => ⟨before, some c⟩ :: placesFrom (some c) s

/-- The positions of a text. -/
def places (input : Text) : List Place := placesFrom none input

/-- The neighbour is a character of a word. -/
def isWordAt (ascii : Bool) : Option Char → Bool
  | none => false
  | some c => if ascii then CharClass.asciiWord.contains c else Property.word.contains c

/-- The assertion holds at a position. -/
def Assertion.holds (p : Place) : Assertion → Bool
  | .textStart => p.before.isNone
  | .textEnd => p.behind.isNone
  | .lineStart crlf =>
    p.before.isNone || p.before == some '\n' ||
      (crlf && p.before == some '\r' && p.behind != some '\n')
  | .lineEnd crlf =>
    p.behind.isNone || (crlf && p.behind == some '\r') ||
      (p.behind == some '\n' && !(crlf && p.before == some '\r'))
  | .wordEdge ascii => isWordAt ascii p.before != isWordAt ascii p.behind
  | .noWordEdge ascii => isWordAt ascii p.before == isWordAt ascii p.behind
  | .wordStart ascii => !isWordAt ascii p.before && isWordAt ascii p.behind
  | .wordEnd ascii => isWordAt ascii p.before && !isWordAt ascii p.behind
  | .afterNoWord ascii => !isWordAt ascii p.before
  | .beforeNoWord ascii => !isWordAt ascii p.behind

/-! ## Expressions -/

/-- The positions of the text that the expression reaches from a set of positions. -/
def Expr.advance (input : Text) : Expr → Positions → Positions
  | .empty, s => s
  | .literal text, s => text.foldl (fun s c => Positions.step (· == c) input s) s
  | .chars set, s => s.step set.contains input
  | .look a, s => List.zipWith (fun here place => here && a.holds place) s (places input)
  | .group p, s => p.advance input s
  | .seq p q, s => q.advance input (p.advance input s)
  | .alt p q, s => (p.advance input s).union (q.advance input s)
  | .times p min max _, s =>
    let least := Positions.iterate (p.advance input) min s
    match max with
    | none => Positions.saturate (p.advance input) input.length least
    | some n => Positions.saturate (p.advance input) (n - min) least

/-- The expression matches some part of the text. -/
def Expr.matchesIn (p : Expr) (input : Text) : Bool :=
  (p.advance input (List.replicate (input.length + 1) true)).any id

end MessageHead.Pattern
