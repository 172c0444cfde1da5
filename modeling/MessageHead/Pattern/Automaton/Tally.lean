/-
What has been made of an automaton: how many states it has and how many bytes it takes. A state
takes 32 bytes, one with several byte ranges 8 more for each of them, and one with several ways
out 4 more for each way.
-/

namespace MessageHead.Pattern

/-- How many bytes an automaton may take. -/
def sizeLimit : Nat := 10 * 1024 * 1024

/-- The directions in which automata read a text. -/
inductive Direction where
  | forward
  | backward
deriving DecidableEq, Repr

/-- What has been made of an automaton. -/
structure Tally where
  /-- How many states it has. -/
  states : Nat := 0
  /-- How many bytes it takes. -/
  bytes : Nat := 0
deriving DecidableEq, Repr

namespace Tally

/-- Another state, with room for `ranges` byte ranges when these are several. -/
def add (t : Tally) (ranges : Nat := 0) : Tally := ⟨t.states + 1, t.bytes + 32 + 8 * ranges⟩

/-- Another `count` states. -/
def addMany (t : Tally) (count : Nat) : Tally := ⟨t.states + count, t.bytes + 32 * count⟩

/-- Another `count` ways out of states that have several. -/
def fork (t : Tally) (count : Nat) : Tally := { t with bytes := t.bytes + 4 * count }

/-- The automaton takes too much room. -/
def isFull (t : Tally) : Bool := sizeLimit < t.bytes

end Tally

/-- What has been made of an automaton when a piece of it is complete. -/
structure Piece where
  tally : Tally
  /-- The piece ends in a state that can have several ways out. -/
  forked : Bool := false

namespace Piece

/-- What has been made when something follows on the piece. -/
def join (p : Piece) : Tally := if p.forked then p.tally.fork 1 else p.tally

/-- Makes the same piece `count` times more, each behind the one before. -/
def extend (make : Tally → Piece) : Nat → Piece → Piece
  | 0, p => p
  | count + 1, p => if p.tally.isFull then p else extend make count (make p.join)

/-- Makes the same piece `count` times more, each behind the one before, which can also be the
last. -/
def extendOptional (make : Tally → Piece) : Nat → Piece → Piece
  | 0, p => p
  | count + 1, p =>
    if p.tally.isFull then p else extendOptional make count (make (p.join.add.fork 2))

end Piece

end MessageHead.Pattern
