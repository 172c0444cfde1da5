/-
The states for a set of characters. Beyond ASCII a character has several bytes, and states are
shared between the sequences of byte ranges that make up the set. The states made so far are kept
in a fixed number of slots, where a later state takes the slot of an earlier one: so a state may
be made twice, and whether it is depends on the numbers that the states happen to have.
-/
import MessageHead.Pattern.Automaton.Tally
import MessageHead.Pattern.ByteRange
import MessageHead.Text.RangeSet
import Std.Data.HashMap

namespace MessageHead.Pattern

/-! ## Slots -/

/-- What has been made while the states for a set are added: the states that can be shared are
found by what they do, in the slot that its numbers determine. -/
structure Workshop where
  tally : Tally
  /-- How many slots there are. -/
  size : Nat
  slots : Std.HashMap Nat (List Nat × Nat) := {}

namespace Workshop

/-- Mixes a number into a hash. -/
def mixNumber (h : UInt64) (n : Nat) : UInt64 := (h ^^^ n.toUInt64) * 1099511628211

/-- The slot for numbers. -/
def slot (w : Workshop) (key : List Nat) : Nat :=
  (key.foldl mixNumber 14695981039346656037).toNat % w.size

/-- A state that does what the numbers say: the one in its slot, or a new one with `ranges` byte
ranges. -/
def state (w : Workshop) (key : List Nat) (ranges : Nat) : Nat × Workshop :=
  let slot := w.slot key
  let new := (w.tally.states,
    { w with tally := w.tally.add ranges, slots := w.slots.insert slot (key, w.tally.states) })
  match w.slots[slot]? with
  | some (key', state) => if key' = key then (state, w) else new
  | none => new

end Workshop

/-! ## Reading forwards -/

/-- A state that is not finished: more byte ranges may lead out of it. -/
structure Branching where
  /-- The byte ranges so far with the states they lead to, as numbers, the last first. -/
  ways : List (List Nat) := []
  /-- A byte range that leads to another state that is not finished, or to the end. -/
  last : ByteRange

namespace Branching

/-- The ways out of the state when its last byte range leads to `target`. -/
def waysTo (b : Branching) (target : Nat) : List (List Nat) :=
  [b.last.1.toNat, b.last.2.toNat, target] :: b.ways

/-- Finishes the states on a path, the last of which leads to the end. -/
def finish (w : Workshop) (stop : Nat) : List Branching → Nat × Workshop
  | [] => (stop, w)
  | b :: path =>
    let (target, w) := finish w stop path
    let ways := b.waysTo target
    w.state ways.reverse.flatten ways.length

/-- Adds a sequence of byte ranges. It shares the path as far as the ranges are the same; the
states behind are finished. -/
def insert (w : Workshop) (stop : Nat) : List Branching → List ByteRange → List Branching × Workshop
  | b :: path, r :: rs =>
    if b.last == r then
      let (path, w) := insert w stop path rs
      (b :: path, w)
    else
      let (target, w) := finish w stop path
      ({ ways := b.waysTo target, last := r } :: rs.map fun r => { last := r }, w)
  | _, rs => (rs.map fun r => { last := r }, w)

/-- The states for sequences of byte ranges that ascend. -/
def build (t : Tally) (sequences : List (List ByteRange)) : Tally :=
  let start : Workshop := { tally := t.add, size := 10000 }
  let (path, w) := sequences.foldl (fun (path, w) rs => insert w t.states path rs) ([], start)
  (finish w t.states path).2.tally

end Branching

/-! ## Reading backwards -/

/-- The states that read a sequence of byte ranges from its end, when `target` comes after its
first. -/
def Workshop.addBackward (w : Workshop) (target : Nat) : List ByteRange → Workshop
  | [] => { w with tally := w.tally.fork 1 }
  | r :: rs =>
    let (state, w) := w.state [target, r.1.toNat, r.2.toNat] 0
    w.addBackward state rs

/-- The states that read sequences of byte ranges from their ends. -/
def buildBackward (t : Tally) (sequences : List (List ByteRange)) : Tally :=
  let start : Workshop := { tally := t.addMany 2, size := 1000 }
  (sequences.foldl (fun w rs => w.addBackward (t.states + 1) rs) start).tally

/-! ## Either way -/

/-- The states for a set. In ASCII one state does. -/
def buildSet (d : Direction) (set : RangeSet) : Tally → Tally :=
  if set.isAscii then fun t => t.add.add set.ranges.length
  else
    let sequences := set.ranges.flatMap ByteRange.sequences
    fun t => match d with
      | .forward => Branching.build t sequences
      | .backward => buildBackward t sequences

end MessageHead.Pattern
