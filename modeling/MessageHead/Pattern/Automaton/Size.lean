/-
How much room the automata of an expression take. An expression is accepted if an automaton that
reads a text forwards and one that reads it backwards both stay within the limit.
-/
import MessageHead.Pattern.Automaton.Sets
import MessageHead.Pattern.Automaton.Words
import MessageHead.Pattern.Basic

namespace MessageHead.Pattern

/-! ## Facts about an expression -/

namespace Expr

/-- How many bytes the expression takes at least, if it can match anything at all. -/
def minLength? : Expr → Option Nat
  | empty | look _ => some 0
  | literal s => some (Utf8.size s)
  | chars set => set.ranges.head?.map fun r => (ByteRange.bytes r.1).length
  | group p => p.minLength?
  | seq p q => p.minLength?.bind fun m => q.minLength?.map (m + ·)
  | alt p q => p.minLength?.bind fun m => q.minLength?.map (min m)
  | times p least _ _ => p.minLength?.map (least * ·)

/-- The assertion holds wherever the expression begins. -/
def opensWith (a : Assertion) : Expr → Bool
  | empty | literal _ | chars _ => false
  | look b => a == b
  | group p => p.opensWith a
  | seq p q => p.opensWith a || p.isHollow && q.opensWith a
  | alt p q => p.opensWith a && q.opensWith a
  | times p least _ _ => 0 < least && p.opensWith a

/-- The assertion holds wherever the expression ends. -/
def closesWith (a : Assertion) : Expr → Bool
  | empty | literal _ | chars _ => false
  | look b => a == b
  | group p => p.closesWith a
  | seq p q => q.closesWith a || q.isHollow && p.closesWith a
  | alt p q => p.closesWith a && q.closesWith a
  | times p least _ _ => 0 < least && p.closesWith a

end Expr

/-! ## Pieces -/

/-- A branch of a choice: how it is made, and its bytes in the order in which they are read if
it is a literal. -/
structure Branch where
  make : Tally → Piece
  word? : Option Bytes := none

/-- Makes several branches and what leads to them and away from them. -/
def makeChoice : List Branch → Tally → Piece
  | [], t => ⟨t, false⟩
  | [b], t => b.make t
  | b :: c :: more, t =>
    match (b :: c :: more).mapM Branch.word? with
    | some words => ⟨Words.buildAll words t, false⟩
    | none =>
      let t := ((c.make (b.make t).join).join.addMany 2).fork 2
      ⟨more.foldl (fun t b => (b.make t).join.fork 1) t, false⟩

/-- Makes a piece `count` times. -/
def makeCopies (make : Tally → Piece) : Nat → Tally → Piece
  | 0, t => ⟨t.add, false⟩
  | count + 1, t => Piece.extend make count (make t)

/-- Makes a piece that can be repeated without end. A piece that can match the empty text is
repeated at least once, and left out as a whole. -/
def makeEndless (make : Tally → Piece) (hollow : Bool) : Nat → Tally → Piece
  | 0, t =>
    if hollow then ⟨((make t).join.addMany 3).fork 4, false⟩
    else ⟨(make t.add).join.fork 1, true⟩
  | 1, t => ⟨(make t).join.add.fork 1, true⟩
  | least + 1, t => ⟨(make (makeCopies make least t).join).join.add.fork 1, true⟩

/-- Makes a repetition. -/
def makeTimes (make : Tally → Piece) (hollow : Bool) (least : Nat) (most? : Option Nat)
    (t : Tally) : Piece :=
  match most? with
  | none => makeEndless make hollow least t
  | some most =>
    if least == 0 && most == 1 then ⟨((make t.add).join.add).fork 2, false⟩
    else
      let p := makeCopies make least t
      if most == least then p
      else
        let p := Piece.extendOptional make (most - least) { p with tally := p.tally.add }
        ⟨p.join, false⟩

/-- The branches of an expression, of which only a choice has several. -/
def Expr.makers (d : Direction) : Expr → List Branch
  | .empty => [⟨fun t => ⟨t.add, false⟩, none⟩]
  | .look _ => [⟨fun t => ⟨t.add, false⟩, none⟩]
  | .literal s =>
    let bytes := Utf8.encode s
    [⟨fun t => ⟨t.addMany bytes.length, false⟩,
      some (if d == .forward then bytes else bytes.reverse)⟩]
  | .chars set =>
    let build := buildSet d set
    [⟨fun t => ⟨if t.isFull then t else build t, false⟩, none⟩]
  | .group p =>
    let make := makeChoice (p.makers d)
    match d with
    | .forward => [⟨fun t => ⟨(make t.add).join.add, false⟩, none⟩]
    | .backward => [⟨make, none⟩]
  | .seq p q =>
    let first := makeChoice (p.makers d)
    let second := makeChoice (q.makers d)
    match d with
    | .forward => [⟨fun t => second (first t).join, none⟩]
    | .backward => [⟨fun t => first (second t).join, none⟩]
  | .alt p q => p.makers d ++ q.makers d
  | .times p least most? _ =>
    let hollow := p.minLength?.all (· == 0)
    [⟨makeTimes (makeChoice (p.makers d)) hollow least most?, none⟩]

/-! ## Whole automata -/

/-- What an automaton begins with: an empty state where the expression is tied to the edge at
which reading begins, or else a loop over any bytes. -/
def startOf (tied : Bool) : Tally :=
  if tied then Tally.add {} else (((Tally.add {}).add.add 1).fork 2)

/-- The automaton of an expression. One that reads forwards notes where the match begins and
ends. -/
def Expr.automaton (d : Direction) (e : Expr) : Tally :=
  let make := makeChoice (e.makers d)
  match d with
  | .forward => (make (startOf (e.opensWith .textStart)).add).join.addMany 2
  | .backward => (make (startOf (e.closesWith .textEnd))).join.add

/-- A rough bound on the room that an expression takes. -/
def Expr.bulk : Expr → Nat
  | .empty | .look _ => 64
  | .literal s => 512 * s.length
  | .chars set => 64 + (if set.isAscii then 8 else 4096) * set.ranges.length
  | .group p => p.bulk + 64
  | .seq p q => p.bulk + q.bulk + 8
  | .alt p q => p.bulk + q.bulk + 128
  | .times p least most? _ => (max least (most?.getD 0) + 1) * (p.bulk + 64) + 128

/-- The automata of the expression take no more room than they may. Nearly always the rough
bound shows that already. -/
def Expr.fits (e : Expr) : Bool :=
  e.bulk + 512 ≤ sizeLimit ||
    !(e.automaton .forward).isFull && !(e.automaton .backward).isFull

end MessageHead.Pattern
