/-
The states for a choice between literals: a tree in which literals that begin alike share a way.
A literal that ends where others go on divides the ways out of a state into runs, because it has
to be tried between the literals that stand before and behind it.
-/
import MessageHead.Pattern.Automaton.Tally
import MessageHead.Text.Basic

namespace MessageHead.Pattern.Words

/-- The runs of words between those that are at their end. -/
def runs : List Bytes → List (List Bytes)
  | [] => [[]]
  | [] :: words => [] :: runs words
  | word :: words => match runs words with
    | [] => [[word]]
    | run :: more => (word :: run) :: more

/-- Leaves out the second and further words in front that are at their end. -/
def dropRepeated : List Bytes → List Bytes
  | [] :: [] :: words => dropRepeated ([] :: words)
  | words => words

/-- How many ways lead out of a state: one for each run that has words, and the end between any
two runs. -/
def waysOut (runs : List (List Bytes)) : Nat :=
  runs.length - 1 + runs.countP fun run => !run.isEmpty

/-- The states for words that are read from the same place on, apart from their common end; no
word is longer than the fuel. -/
def build : Nat → List Bytes → Tally → Tally
  | 0, _, t => t
  | n + 1, words, t =>
    let runs := runs (dropRepeated words)
    runs.foldl
      (fun t run =>
        let leads := (run.filterMap List.head?).eraseDups
        let t := match leads with
          | [] => t
          | [_] => t.add
          | _ => t.add leads.length
        leads.foldl
          (fun t lead =>
            let rest := (run.filter fun word => word.head? == some lead).map List.tail
            if rest.all List.isEmpty then t else build n rest t)
          t)
      (t.add.fork (waysOut runs))

/-- The states for a choice between words. -/
def buildAll (words : List Bytes) (t : Tally) : Tally :=
  build ((words.map List.length).foldl max 0) words t.add

end MessageHead.Pattern.Words
