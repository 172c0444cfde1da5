/-
The header fields of a message: names in the order in which they came, each with its values in
order. A name is found whatever its case and keeps the spelling it first came with. A map would
have the name in lower case for a key besides; it follows from that spelling and is not kept here
(`Headers.afterKeyed_answers`).
-/
import MessageHead.OrderedTable
import MessageHead.Text.Blank
import MessageHead.Text.Number

namespace MessageHead

/-- The header fields of a message. -/
structure Headers where
  fields : OrderedTable Text (List Text) := []
deriving DecidableEq, Repr

namespace Headers

/-! ## Looking up -/

/-- All values of a name. -/
def values? (h : Headers) (name : Text) : Option (List Text) :=
  OrderedTable.get? (Text.sameFold · name) h.fields

/-- The first value of a name. -/
def first? (h : Headers) (name : Text) : Option Text := (h.values? name).bind List.head?

/-- The last value of a name. -/
def last? (h : Headers) (name : Text) : Option Text := (h.values? name).bind List.getLast?

/-- The name is there. -/
def has (h : Headers) (name : Text) : Bool := OrderedTable.has (Text.sameFold · name) h.fields

/-- The names in order. -/
def names (h : Headers) : List Text := h.fields.map Prod.fst

/-- Every name with every of its values, in order. -/
def lines (h : Headers) : List (Text × Text) :=
  h.fields.flatMap fun (name, values) => values.map (name, ·)

/-- The number of names. -/
def size (h : Headers) : Nat := h.fields.length

/-- The name of the field that tells the length of the body. -/
def contentLengthName : Text := "Content-Length".toList

/-- The length of the body, if a valid one is given. The last value counts. -/
def contentLength? (h : Headers) : Option Nat :=
  (h.last? contentLengthName).bind fun v => Number.unsigned? Number.maxUnsigned64 (Text.trim v)

/-! ## Changing -/

/-- Changes the values of a name by `f`; a new name starts with no values. -/
def modify (h : Headers) (name : Text) (f : List Text → List Text) : Headers :=
  ⟨OrderedTable.upsert (Text.sameFold · name) name [] f h.fields⟩

/-- Adds a value behind those of a name. -/
def add (h : Headers) (name value : Text) : Headers := h.modify name (· ++ [value])

/-- Replaces all values of a name by one. -/
def set (h : Headers) (name value : Text) : Headers := h.modify name fun _ => [value]

/-- Removes a name and its values. -/
def remove (h : Headers) (name : Text) : Headers :=
  ⟨OrderedTable.erase (Text.sameFold · name) h.fields⟩

/-- Adds a list of lines one after the other. -/
def addLines (h : Headers) (ps : List (Text × Text)) : Headers :=
  ps.foldl (fun h p => h.add p.1 p.2) h

/-- Sets a list of lines one after the other. -/
def setLines (h : Headers) (ps : List (Text × Text)) : Headers :=
  ps.foldl (fun h p => h.set p.1 p.2) h

/-- The fields made by adding lines one after the other. -/
def ofLines (ps : List (Text × Text)) : Headers := addLines {} ps

/-- Adds every value of another message's fields. -/
def addAll (h other : Headers) : Headers := h.addLines other.lines

/-- Replaces the values of every name that the other has by the other's. -/
def setAll (h other : Headers) : Headers :=
  other.fields.foldl (fun h p => h.modify p.1 fun _ => p.2) h

/-- The fields of both, this message's first. -/
def merge (h other : Headers) : Headers := h.addAll other

/-- Two messages have the same names, equally spelled, with the same values; the order of the
names does not matter. -/
def equal (a b : Headers) : Bool :=
  a.fields.length == b.fields.length && a.fields.all fun p =>
    OrderedTable.first? (Text.sameFold · p.1) b.fields == some p

/-! ## Written form -/

/-- One line of a header block. -/
def renderLine (p : Text × Text) : Text := p.1 ++ ':' :: ' ' :: p.2 ++ ['\r', '\n']

/-- The lines of the header block, without the blank line that ends it. -/
def render (h : Headers) : Text := h.lines.flatMap renderLine

end Headers

end MessageHead
