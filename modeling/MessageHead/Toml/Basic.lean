/-
TOML documents: values, and the rules about which table a key goes into. A table is defined
once. Headers and dotted keys make the tables on their way; such a table can still be given a
header of its own, or more dotted keys, but not both.
-/
import MessageHead.OrderedTable
import MessageHead.Text.Basic

namespace MessageHead.Toml

/-- Why a document cannot be read. -/
inductive Malformed where
  /-- A quoted text is not closed, or holds what it must not. -/
  | text
  /-- There is no key where one must be. -/
  | key
  /-- There is no value where one must be. -/
  | value
  /-- A number does not fit any type of numbers. -/
  | number
  /-- A list, an inline table or a header is not closed. -/
  | unclosed
  /-- Something else follows on a line. -/
  | line
  /-- Lists and inline tables are nested too deep, or a key has too many parts. -/
  | nesting
  /-- A key is defined twice. -/
  | duplicate (key : Text)
  /-- A key goes through something that cannot hold it. -/
  | closed (key : Text)
deriving DecidableEq, Repr

/-- How a table came to be. -/
inductive Origin where
  /-- It has a header, or it is the whole document. -/
  | header
  /-- A header of a table below it passed through. -/
  | passed
  /-- A dotted key passed through. -/
  | dotted
  /-- It was written in braces. -/
  | inline
deriving DecidableEq, Repr

/-- A value. -/
inductive Value where
  | text (s : Text)
  | boolean (b : Bool)
  | integer (n : Int)
  /-- A floating-point number, as it was written. -/
  | float (written : Text)
  /-- A date, a time or both, as they were written. -/
  | moment (written : Text)
  /-- A list; `growing` when it is a list of tables with headers. -/
  | list (growing : Bool) (items : List Value)
  | table (origin : Origin) (entries : List (Text × Value))

/-- A table. -/
structure Table where
  origin : Origin
  entries : OrderedTable Text Value := []

namespace Table

/-- The table as a value. -/
def value (t : Table) : Value := .table t.origin t.entries

/-- The value of a key. -/
def get? (t : Table) (key : Text) : Option Value :=
  OrderedTable.get? (· == key) t.entries

/-- Gives a key a value, in its place or at the end. -/
def put (t : Table) (key : Text) (v : Value) : Table :=
  { t with entries := OrderedTable.put (· == key) key v t.entries }

/-- Changes the table at the end of a path, making the tables that are missing on the way. In a
list of tables the way leads through the last one. A dotted key may not pass through a table
with a header, and nothing passes through a table in braces. -/
def modify (dotted : Bool) (change : Table → Except Malformed Table) :
    List Text → Table → Except Malformed Table
  | [], t => change t
  | key :: path, t =>
    let passed := fun child => (modify dotted change path child).map value
    match t.get? key with
    | none => (passed ⟨if dotted then .dotted else .passed, []⟩).map (t.put key)
    | some (.table origin entries) =>
      if origin == .inline || (dotted && origin == .header) then .error (.closed key)
      else (passed ⟨origin, entries⟩).map (t.put key)
    | some (.list true items) => match items.getLast? with
      | some (.table origin entries) =>
        (passed ⟨origin, entries⟩).map fun last => t.put key (.list true (items.dropLast ++ [last]))
      | _ => .error (.closed key)
    | some _ => .error (.closed key)

/-- Enters a value under a dotted key. -/
def enter (t : Table) (path : List Text) (key : Text) (v : Value) : Except Malformed Table :=
  modify true (fun t =>
    if (t.origin == .dotted) == path.isEmpty || (t.get? key).isSome then .error (.duplicate key)
    else .ok (t.put key v)) path t

/-- Opens the table of a header. -/
def openTable (t : Table) (path : List Text) (key : Text) : Except Malformed Table :=
  modify false (fun t => match t.get? key with
    | none => .ok (t.put key (.table .header []))
    | some (.table .passed entries) => .ok (t.put key (.table .header entries))
    | some _ => .error (.duplicate key)) path t

/-- Opens a further table in the list of a header. -/
def openListTable (t : Table) (path : List Text) (key : Text) : Except Malformed Table :=
  modify false (fun t => match t.get? key with
    | none => .ok (t.put key (.list true [.table .header []]))
    | some (.list true items) => .ok (t.put key (.list true (items ++ [.table .header []])))
    | some _ => .error (.duplicate key)) path t

end Table

end MessageHead.Toml
