/-
Tables of media types as text, one entry to a logical line:

    # a comment
    text/html = HTML document | html,htm
    application/x-long = A description that \
        goes on | lng

A physical line that ends in an odd number of backslashes goes on with the next one. Blank
lines and lines that begin with `#` or `!` are left out where a logical line could begin.
-/
import MessageHead.MediaType.Parser
import MessageHead.Registry.Basic

namespace MessageHead.Registry

/-! ## Lines -/

/-- The physical lines of a text, without their line feeds and a carriage return before one.
There is no line after the last line feed. -/
def physicalLines (s : Text) : List Text :=
  let parts := Text.pieces '\n' s
  let last := parts.getLastD []
  (parts.dropLast.map fun line => (Text.dropTail? ['\r'] line).getD line) ++
    (if last.isEmpty then [] else [last])

/-- The line begins a comment. -/
def isComment : Text → Bool
  | '#' :: _ => true
  | '!' :: _ => true
  | _ => false

/-- The line ends in an odd number of backslashes. -/
def continues (line : Text) : Bool := (line.reverse.takeWhile (· == '\\')).length % 2 == 1

/-- The logical lines that `pending` begins, if it is not empty, and the physical lines go on
with. -/
def logicalFrom (pending : Text) : List Text → List Text
  | [] => if pending.isEmpty then [] else [pending]
  | raw :: rest =>
    let line := if pending.isEmpty then Text.trim raw else Text.trimStart raw
    if pending.isEmpty && (line.isEmpty || isComment line) then logicalFrom pending rest
    else if continues line then logicalFrom (pending ++ line.dropLast) rest
    else (pending ++ line) :: logicalFrom [] rest

/-- The logical lines of a text. -/
def logicalLines (s : Text) : List Text := logicalFrom [] (physicalLines s)

/-! ## Entries -/

/-- The key and the value of a line, cut at its first equals sign or colon. -/
def property? (line : Text) : Option (Text × Text) :=
  match Text.cutAt (fun c => c == '=' || c == ':') line with
  | none => none
  | some (key, value) =>
    let key := Text.trim key
    if key.isEmpty then none else some (key, value)

/-- Description and extensions: what stands before a bar, and the list behind it. -/
def readValue (value : Text) : Text × List Text :=
  match Text.cut '|' value with
  | some (description, extensions) =>
    (Text.trim description, (Text.pieces ',' extensions).map Text.trim)
  | none => (Text.trim value, [])

/-- The media type, description and extensions of a line, unless it is malformed. -/
def readLine? (line : Text) : Option (MediaType × Text × List Text) :=
  match property? line with
  | none => none
  | some (key, value) =>
    match MediaType.parse key with
    | .error _ => none
    | .ok m => some (m, readValue value)

/-- The entries of a table; malformed lines are left out. -/
def readTable (source : Text) : List (MediaType × Text × List Text) :=
  (logicalLines source).filterMap readLine?

/-- Registers the entries of a table and counts them. -/
def load (r : Registry) (source : Text) : Nat × Registry :=
  let rows := readTable source
  (rows.length, rows.foldl (fun r row => r.register row.1 row.2.1 row.2.2) r)

end MessageHead.Registry
