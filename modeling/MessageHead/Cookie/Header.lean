/-
Cookies as header values. The first segment of a header value is the name and the value of the
cookie, every further one an attribute:

    sid=abc123; Path=/; HttpOnly

Requests carry all of it, responses the first segment only.
-/
import MessageHead.Cookie.Basic
import MessageHead.Element.Quoted
import MessageHead.Text.Blank

namespace MessageHead.Cookie

/-! ## Reading -/

/-- The key of a segment and, behind the first equals sign, its value without quotes. -/
def readSegment (segment : Text) : Text × Option Text :=
  match Text.cut '=' segment with
  | some (key, value) => (Text.trim key, some (Quoted.unquote (Text.trim value)))
  | none => (segment, none)

/-- Adds the attribute of a segment, spelled as it is. A segment must have a key. -/
def addSegment (c : Cookie) (segment : Text) : Option Cookie :=
  let (key, value) := readSegment segment
  if key.isEmpty then none
  else some ⟨OrderedTable.put (· == key) key value c.attributes⟩

/-- The segments of a header value without blanks around them; empty ones are left out. -/
def segments (value : Text) : Except ParseError (List Text) :=
  (Quoted.split? ';' value).map fun gs => (gs.map Text.trim).filter fun g => !g.isEmpty

/-- Reads a header value. -/
def parse (value : Text) : Except ParseError Cookie :=
  match segments value with
  | .error e => .error e
  | .ok [] => .error .empty
  | .ok (first :: more) =>
    let (name, firstValue) := readSegment first
    if name.isEmpty then .error (.invalidCookie value)
    else
      match more.foldlM addSegment ⟨[(nameKey, some name), (valueKey, firstValue)]⟩ with
      | none => .error (.invalidCookie value)
      | some c => .ok c

/-! ## Writing -/

/-- Name and value; a value with a blank in it is put in quotes. -/
def renderPair? (c : Cookie) : Option Text :=
  c.name?.map fun name =>
    let value := c.value?.getD []
    if value.contains ' ' then name ++ '=' :: '"' :: value ++ ['"'] else name ++ '=' :: value

/-- An attribute other than name and value. -/
def renderAttribute (p : Text × Option Text) : Text :=
  if p.1 == nameKey || p.1 == valueKey then []
  else ';' :: ' ' :: p.1 ++ match p.2 with
    | some v => '=' :: v
    | none => []

/-- The header value in a request. A cookie without a name has none. -/
def renderRequest? (c : Cookie) : Option Text :=
  c.renderPair?.map fun pair => pair ++ c.attributes.flatMap renderAttribute

/-- The header value in a response. A cookie without a name has none. -/
def renderResponse? (c : Cookie) : Option Text := c.renderPair?

end MessageHead.Cookie
