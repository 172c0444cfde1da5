/-
Reading a media type on its own:

    media-type = type [ "/" subtype ] *( ";" parameter )
    parameter  = name "=" ( token / quoted-text )

Blanks may surround every part. A segment that is no parameter is passed over.
-/
import MessageHead.Element.Quoted
import MessageHead.MediaType.Basic
import MessageHead.Text.Blank

namespace MessageHead.MediaType

/-- The value that stands behind an equals sign: a text in quotes with its escapes resolved,
or the text itself. -/
def readValue (raw : Text) : Text :=
  let raw := Text.trim raw
  match Quoted.inner? raw with
  | some inside => Escape.decode inside
  | none => raw

/-- The parameter a segment holds, if it does. -/
def readParameter? (segment : Text) : Option (Text × Text) :=
  match Text.cut '=' (Text.trim segment) with
  | none => none
  | some (name, value) =>
    let name := Text.trim name
    if name.isEmpty then none else some (name, readValue value)

/-- Type and subtype; without a slash the subtype is the wildcard. -/
def readName (segment : Text) : Text × Text :=
  let full := Text.trim segment
  match Text.cut '/' full with
  | some (main, sub) => (Text.trim main, Text.trim sub)
  | none => (full, wildcard)

/-- Reads a media type. -/
def parse (value : Text) : Except ParseError MediaType :=
  match Quoted.split? ';' value with
  | .error e => .error e
  | .ok segments =>
    let (main, sub) := readName (segments.headD [])
    if main.isEmpty then .error (.emptyMediaType value)
    else .ok (ofParts main sub (segments.tail.filterMap readParameter?))

end MessageHead.MediaType
