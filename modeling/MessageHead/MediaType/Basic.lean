/-
Media types: a type, a subtype and parameters. Two media types are equal when they agree up to
ASCII case in type, subtype and parameter names and exactly in parameter values; the order of
the parameters does not matter.
-/
import MessageHead.Charset.Basic
import MessageHead.OrderedTable
import MessageHead.Text.Escape

namespace MessageHead

/-- A media type. Its name is put together once, when the media type is made, and kept: what sets a
parameter copies it. -/
structure MediaType where
  mainType : Text
  subtype : Text
  parameters : OrderedTable Text Text := []
  /-- Type and subtype with a slash between them. -/
  name : Text
deriving DecidableEq, Repr

namespace MediaType

/-- The type or subtype that stands for any. -/
def wildcard : Text := ['*']

/-- The parameter that names a charset. -/
def charsetName : Text := "charset".toList

/-- The parameter that weighs a media type among others. -/
def qualityName : Text := ['q']

/-! ## Parameters -/

/-- Sets one parameter. It keeps the place and the spelling of one with the same name. -/
def setParameter (ps : OrderedTable Text Text) (name value : Text) : OrderedTable Text Text :=
  ps.put (Text.sameFold · name) name value

/-- A media type from its parts. An empty subtype becomes the wildcard, and of several
parameters with one name the last value is kept. -/
def ofParts (mainType subtype : Text) (ps : List (Text × Text)) : MediaType :=
  let subtype := if subtype.isEmpty then wildcard else subtype
  { mainType
    subtype
    parameters := ps.foldl (fun t p => setParameter t p.1 p.2) []
    name := mainType ++ '/' :: subtype }

/-- The value of a parameter, whatever the case of its name. -/
def parameter? (m : MediaType) (name : Text) : Option Text :=
  m.parameters.get? (Text.sameFold · name)

/-- The charset the media type names. -/
def charset? (m : MediaType) : Option Text := m.parameter? charsetName

/-- The media type with one parameter set. -/
def withParameter (m : MediaType) (name value : Text) : MediaType :=
  { m with parameters := setParameter m.parameters name value }

/-- The media type with its charset parameter set. -/
def withCharset (m : MediaType) (c : Charset) : MediaType := m.withParameter charsetName c.name

/-- The media type without its parameters. -/
def bare (m : MediaType) : MediaType := ofParts m.mainType m.subtype []

/-! ## Kinds -/

/-- Any type. -/
def anyType (m : MediaType) : Bool := m.mainType == wildcard

/-- Any subtype. -/
def anySubtype (m : MediaType) : Bool := m.subtype == wildcard

/-- A textual type. -/
def isText (m : MediaType) : Bool := Text.sameFold m.mainType "text".toList

/-- The two overlap: each part is the same in both, or any in one of them. -/
def compatible (a b : MediaType) : Bool :=
  (a.anyType || b.anyType || Text.sameFold a.mainType b.mainType) &&
    (a.anySubtype || b.anySubtype || Text.sameFold a.subtype b.subtype)

/-! ## Equality -/

/-- The order of names and values that a key lists its parameters in. -/
def parameterLe (p q : Text × Text) : Bool :=
  decide (p.1 < q.1) || (p.1 == q.1 && !decide (q.2 < p.2))

/-- The parameters with their names in lower case, sorted. -/
def sortedParameters (m : MediaType) : List (Text × Text) :=
  (m.parameters.map fun (n, v) => (Text.lower n, v)).mergeSort parameterLe

/-- What two equal media types have in common, and what one is hashed by. -/
def key (m : MediaType) : Text × Text × List (Text × Text) :=
  (Text.lower m.mainType, Text.lower m.subtype, m.sortedParameters)

/-- Two media types are equal. -/
def equal (a b : MediaType) : Bool := a.key == b.key

/-- How many different media types there are in a list. -/
def countDistinct (ms : List MediaType) : Nat := (ms.map key).eraseDups.length

/-! ## Written form -/

/-- Characters that a value is not written without quotes with. -/
def specials : Text :=
  ['(', ')', '<', '>', '@', ',', ';', ':', '\\', '"', '/', '[', ']', '?', '=', '\x7b', '\x7d', ' ',
    '\t']

/-- The value is written in quotes. -/
def needsQuotes (value : Text) : Bool := value.isEmpty || value.any specials.contains

/-- A value as it is written. -/
def renderValue (value : Text) : Text := if needsQuotes value then Escape.quote value else value

/-- A parameter as it is written. -/
def renderParameter (p : Text × Text) : Text := ';' :: ' ' :: p.1 ++ '=' :: renderValue p.2

/-- The media type as it is written into a header. -/
def render (m : MediaType) : Text := m.name ++ m.parameters.flatMap renderParameter

end MediaType

end MessageHead
