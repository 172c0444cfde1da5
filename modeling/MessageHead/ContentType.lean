/-
The Content-Type header: a media type, its parameters as they were written, and the charset
they name. The media type is the first element of the header value. An unknown charset is an
error in a strict reading and left out in a lenient one.
-/
import MessageHead.Charset.Label
import MessageHead.Element.Window
import MessageHead.MediaType.Parser

namespace MessageHead

/-- A content type. -/
structure ContentType where
  mediaType : MediaType
  charset : Option Charset
  /-- The parameters as they were written, repeated ones and those without a value included. -/
  parameters : List Parameter
deriving DecidableEq, Repr

namespace ContentType

/-- A media type as a content type. The charset it names must be known. -/
def ofMediaType (m : MediaType) : Except UnsupportedCharset ContentType :=
  let parameters := m.parameters.map fun (n, v) => ⟨n, some v⟩
  match m.charset? with
  | none => .ok ⟨m, none, parameters⟩
  | some name => (Charset.ofName name).map fun c => ⟨m, some c, parameters⟩

/-- The media type with a parameter that has a value. -/
def addParameter (m : MediaType) (p : Parameter) : MediaType :=
  match p.value with
  | some v => m.withParameter p.name v
  | none => m

/-- The value of the first parameter of that name. -/
def parameterOf? (ps : List Parameter) (name : Text) : Option Text :=
  (Parameter.find? name ps).bind Parameter.value

/-- Reads a header value. The charset it names may be unknown, which comes beside the result. -/
def read (value : Text) : Except ParseError (ContentType × Option UnsupportedCharset) :=
  match Element.parse value with
  | .error e => .error e
  | .ok [] => .error .empty
  | .ok (element :: _) =>
    match MediaType.parse element.name with
    | .error e => .error e
    | .ok m =>
      let ps := element.parameters
      let m := ps.foldl addParameter m
      match (parameterOf? ps MediaType.charsetName).map Charset.ofName with
      | none => .ok (⟨m, none, ps⟩, none)
      | some (.ok c) => .ok (⟨m, some c, ps⟩, none)
      | some (.error e) => .ok (⟨m, none, ps⟩, some e)

/-- Reads a header value; an unknown charset is left out. -/
def parseLenient (value : Text) : Except ParseError ContentType := (read value).map Prod.fst

/-- Reads a header value; an unknown charset is an error when the reading is `strict`. -/
def parseWith (strict : Bool) (value : Text) : Except Error ContentType :=
  match read value with
  | .error e => .error (.parse e)
  | .ok (ct, none) => .ok ct
  | .ok (ct, some e) => if strict then .error (.charset e) else .ok ct

/-- Reads a header value; an unknown charset is an error. -/
def parse (value : Text) : Except Error ContentType := parseWith true value

/-- Type and subtype. -/
def name (ct : ContentType) : Text := ct.mediaType.name

/-- The charset, or another one when there is none. -/
def charsetOr (ct : ContentType) (default : Charset) : Charset := ct.charset.getD default

/-- The value of the first parameter of that name, as it was written. -/
def parameter? (ct : ContentType) (name : Text) : Option Text := parameterOf? ct.parameters name

/-- The header value. -/
def render (ct : ContentType) : Text := ct.mediaType.render

/-- Two content types are equal: in media type, charset and parameters as written. -/
def equal (a b : ContentType) : Bool :=
  a.mediaType.equal b.mediaType && a.charset == b.charset && a.parameters == b.parameters

end ContentType

end MessageHead
