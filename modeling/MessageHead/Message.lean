/-
Requests and responses: header fields and a body, with writers for the fields whose values
have a structure of their own.
-/
import MessageHead.ContentType
import MessageHead.Cookie.Header
import MessageHead.Disposition
import MessageHead.Headers.Basic

namespace MessageHead

/-- A request or a response. -/
structure Message where
  headers : Headers := {}
  body : Bytes := []
deriving DecidableEq, Repr

/-- The name of the field for the content type. -/
def contentTypeName : Text := "Content-Type".toList

/-- The name of the field for the disposition. -/
def dispositionName : Text := "Content-Disposition".toList

/-- The content type of a header block, from the last field of that name. An unknown charset is
an error when the reading is `strict`. -/
def ContentType.ofHeaders (strict : Bool) (h : Headers) : Except Error (Option ContentType) :=
  match h.last? contentTypeName with
  | none => .ok none
  | some value => (ContentType.parseWith strict value).map some

/-- Reads every value of a name as a cookie. -/
def Headers.cookies (h : Headers) (name : Text) : Except ParseError (List Cookie) :=
  ((h.values? name).getD []).mapM Cookie.parse

/-! ## Requests -/

namespace Request

/-- The fields a request has a writer for. -/
inductive Field where
  | host | contentLength | contentType | contentDisposition | cookie
deriving DecidableEq, Repr

/-- The name of the field. -/
def Field.name : Field → Text
  | .host => "Host".toList
  | .contentLength => Headers.contentLengthName
  | .contentType => contentTypeName
  | .contentDisposition => dispositionName
  | .cookie => "Cookie".toList

/-- Sets a field; the value is not looked at. -/
def setField (m : Message) (f : Field) (value : Text) : Message :=
  { m with headers := m.headers.set f.name value }

/-- Sets the content type. -/
def setContentType (m : Message) (ct : ContentType) : Message := setField m .contentType ct.render

/-- Sets the disposition. -/
def setDisposition (m : Message) (d : Disposition) : Message :=
  setField m .contentDisposition d.canonical

/-- Adds a cookie; one without a name is left out. -/
def addCookie (m : Message) (c : Cookie) : Message :=
  match c.renderRequest? with
  | some value => { m with headers := m.headers.add Field.cookie.name value }
  | none => m

/-- The cookies of the request. -/
def cookies (m : Message) : Except ParseError (List Cookie) := m.headers.cookies Field.cookie.name

end Request

/-! ## Responses -/

namespace Response

/-- The fields a response has a writer for. -/
inductive Field where
  | contentLength | contentType | contentDisposition
deriving DecidableEq, Repr

/-- The name of the field. -/
def Field.name : Field → Text
  | .contentLength => Headers.contentLengthName
  | .contentType => contentTypeName
  | .contentDisposition => dispositionName

/-- The name of the field that sets a cookie. -/
def setCookieName : Text := "Set-Cookie".toList

/-- Sets a field; the value is not looked at. -/
def setField (m : Message) (f : Field) (value : Text) : Message :=
  { m with headers := m.headers.set f.name value }

/-- Sets the body with its content type and its length. -/
def setBody (m : Message) (ct : ContentType) (body : Bytes) : Message :=
  let m := setField m .contentType ct.render
  let m := setField m .contentLength (Number.decimal body.length)
  { m with body }

/-- Adds a cookie; one without a name is left out. -/
def addCookie (m : Message) (c : Cookie) : Message :=
  match c.renderResponse? with
  | some value => { m with headers := m.headers.add setCookieName value }
  | none => m

/-- The cookies of the response. -/
def cookies (m : Message) : Except ParseError (List Cookie) := m.headers.cookies setCookieName

end Response

end MessageHead
