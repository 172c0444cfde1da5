/-
Entities: the body of a message as a text or as bytes, with its content type. A body comes from
a resource, which may fail to give its bytes.
-/
import MessageHead.Charset.Codec
import MessageHead.ContentType

namespace MessageHead

/-- The content of an entity. -/
inductive EntityBody where
  | text (s : Text)
  | bytes (bs : Bytes)
deriving DecidableEq, Repr

/-- A body with its content type. -/
structure Entity where
  contentType : Option ContentType
  body : EntityBody
deriving DecidableEq, Repr

namespace Entity

/-- The text, if the body is one. -/
def text? (e : Entity) : Option Text :=
  match e.body with
  | .text s => some s
  | .bytes _ => none

/-- The bytes; a text is written in UTF-8. -/
def toBytes (e : Entity) : Bytes :=
  match e.body with
  | .text s => Utf8.encode s
  | .bytes bs => bs

end Entity

/-- A source of bytes. -/
structure Resource where
  /-- The bytes, or why there are none. -/
  read : Except Text Bytes

namespace Resource

/-- Bytes at hand. -/
def ofBytes (bs : Bytes) : Resource := ⟨.ok bs⟩

/-- The bytes; a failure is an error of its own kind. -/
def bytes (r : Resource) : Except Error Bytes := r.read.mapError Error.io

/-- The text that the bytes are in a charset. -/
def text (r : Resource) (charset : Charset) : Except Error Text := r.bytes.map charset.decode

/-- That text in UTF-8. -/
def utf8 (r : Resource) (charset : Charset) : Except Error Bytes := (r.text charset).map Utf8.encode

end Resource

end MessageHead
