/-
The Content-Disposition header: a disposition type, a name and a file name. A file name in
UTF-8 or ISO-8859-1 is written twice: as an encoded word for older readers and as an extended
value, which wins when the header is read.
-/
import MessageHead.Element.Window
import MessageHead.EncodedWord
import MessageHead.ExtendedValue
import MessageHead.Text.Escape

namespace MessageHead

/-- A content disposition with its header value. -/
structure Disposition where
  kind : Text
  name : Option Text
  filename : Option Text
  charset : Option Charset
  canonical : Text
deriving DecidableEq, Repr

namespace Disposition

/-- What a disposition is made from. -/
structure Draft where
  kind : Text
  name : Option Text := none
  filename : Option Text := none
  charset : Option Charset := none
deriving DecidableEq, Repr

/-- The draft with a file name, if that satisfies `p`. -/
def Draft.withFilenameIf (d : Draft) (p : Text → Bool) (filename : Text) : Draft :=
  if p filename then { d with filename := some filename } else d

/-- A parameter in quotes. -/
def quotedParameter (name value : Text) : Text := ';' :: ' ' :: name ++ '=' :: Escape.quote value

/-- The file name parameters of a header value. -/
def renderFilename (filename : Text) : Option Charset → Except PreconditionError Text
  | none | some .usAscii => .ok (quotedParameter "filename".toList filename)
  | some charset =>
    (ExtendedValue.encode charset filename).map fun extended =>
      "; filename=\"".toList ++ EncodedWord.encode charset filename ++
        "\"; filename*=".toList ++ extended

/-- The disposition of a draft. The type must not be blank, and a file name must not need a
charset that extended values lack. -/
def Draft.build (d : Draft) : Except PreconditionError Disposition :=
  if (Text.trim d.kind).isEmpty then .error (.emptyArgument "disposition type".toList)
  else
    let named := match d.name with
      | some name => quotedParameter "name".toList name
      | none => []
    let filed := match d.filename with
      | some filename => renderFilename filename d.charset
      | none => .ok []
    filed.map fun filed => ⟨d.kind, d.name, d.filename, d.charset, d.kind ++ named ++ filed⟩

/-- The file name of an element and the charset it was written in. -/
def readFilename (e : Element) : Except Error (Option Text × Option Charset) :=
  match (e.parameter? "filename*".toList).bind Parameter.value with
  | some extended =>
    (ExtendedValue.read extended).map fun (charset, filename) => (some filename, some charset)
  | none =>
    match (e.parameter? "filename".toList).bind Parameter.value with
    | some written => (EncodedWord.decode written).map fun filename => (some filename, none)
    | none => .ok (none, none)

/-- Reads a header value. -/
def parse (value : Text) : Except Error Disposition :=
  match Element.parse value with
  | .error e => .error (.parse e)
  | .ok [] => .error (.parse .empty)
  | .ok (e :: _) =>
    match readFilename e with
    | .error e => .error e
    | .ok (filename, charset) =>
      let name := (e.parameter? "name".toList).bind Parameter.value
      (Draft.build ⟨e.name, name, filename, charset⟩).mapError .precondition

end Disposition

end MessageHead
