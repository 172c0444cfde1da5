/-
Why a header value is refused. Each type lists causes; `message` is the one place that puts a
cause into words.
-/
import MessageHead.Text.Literal

namespace MessageHead

/-- A header value does not follow its grammar. -/
inductive ParseError where
  /-- The value holds nothing. -/
  | empty
  /-- A quoted text is not closed; `opened` runs from its opening quote to the end. -/
  | unterminatedQuote (opened : Text)
  /-- `found` follows a quoted value, `offset` bytes into `input`. -/
  | unexpectedCharacter (input : Text) (found : Char) (offset : Nat)
  /-- There is no type in front of the slash. -/
  | emptyMediaType (input : Text)
  /-- A segment has no key. -/
  | invalidCookie (input : Text)
  /-- An encoded value is malformed, or a window does not fit its buffer. -/
  | invalidEncodedValue (input : Text)
deriving DecidableEq, Repr

/-- No charset answers to `name`, given here as it was written. -/
structure UnsupportedCharset where
  name : Text
deriving DecidableEq, Repr

/-- An argument a writer cannot take. -/
inductive PreconditionError where
  /-- Text in this charset travels as it is. -/
  | encodingNotRequired (charset : Text)
  /-- An extended value is written in UTF-8 or ISO-8859-1 only. -/
  | unsupportedCharset (charset : Text)
  /-- What `what` names is empty. -/
  | emptyArgument (what : Text)
deriving DecidableEq, Repr

/-- Any of the causes, for what can fail in several ways. -/
inductive Error where
  | parse (e : ParseError)
  | charset (e : UnsupportedCharset)
  | precondition (e : PreconditionError)
  /-- Reading a body failed; `reason` is the reader's own text. -/
  | io (reason : Text)
deriving DecidableEq, Repr

def ParseError.message : ParseError → Text
  | .empty => "empty header value".toList
  | .unterminatedQuote s => "unterminated quoted string in ".toList ++ Literal.text s
  | .unexpectedCharacter s c n =>
    "unexpected character ".toList ++ Literal.char c ++ " at offset ".toList ++ Number.decimal n ++
      " in ".toList ++ Literal.text s
  | .emptyMediaType s => "empty media type in ".toList ++ Literal.text s
  | .invalidCookie s => "invalid cookie ".toList ++ Literal.text s
  | .invalidEncodedValue s => "invalid encoded value ".toList ++ Literal.text s

def UnsupportedCharset.message (e : UnsupportedCharset) : Text :=
  "unsupported charset: ".toList ++ e.name

def PreconditionError.message : PreconditionError → Text
  | .encodingNotRequired c =>
    "charset ".toList ++ c ++ " does not require encoding".toList
  | .unsupportedCharset c =>
    "charset ".toList ++ c ++ " is not supported here, expected UTF-8 or ISO-8859-1".toList
  | .emptyArgument what => what ++ " must not be empty".toList

def Error.message : Error → Text
  | .parse e => e.message
  | .charset e => e.message
  | .precondition e => e.message
  | .io reason => reason

end MessageHead
