/-
The configuration: what a TOML document says about charsets and about further tables of media
types. Keys it does not know are left alone, and keys it knows must have values of their types.
-/
import MessageHead.Charset.Label
import MessageHead.Text.Utf8
import MessageHead.Toml.Parser

namespace MessageHead

/-- The configuration. -/
structure Config where
  /-- A content type with an unknown charset is an error. -/
  strictCharset : Bool := true
  /-- The charset of texts that name none. -/
  defaultCharset : Charset := .utf8
  /-- The files with further tables of media types, in the order in which they are loaded. -/
  mediaTypeFiles : List Text := []
deriving DecidableEq, Repr

/-- Why a configuration cannot be read. -/
inductive ConfigError where
  /-- The document is malformed. -/
  | document (e : Toml.Malformed)
  /-- A key has a value of another type. -/
  | type (key : Text)
  /-- The default charset is unknown. -/
  | charset (e : UnsupportedCharset)
deriving DecidableEq, Repr

namespace Config

/-- The key for `strictCharset`. -/
def strictCharsetKey : Text := "strict_charset".toList

/-- The key for `defaultCharset`. -/
def defaultCharsetKey : Text := "default_charset".toList

/-- The key for `mediaTypeFiles`. -/
def mediaTypeFilesKey : Text := "media_type_files".toList

/-- Reads the value of a key, or takes another value when the key is missing. -/
def readKey {α : Type} (t : Toml.Table) (key : Text) (default : α)
    (read : Toml.Value → Except ConfigError α) : Except ConfigError α :=
  match t.get? key with
  | none => .ok default
  | some v => read v

/-- A truth value. -/
def readBoolean (key : Text) : Toml.Value → Except ConfigError Bool
  | .boolean b => .ok b
  | _ => .error (.type key)

/-- A text. -/
def readText (key : Text) : Toml.Value → Except ConfigError Text
  | .text s => .ok s
  | _ => .error (.type key)

/-- A list of texts. -/
def readTexts (key : Text) : Toml.Value → Except ConfigError (List Text)
  | .list _ items => items.mapM (readText key)
  | _ => .error (.type key)

/-- The name of a charset. -/
def readCharset (key : Text) (v : Toml.Value) : Except ConfigError Charset :=
  match readText key v with
  | .error e => .error e
  | .ok name => (Charset.ofName name).mapError .charset

/-- The configuration in a table. -/
def ofTable (t : Toml.Table) : Except ConfigError Config := do
  let default : Config := {}
  let strictCharset ←
    readKey t strictCharsetKey default.strictCharset (readBoolean strictCharsetKey)
  let defaultCharset ←
    readKey t defaultCharsetKey default.defaultCharset (readCharset defaultCharsetKey)
  let mediaTypeFiles ←
    readKey t mediaTypeFilesKey default.mediaTypeFiles (readTexts mediaTypeFilesKey)
  return { strictCharset, defaultCharset, mediaTypeFiles }

/-- Reads a configuration. -/
def parse (s : Text) : Except ConfigError Config :=
  match Toml.parse s with
  | .error e => .error (.document e)
  | .ok t => ofTable t

/-- The configuration in a file, given its bytes if it could be read. Whatever is wrong with it,
the configuration is then the default one. -/
def ofFile (bytes : Option Bytes) : Config :=
  match bytes.bind Utf8.decode? with
  | none => {}
  | some s => match parse s with
    | .ok c => c
    | .error _ => {}

end Config

end MessageHead
