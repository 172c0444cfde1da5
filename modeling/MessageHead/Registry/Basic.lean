/-
The registry of media types: what each is called, which file extensions it has, and which media
types a file extension stands for. Both directions keep the order of registration.
-/
import MessageHead.MediaType.Basic
import MessageHead.Text.Blank

namespace MessageHead

/-- What is known of a media type. -/
structure Registration where
  mediaType : MediaType
  description : Text := []
  extensions : List Text := []
deriving DecidableEq, Repr

/-- Media types by name and by file extension. -/
structure Registry where
  /-- Keyed by the name in lower case. -/
  entries : OrderedTable Text Registration := []
  /-- Keyed by the extension as `normalizeExtension` leaves it. -/
  byExtension : OrderedTable Text (List MediaType) := []
deriving DecidableEq, Repr

namespace Registry

/-- An extension without blanks around it and dots in front, in lower case. -/
def normalizeExtension (ext : Text) : Text :=
  Text.lower ((Text.trim ext).dropWhile (· == '.'))

/-! ## Registering -/

/-- Adds a media type to a list that does not hold it. -/
def addType (m : MediaType) (ms : List MediaType) : List MediaType :=
  if ms.any m.equal then ms else ms ++ [m]

/-- The extension is listed with the entry of that key. -/
def lists (r : Registry) (key ext : Text) : Bool :=
  match OrderedTable.get? (· == key) r.entries with
  | some e => e.extensions.contains ext
  | none => false

/-- Lists an extension with a media type and the media type with the extension, unless the
extension is empty or listed already. -/
def addExtension (m : MediaType) (r : Registry) (ext : Text) : Registry :=
  let key := Text.lower m.name
  let ext := normalizeExtension ext
  if ext.isEmpty || r.lists key ext then r
  else
    { entries := r.entries.upsert (· == key) key ⟨m, [], []⟩ fun e =>
        { e with extensions := e.extensions ++ [ext] }
      byExtension := r.byExtension.upsert (· == ext) ext [] (addType m) }

/-- Enters a media type; a description that is not empty replaces an earlier one. -/
def describe (m : MediaType) (r : Registry) (description : Text) : Registry :=
  let key := Text.lower m.name
  { r with entries := r.entries.upsert (· == key) key ⟨m, [], []⟩ fun e =>
      if description.isEmpty then e else { e with description } }

/-- Registers a media type, without its parameters, under its extensions. -/
def register (r : Registry) (m : MediaType) (description : Text) (extensions : List Text) :
    Registry :=
  extensions.foldl (addExtension m.bare) (describe m.bare r description)

/-! ## Looking up -/

/-- The media types of an extension, which may have a dot in front. -/
def typesOf (r : Registry) (ext : Text) : List MediaType :=
  (OrderedTable.get? (· == normalizeExtension ext) r.byExtension).getD []

/-- The first media type of the extension of a file name, which is what follows its last dot. -/
def typeOfFile? (r : Registry) (fileName : Text) : Option MediaType :=
  (Text.afterLast '.' fileName).bind fun ext => (r.typesOf ext).head?

/-- The entry of a media type, by its name in any case. -/
def registration? (r : Registry) (name : Text) : Option Registration :=
  OrderedTable.get? (· == Text.lower (Text.trim name)) r.entries

/-- The description of a media type, by its name in any case. -/
def description? (r : Registry) (name : Text) : Option Text :=
  (r.registration? name).map Registration.description

/-- Every entry in order. -/
def registrations (r : Registry) : List Registration := r.entries.map Prod.snd

/-- The number of entries. -/
def size (r : Registry) : Nat := r.entries.length

end Registry

end MessageHead
