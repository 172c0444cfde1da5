/-
Providers make entities of messages. They are asked in order: the first that accepts a message
and does not decline settles what becomes of it. A provider that fails settles it too.
-/
import MessageHead.Entity.Basic
import MessageHead.MediaType.Patterns
import MessageHead.Message

namespace MessageHead

/-- A maker of entities. -/
structure Provider where
  /-- The provider is to be asked about the message. -/
  accepts : Message → Bool
  /-- The entity; none when the provider declines. -/
  create : Message → Resource → Except Error (Option Entity)

/-- The content type of a message, if it has one that can be read. -/
def Message.contentType? (m : Message) : Option ContentType :=
  match ContentType.ofHeaders false m.headers with
  | .ok ct => ct
  | .error _ => none

/-- The media type of the message is one of the patterns'. -/
def NamePatterns.matchesMessage (ps : NamePatterns) (m : Message) : Bool :=
  match m.contentType? with
  | some ct => ps.matchesName ct.name
  | none => false

namespace Provider

/-- Makes texts, in the charset of the content type or in another one when there is none. -/
def text (ps : NamePatterns) (default : Charset) : Provider where
  accepts := ps.matchesMessage
  create m r :=
    let ct := m.contentType?
    let charset := match ct with
      | some ct => ct.charsetOr default
      | none => default
    (r.text charset).map fun s => some ⟨ct, .text s⟩

/-- Passes bytes on as they are. -/
def bytes (ps : NamePatterns) : Provider where
  accepts := ps.matchesMessage
  create m r := r.bytes.map fun bs => some ⟨m.contentType?, .bytes bs⟩

end Provider

/-- Providers in the order in which they are asked. -/
abbrev Providers := List Provider

namespace Providers

/-- A provider of texts and then one of bytes. -/
def standard (default : Charset) : Providers :=
  [.text .textual default, .bytes .binary]

/-- Some provider accepts the message. -/
def accept (ps : Providers) (m : Message) : Bool := ps.any fun p => p.accepts m

/-- What became of a message. -/
structure Outcome where
  result : Except Error (Option Entity)
  /-- The places of the providers that were asked to create an entity, in order. -/
  asked : List Nat

/-- Asks the providers, the first of which stands at place `i`. -/
def createFrom (m : Message) (r : Resource) : Nat → Providers → Outcome
  | _, [] => ⟨.ok none, []⟩
  | i, p :: ps =>
    if p.accepts m then
      match p.create m r with
      | .ok none =>
        let later := createFrom m r (i + 1) ps
        { later with asked := i :: later.asked }
      | .ok (some e) => ⟨.ok (some e), [i]⟩
      | .error e => ⟨.error e, [i]⟩
    else createFrom m r (i + 1) ps

/-- Asks the providers for an entity of a message. -/
def create (ps : Providers) (m : Message) (r : Resource) : Outcome := createFrom m r 0 ps

/-- The number of providers in words. -/
def describe (ps : Providers) : Text :=
  "EntityProviderRegistry \x7b providers: ".toList ++ Number.decimal ps.length ++ " \x7d".toList

end Providers

end MessageHead
