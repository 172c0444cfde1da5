/-
Cookies: attributes in order. Two attributes, `Name` and `Value`, are the cookie itself; they
keep the first two places when they are set. An attribute is found whatever the case of its
key and keeps the spelling it came with. It may have no value, which is not an empty value.
-/
import MessageHead.OrderedTable
import MessageHead.Text.Basic

namespace MessageHead

/-- A cookie. -/
structure Cookie where
  attributes : OrderedTable Text (Option Text) := []
deriving DecidableEq, Repr

namespace Cookie

/-- The key of the name. -/
def nameKey : Text := "Name".toList

/-- The key of the value. -/
def valueKey : Text := "Value".toList

/-! ## Looking up -/

/-- The value of an attribute; none when it is missing and when it has no value. -/
def get? (c : Cookie) (key : Text) : Option Text :=
  (OrderedTable.get? (Text.sameFold · key) c.attributes).join

/-- There is an attribute of that key. -/
def has (c : Cookie) (key : Text) : Bool := OrderedTable.has (Text.sameFold · key) c.attributes

/-- The name. -/
def name? (c : Cookie) : Option Text := c.get? nameKey

/-- The value. -/
def value? (c : Cookie) : Option Text := c.get? valueKey

/-! ## Changing -/

/-- Sets the name, which comes first. -/
def setName (c : Cookie) (name : Text) : Cookie :=
  ⟨(nameKey, some name) :: OrderedTable.erase (· == nameKey) c.attributes⟩

/-- Sets the value, which comes right behind the name. -/
def setValue (c : Cookie) (value : Text) : Cookie :=
  let others := OrderedTable.erase (· == valueKey) c.attributes
  let place := if OrderedTable.has (· == nameKey) others then 1 else 0
  ⟨others.take place ++ (valueKey, some value) :: others.drop place⟩

/-- Sets an attribute. One with the same key keeps its place and its spelling. -/
def set (c : Cookie) (key : Text) (value : Option Text) : Cookie :=
  if Text.sameFold key nameKey then c.setName (value.getD [])
  else if Text.sameFold key valueKey then c.setValue (value.getD [])
  else ⟨OrderedTable.put (Text.sameFold · key) key value c.attributes⟩

/-- Removes an attribute. -/
def remove (c : Cookie) (key : Text) : Cookie :=
  ⟨OrderedTable.erase (Text.sameFold · key) c.attributes⟩

/-- Whether there is an attribute of that key, and the cookie without it: the first spelling of
the key is looked up, and what stands under exactly that spelling is removed. -/
def hasThenRemove (c : Cookie) (key : Text) : Bool × Cookie :=
  match OrderedTable.first? (Text.sameFold · key) c.attributes with
  | none => (false, c)
  | some (spelling, _) =>
    (OrderedTable.has (· == spelling) c.attributes,
      ⟨OrderedTable.erase (· == spelling) c.attributes⟩)

/-- A cookie of a name and a value. -/
def ofNameValue (name value : Text) : Cookie := (setName {} name).setValue value

/-- Two cookies have the same attributes, in whatever order. -/
def equal (a b : Cookie) : Bool :=
  a.attributes.length == b.attributes.length &&
    a.attributes.all fun (k, v) => OrderedTable.get? (· == k) b.attributes == some v

end Cookie

end MessageHead
