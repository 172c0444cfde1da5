/-
Header elements: what most structured header values are lists of. An element is a name with
an optional value, followed by parameters of the same form.
-/
import MessageHead.Text.Basic

namespace MessageHead

/-- A name and, after an equals sign, its value. -/
structure Parameter where
  name : Text
  value : Option Text := none
deriving DecidableEq, Repr

/-- One element of a header value. -/
structure Element where
  name : Text
  value : Option Text := none
  parameters : List Parameter := []
deriving DecidableEq, Repr

/-- The first parameter of that name, whatever its case. -/
def Parameter.find? (name : Text) (ps : List Parameter) : Option Parameter :=
  ps.find? fun p => Text.sameFold p.name name

/-- The first parameter of the element with that name, whatever its case. -/
def Element.parameter? (e : Element) (name : Text) : Option Parameter :=
  Parameter.find? name e.parameters

/-- An element that says nothing: no name, no value, no parameter. Lists leave it out. -/
def Element.isVoid (e : Element) : Bool :=
  e.name.isEmpty && e.value.isNone && e.parameters.isEmpty

end MessageHead
