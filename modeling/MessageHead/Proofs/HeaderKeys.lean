/-
Header fields with their keys.

A map of fields is keyed by the names in lower case and has each name as it first came beside its
values (`Keyed`). `Headers` keeps that spelling alone and compares names without their case. What is
lost by this can be put in again (`keyed`), and it makes no difference whether that is before a
change or behind it (`keyed_apply`). So the keys are those of the spelled names behind any history,
and every answer of the map is that of the fields (`afterKeyed_answers`).
-/
import MessageHead.Proofs.HeaderHistory

namespace MessageHead.Headers

/-- Header fields in a map: behind the key of a field its name, as it first came, and its values. -/
structure Keyed where
  entries : OrderedTable Text (Text × List Text) := []
deriving DecidableEq, Repr

namespace Keyed

/-- The field of a name. -/
def field? (k : Keyed) (name : Text) : Option (Text × List Text) :=
  OrderedTable.get? (· == Text.lower name) k.entries

/-- Changes the values of a name by `f`; a new name starts with no values. -/
def modify (k : Keyed) (name : Text) (f : List Text → List Text) : Keyed :=
  ⟨k.entries.upsert (· == Text.lower name) (Text.lower name) (name, []) fun e => (e.1, f e.2)⟩

/-- Removes a name and its values. -/
def remove (k : Keyed) (name : Text) : Keyed := ⟨k.entries.erase (· == Text.lower name)⟩

/-- The names in order. -/
def names (k : Keyed) : List Text := k.entries.map fun e => e.2.1

/-- Every name with every of its values, in order. -/
def lines (k : Keyed) : List (Text × Text) := k.entries.flatMap fun e => e.2.2.map (e.2.1, ·)

/-- Adds a list of lines one after the other. -/
def addLines (k : Keyed) (ps : List (Text × Text)) : Keyed :=
  ps.foldl (fun k p => k.modify p.1 (· ++ [p.2])) k

/-- Sets a list of lines one after the other. -/
def setLines (k : Keyed) (ps : List (Text × Text)) : Keyed :=
  ps.foldl (fun k p => k.modify p.1 fun _ => [p.2]) k

/-- Replaces the values of every name that the other has by the other's. -/
def setAll (k other : Keyed) : Keyed :=
  other.entries.foldl (fun k e => k.modify e.2.1 fun _ => e.2.2) k

/-- Two maps have the same keys with the same fields, in any order. -/
def equal (a b : Keyed) : Bool :=
  a.entries.length == b.entries.length && a.entries.all fun e =>
    OrderedTable.get? (· == e.1) b.entries == some e.2

end Keyed

/-- The fields with their keys put in. -/
def keyed (h : Headers) : Keyed := ⟨h.fields.map fun p => (Text.lower p.1, p)⟩

/-- The map behind a change. What is copied from other fields comes from a map of them. -/
def Change.applyKeyed : Change → Keyed → Keyed
  | add name value, k => k.modify name (· ++ [value])
  | set name value, k => k.modify name fun _ => [value]
  | remove name, k => k.remove name
  | setAll other, k => k.setAll other.keyed
  | addAll other, k => k.addLines other.keyed.lines
  | setLines ps, k => k.setLines ps
  | addLines ps, k => k.addLines ps

/-- The map behind a history that began without any fields. -/
def afterKeyed (cs : List Change) : Keyed := cs.foldl (fun k c => c.applyKeyed k) {}

/-! ## Answers -/

variable {β : Type}

/-- The key finds the field that its name finds. -/
theorem field?_keyed (h : Headers) (name : Text) :
    h.keyed.field? name = OrderedTable.first? (Text.sameFold · name) h.fields := by
  unfold Keyed.field? OrderedTable.get? OrderedTable.first? keyed
  rw [List.find?_map, Option.map_map]
  exact Option.map_id_apply

theorem values?_eq_field? (h : Headers) (name : Text) : h.values? name = (h.keyed.field? name).map Prod.snd := by
  rw [field?_keyed]
  rfl

theorem has_eq_field? (h : Headers) (name : Text) : h.has name = (h.keyed.field? name).isSome := by
  rw [field?_keyed, OrderedTable.first?, List.isSome_find?]
  rfl

theorem names_keyed (h : Headers) : h.keyed.names = h.names := by
  unfold Keyed.names keyed names
  rw [List.map_map]
  rfl

theorem lines_keyed (h : Headers) : h.keyed.lines = h.lines := by
  unfold Keyed.lines keyed lines
  rw [List.flatMap_map]

theorem equal_keyed (a b : Headers) : a.keyed.equal b.keyed = a.equal b := by
  have hlookup : ∀ name, OrderedTable.get? (· == Text.lower name) b.keyed.entries =
      OrderedTable.first? (Text.sameFold · name) b.fields := field?_keyed b
  unfold Keyed.equal equal
  rw [keyed, List.length_map, List.all_map, keyed, List.length_map]
  exact congrArg _ (congrArg _ (funext fun p => congrArg (· == some p) (hlookup p.1)))

/-! ## Changes -/

theorem keyed_modify (h : Headers) (name : Text) (f : List Text → List Text) :
    h.keyed.modify name f = (h.modify name f).keyed :=
  congrArg Keyed.mk (OrderedTable.upsert_keyed Text.lower name [] f h.fields)

theorem keyed_remove (h : Headers) (name : Text) : h.keyed.remove name = (h.remove name).keyed :=
  congrArg Keyed.mk List.eraseP_map

theorem keyed_modifyAll (g : β → List Text → List Text) (h : Headers) (ps : List (Text × β)) :
    ps.foldl (fun k p => k.modify p.1 (g p.2)) h.keyed = (h.modifyAll g ps).keyed :=
  List.foldl_hom keyed fun h p => keyed_modify h p.1 (g p.2)

theorem keyed_addLines (h : Headers) (ps : List (Text × Text)) : h.keyed.addLines ps = (h.addLines ps).keyed :=
  keyed_modifyAll (fun v vs => vs ++ [v]) h ps

theorem keyed_setLines (h : Headers) (ps : List (Text × Text)) : h.keyed.setLines ps = (h.setLines ps).keyed :=
  keyed_modifyAll (fun v _ => [v]) h ps

theorem keyed_setAll (h other : Headers) : h.keyed.setAll other.keyed = (h.setAll other).keyed := by
  have hfold := keyed_modifyAll (fun vs _ => vs) h other.fields
  have hentries : other.keyed.entries = other.fields.map fun p => (Text.lower p.1, p) := rfl
  rw [Keyed.setAll, hentries, List.foldl_map]
  exact hfold

/-- **Keys follow a change**: put in before it, they come out of it as they are put in behind it. -/
theorem keyed_apply (h : Headers) (c : Change) : c.applyKeyed h.keyed = (c.apply h).keyed := by
  cases c with
  | add name value => exact keyed_modify h name (· ++ [value])
  | set name value => exact keyed_modify h name fun _ => [value]
  | remove name => exact keyed_remove h name
  | setAll other => exact keyed_setAll h other
  | addAll other =>
    have hlines := keyed_addLines h other.keyed.lines
    rw [lines_keyed] at hlines
    exact (congrArg h.keyed.addLines (lines_keyed other)).trans hlines
  | setLines ps => exact keyed_setLines h ps
  | addLines ps => exact keyed_addLines h ps

theorem afterKeyed_eq (cs : List Change) : afterKeyed cs = (after cs).keyed := by
  have hrun : ∀ h : Headers, cs.foldl (fun k c => c.applyKeyed k) h.keyed =
      (cs.foldl (fun h c => c.apply h) h).keyed :=
    fun _ => List.foldl_hom keyed fun h c => keyed_apply h c
  exact hrun {}

/-- **A map answers as the fields do.** Behind any history its keys are the names in lower case,
it has the same field under any name, the same names and lines in the same order, and is equal to
the map behind another history when the fields are. -/
theorem afterKeyed_answers (cs ds : List Change) :
    (∀ e ∈ (afterKeyed cs).entries, e.1 = Text.lower e.2.1) ∧
      (∀ name, (after cs).values? name = ((afterKeyed cs).field? name).map Prod.snd ∧
        (after cs).has name = ((afterKeyed cs).field? name).isSome) ∧
      (afterKeyed cs).names = (after cs).names ∧
      (afterKeyed cs).lines = (after cs).lines ∧
      (afterKeyed cs).equal (afterKeyed ds) = (after cs).equal (after ds) := by
  rw [afterKeyed_eq cs, afterKeyed_eq ds]
  refine ⟨fun e he => ?_, fun name => ⟨values?_eq_field? _ name, has_eq_field? _ name⟩, names_keyed _,
    lines_keyed _, equal_keyed _ _⟩
  obtain ⟨p, -, rfl⟩ := List.mem_map.1 he
  rfl

/-- A name that comes in other letters is found by its key and is spelled as it was first. -/
example : (afterKeyed [.add ['A'] ['1'], .add ['b'] ['2'], .set ['a'] ['3']]).entries =
    [(['a'], ['A'], [['3']]), (['b'], ['b'], [['2']])] := by
  decide

end MessageHead.Headers
