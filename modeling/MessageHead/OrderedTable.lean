/-
Ordered tables: lists of entries in the order in which their keys first came, with one entry
to a key up to a sameness of keys. Header names, parameter names, cookie attributes and
registry entries are all kept in such tables; they differ in which keys count as the same.
-/

namespace MessageHead

/-- Entries in order. -/
abbrev OrderedTable (κ β : Type) := List (κ × β)

namespace OrderedTable

variable {κ β : Type}

/-- The first entry whose key satisfies `p`. -/
def first? (p : κ → Bool) (t : OrderedTable κ β) : Option (κ × β) := t.find? fun e => p e.1

/-- What stands under the first key satisfying `p`. -/
def get? (p : κ → Bool) (t : OrderedTable κ β) : Option β := (first? p t).map Prod.snd

/-- There is a key satisfying `p`. -/
def has (p : κ → Bool) (t : OrderedTable κ β) : Bool := t.any fun e => p e.1

/-- Changes what stands under the first key satisfying `p` by `f`. Without such a key, `k` is
appended with what `f` makes of `fresh`. -/
def upsert (p : κ → Bool) (k : κ) (fresh : β) (f : β → β) : OrderedTable κ β → OrderedTable κ β
  | [] => [(k, f fresh)]
  | e :: t => if p e.1 then (e.1, f e.2) :: t else e :: upsert p k fresh f t

/-- Puts `b` under the first key satisfying `p`, or appends it under `k`. -/
def put (p : κ → Bool) (k : κ) (b : β) (t : OrderedTable κ β) : OrderedTable κ β :=
  upsert p k b (fun _ => b) t

/-- Removes the first entry whose key satisfies `p`. -/
def erase (p : κ → Bool) (t : OrderedTable κ β) : OrderedTable κ β := t.eraseP fun e => p e.1

end OrderedTable

end MessageHead
