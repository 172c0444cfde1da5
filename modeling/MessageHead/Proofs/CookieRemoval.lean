/-
Attributes removed from a cookie.

An attribute is found whatever the case of its key, but it is kept, and removed, under its
key as it is spelled. Setting an attribute looks for a spelling that is there; reading a
cookie does not, so one that was read may have a key in several spellings. Removing the key
takes away the first of them (`spellings_remove`), and the next one is found from then on:
the attribute is gone exactly when there was no second spelling.

No change adds a second spelling to a cookie whose keys are distinct up to case and have no
look-alike of the two reserved ones (`Plain`), so removing removes there.
-/
import Mathlib.Data.List.Nodup
import Mathlib.Data.List.Perm.Basic
import MessageHead.Proofs.CookieMessage

namespace MessageHead.Cookie

/-! ## Spellings -/

/-- The attributes of that key in all its spellings. -/
def spellings (c : Cookie) (key : Text) : OrderedTable Text (Option Text) :=
  c.attributes.filter fun p => Text.sameFold p.1 key

/-- What the flag for secure connections says. -/
def saysSecure : Option Text → Bool
  | none => true
  | some v => !Text.sameFold (Text.trim v) "false".toList

variable {c c' : Cookie} {key : Text}

theorem lookup_eq_head (c : Cookie) (key : Text) :
    OrderedTable.get? (Text.sameFold · key) c.attributes = (c.spellings key).head?.map Prod.snd := by
  unfold OrderedTable.get? OrderedTable.first? spellings
  rw [List.head?_filter]

theorem get?_eq_head (c : Cookie) (key : Text) :
    c.get? key = ((c.spellings key).head?.map Prod.snd).join := by
  rw [get?, lookup_eq_head]

theorem has_eq_head (c : Cookie) (key : Text) : c.has key = (c.spellings key).head?.isSome := by
  rw [has, OrderedTable.has_eq_isSome, lookup_eq_head, Option.isSome_map]

theorem isSecure_eq_head (c : Cookie) :
    c.isSecure = (c.spellings secureKey).head?.any fun p => saysSecure p.2 := by
  rw [isSecure, lookup_eq_head]
  rcases (c.spellings secureKey).head? with _ | ⟨k, _ | v⟩ <;> rfl

/-! ## Removing -/

theorem hasThenRemove_eq (c : Cookie) (key : Text) : c.hasThenRemove key = (c.has key, c.remove key) := by
  unfold hasThenRemove has remove OrderedTable.first?
  rcases OrderedTable.first_cases (Text.sameFold · key) c.attributes with hn | ⟨t₁, e, t₂, ht, hn, he⟩
  · have hfind : c.attributes.find? (fun p => Text.sameFold p.1 key) = none :=
      List.find?_eq_none.2 fun p hp => by simp [hn p hp]
    have habsent : OrderedTable.has (Text.sameFold · key) c.attributes = false :=
      List.any_eq_false.2 fun p hp => by simp [hn p hp]
    rw [hfind, habsent, OrderedTable.erase_of_absent hn]
  · -- In front of the first spelling there is no other, and so not this one.
    have hother : ∀ p ∈ t₁, (p.1 == e.1) = false := by
      intro p hp
      have hp := hn p hp
      simp only [beq_eq_false_iff_ne]
      rintro heq
      rw [heq, he] at hp
      cases hp
    have hfind : (t₁ ++ e :: t₂).find? (fun p => Text.sameFold p.1 key) = some e := by
      rw [List.find?_append, List.find?_eq_none.2 fun p hp => by simp [hn p hp], List.find?_cons, he]
      rfl
    have hfound : ∀ q : Text → Bool, q e.1 = true → OrderedTable.has q (t₁ ++ e :: t₂) = true :=
      fun q hq => List.any_eq_true.2 ⟨e, by simp, hq⟩
    rw [ht, hfind, hfound _ he, OrderedTable.erase_append hn he]
    simp only [hfound (· == e.1) (beq_self_eq_true _),
      OrderedTable.erase_append (p := (· == e.1)) hother (beq_self_eq_true _)]

/-- **Removing takes away the first spelling.** -/
theorem spellings_remove (c : Cookie) (key : Text) : (c.remove key).spellings key = (c.spellings key).tail := by
  unfold spellings remove
  rcases OrderedTable.first_cases (Text.sameFold · key) c.attributes with hn | ⟨t₁, e, t₂, ht, hn, he⟩
  · have hnone : c.attributes.filter (fun p => Text.sameFold p.1 key) = [] :=
      List.filter_eq_nil_iff.2 fun p hp => by simp [hn p hp]
    rw [OrderedTable.erase_of_absent hn, hnone]
    rfl
  · have hnone : t₁.filter (fun p => Text.sameFold p.1 key) = [] :=
      List.filter_eq_nil_iff.2 fun p hp => by simp [hn p hp]
    rw [ht, OrderedTable.erase_append hn he, List.filter_append, List.filter_append, hnone,
      List.filter_cons, if_pos he]
    rfl

theorem has_remove (c : Cookie) (key : Text) :
    (c.remove key).has key = (c.spellings key).tail.head?.isSome := by
  rw [has_eq_head, spellings_remove]

/-- **A removed attribute is gone when it had one spelling, and only then.** -/
theorem removed_iff (c : Cookie) (key : Text) :
    (c.remove key).has key = false ∧ (c.remove key).get? key = none ↔ (c.spellings key).length ≤ 1 := by
  rw [has_remove, get?_eq_head, spellings_remove]
  rcases c.spellings key with _ | ⟨p, _ | ⟨q, ps⟩⟩ <;> simp

/-! ## The flag for secure connections -/

theorem isSecure_set (c : Cookie) : (c.setSecure true).isSecure = true := by
  have hkeys : Text.sameFold secureKey nameKey = false ∧ Text.sameFold secureKey valueKey = false := by decide
  have hput := OrderedTable.get?_upsert_self (p := (Text.sameFold · secureKey)) (Text.sameFold_self secureKey)
    (some "true".toList) (fun _ => some "true".toList) c.attributes
  have hset : (c.setSecure true).attributes =
      OrderedTable.upsert (Text.sameFold · secureKey) secureKey (some "true".toList)
        (fun _ => some "true".toList) c.attributes := by
    unfold setSecure set
    rw [if_pos rfl, if_neg (by simp [hkeys.1]), if_neg (by simp [hkeys.2])]
    rfl
  rw [isSecure, hset, hput]
  decide

/-- **Setting the flag sets it, and removing it leaves what its second spelling says.** -/
theorem isSecure_setSecure_iff (c : Cookie) :
    (∀ b, (c.setSecure b).isSecure = b) ↔ ((c.spellings secureKey)[1]?.any fun p => saysSecure p.2) = false := by
  have hremoved : (c.setSecure false).isSecure = (c.spellings secureKey)[1]?.any fun p => saysSecure p.2 := by
    show (c.remove secureKey).isSecure = _
    rw [isSecure_eq_head, spellings_remove, ← List.head?_drop, List.drop_one]
  rw [← hremoved]
  exact ⟨fun h => h false, fun h b => by cases b; exacts [h, isSecure_set c]⟩

/-! ## Cookies with one spelling a key -/

/-- Keys are distinct up to case, and none is a look-alike of a reserved one. -/
structure Plain (c : Cookie) : Prop where
  distinct : OrderedTable.Distinct Text.lower c.attributes
  exact : ∀ p ∈ c.attributes, Exact p.1

theorem Plain.length_spellings (h : Plain c) (key : Text) : (c.spellings key).length ≤ 1 := by
  have hnodup : OrderedTable.Distinct Text.lower (c.spellings key) := h.distinct.sublist List.filter_sublist
  have hall : ∀ k ∈ (c.spellings key).map fun p => Text.lower p.1, k = Text.lower key := by
    intro k hk
    obtain ⟨p, hp, rfl⟩ := List.mem_map.1 hk
    exact Text.sameFold_iff.1 (List.mem_filter.1 hp).2
  unfold OrderedTable.Distinct at hnodup
  rwa [List.eq_replicate_of_mem hall, List.nodup_replicate, List.length_map] at hnodup

theorem Plain.distinct_reserved (h : Plain c) {k : Text}
    (hk : ∀ p ∈ c.attributes, Text.sameFold p.1 k = true → p.1 = k) (v : Option Text) :
    OrderedTable.Distinct Text.lower ((k, v) :: OrderedTable.erase (· == k) c.attributes) := by
  have hsub : (OrderedTable.erase (· == k) c.attributes).Sublist c.attributes := List.eraseP_sublist
  have hid : OrderedTable.Distinct id c.attributes := h.distinct.keys
  refine List.nodup_cons.2 ⟨fun hmem => ?_, h.distinct.sublist hsub⟩
  obtain ⟨p, hp, hlower⟩ := List.mem_map.1 hmem
  have hpk := hk p (hsub.subset hp) (Text.sameFold_iff.2 hlower)
  have herase := OrderedTable.erase_eq_filter id hid k
  simp only [id_eq] at herase
  rw [herase] at hp
  simp [hpk] at hp

/-- **No change adds a spelling.** -/
theorem Plain.step (h : Plain c) (hs : Step c c') : Plain c' := by
  refine ⟨?_, hs.exact h.exact⟩
  cases hs with
  | setName n => exact h.distinct_reserved (fun p hp => (h.exact p hp).1) (some n)
  | setValue v =>
    have hdistinct := h.distinct_reserved (fun p hp => (h.exact p hp).2) (some v)
    -- The value stands behind the name, if there is one.
    have hplaced : ∀ (t : OrderedTable Text (Option Text)) (n : Nat),
        ((valueKey, some v) :: t).Perm (t.take n ++ (valueKey, some v) :: t.drop n) := by
      intro t n
      have hmid : ((valueKey, some v) :: (t.take n ++ t.drop n)).Perm
        (t.take n ++ (valueKey, some v) :: t.drop n) := List.perm_middle.symm
      rwa [List.take_append_drop] at hmid
    exact ((hplaced _ _).map _).nodup_iff.1 hdistinct
  | @put key v _ _ => exact h.distinct.put key v
  | remove key => exact h.distinct.sublist List.eraseP_sublist

theorem exact_of_distinct (hd : OrderedTable.Distinct Text.lower c.attributes) {name value : Option Text}
    (hn : (nameKey, name) ∈ c.attributes) (hv : (valueKey, value) ∈ c.attributes) :
    ∀ p ∈ c.attributes, Exact p.1 := by
  have same : ∀ p ∈ c.attributes, ∀ q ∈ c.attributes, Text.sameFold p.1 q.1 = true → p = q :=
    fun p hp q hq hf => List.inj_on_of_nodup_map hd hp hq (Text.sameFold_iff.1 hf)
  exact fun p hp => ⟨fun hf => congrArg Prod.fst (same p hp _ hn hf), fun hf => congrArg Prod.fst (same p hp _ hv hf)⟩

/-- What a cookie starts from with one spelling a key. Only reading has to be told so. -/
inductive SpelledOnce : Cookie → Prop
  | empty : SpelledOnce {}
  | ofNameValue (name value : Text) : SpelledOnce (.ofNameValue name value)
  | parsed {s : Text} {c : Cookie} :
    parse s = .ok c → OrderedTable.Distinct Text.lower c.attributes → SpelledOnce c

theorem SpelledOnce.plain (h : SpelledOnce c) : Plain c := by
  cases h with
  | empty => exact ⟨List.nodup_nil, by simp⟩
  | ofNameValue n v =>
    have heq : (Cookie.ofNameValue n v).attributes = layout (some (some n)) (some (some v)) [] :=
      (Laid.ofNameValue n v).attributes_eq
    have hd : OrderedTable.Distinct Text.lower (Cookie.ofNameValue n v).attributes := by
      have hne : [Text.lower nameKey, Text.lower valueKey].Nodup := by decide
      rw [heq]
      exact hne
    have hn : (nameKey, some n) ∈ (Cookie.ofNameValue n v).attributes := by simp [heq, layout]
    have hv : (valueKey, some v) ∈ (Cookie.ofNameValue n v).attributes := by simp [heq, layout]
    exact ⟨hd, exact_of_distinct hd hn hv⟩
  | parsed hp hd =>
    obtain ⟨name, value, others, hr⟩ := readable_of_parse hp
    have hn : (nameKey, name) ∈ c.attributes := by simp [hr.attributes_eq]
    have hv : (valueKey, value) ∈ c.attributes := by simp [hr.attributes_eq]
    exact ⟨hd, exact_of_distinct hd hn hv⟩

theorem Made.plain (h : Made SpelledOnce c) : Plain c :=
  h.invariant (fun _ hs => hs.plain) fun _ _ hc hs => hc.step hs

/-! ## Removing removes -/

/-- **When removing an attribute removes it.** In any cookie, removing says whether there was
an attribute of that key; the attribute is gone exactly when its key had at most one
spelling; and the flag for secure connections is as it was set exactly when no second
spelling of its key says otherwise. No key has a second spelling in a cookie that changes
make of an empty one, of a name and a value, or of one that was read with keys that are
distinct up to case. -/
theorem remove_removes (c : Cookie) :
    (∀ key, c.hasThenRemove key = (c.has key, c.remove key) ∧
        ((c.remove key).has key = false ∧ (c.remove key).get? key = none ↔ (c.spellings key).length ≤ 1)) ∧
      ((∀ b, (c.setSecure b).isSecure = b) ↔
        ((c.spellings secureKey)[1]?.any fun p => saysSecure p.2) = false) ∧
      (Made SpelledOnce c → ∀ key, (c.spellings key).length ≤ 1) :=
  ⟨fun key => ⟨hasThenRemove_eq c key, removed_iff c key⟩, isSecure_setSecure_iff c,
    fun h key => h.plain.length_spellings key⟩

/-- A cookie as it is read from `a=1;PATH=/;Secure`. -/
def readOnce : Cookie :=
  ⟨[(nameKey, some ['a']), (valueKey, some ['1']), (['P', 'A', 'T', 'H'], some ['/']), (secureKey, none)]⟩

/-- The path is set once more, under the spelling it has, and removed. -/
theorem remove_removes_path :
    parse ['a', '=', '1', ';', 'P', 'A', 'T', 'H', '=', '/', ';', 'S', 'e', 'c', 'u', 'r', 'e'] = .ok readOnce ∧
      (readOnce.set pathKey (some ['x'])).keys = readOnce.keys ∧
      ((readOnce.set pathKey (some ['x'])).hasThenRemove pathKey).1 = true ∧
      ((readOnce.set pathKey (some ['x'])).remove pathKey).has pathKey = false ∧
      ∀ b, ((readOnce.set pathKey (some ['x'])).setSecure b).isSecure = b := by
  have hp : parse ['a', '=', '1', ';', 'P', 'A', 'T', 'H', '=', '/', ';', 'S', 'e', 'c', 'u', 'r', 'e'] =
      .ok readOnce := by decide +kernel
  have hd : OrderedTable.Distinct Text.lower readOnce.attributes := by
    unfold OrderedTable.Distinct
    decide
  have hmade : Made SpelledOnce (readOnce.set pathKey (some ['x'])) :=
    .change (.set pathKey (some ['x'])) (.start (.parsed hp hd))
  obtain ⟨hkeys, hsecure, honce⟩ := remove_removes (readOnce.set pathKey (some ['x']))
  obtain ⟨hremove, hgone⟩ := hkeys pathKey
  refine ⟨hp, by decide, ?_, (hgone.2 (honce hmade pathKey)).1, hsecure.2 (by decide)⟩
  rw [hremove]
  decide

/-- A cookie as it is read from `a=1;Path=/;path=x;Secure;secure`. -/
def readTwice : Cookie :=
  ⟨[(nameKey, some ['a']), (valueKey, some ['1']), (pathKey, some ['/']), (['p', 'a', 't', 'h'], some ['x']),
    (secureKey, none), (['s', 'e', 'c', 'u', 'r', 'e'], none)]⟩

/-- With two spellings the second is there when the first was removed, and a cookie that is
told not to be secure is so still. -/
theorem remove_removes_first_only :
    parse ['a', '=', '1', ';', 'P', 'a', 't', 'h', '=', '/', ';', 'p', 'a', 't', 'h', '=', 'x', ';', 'S', 'e', 'c',
        'u', 'r', 'e', ';', 's', 'e', 'c', 'u', 'r', 'e'] = .ok readTwice ∧
      readTwice.hasThenRemove pathKey = (true, readTwice.remove pathKey) ∧
      (readTwice.remove pathKey).has pathKey = true ∧
      (readTwice.remove pathKey).get? pathKey = some ['x'] ∧
      (readTwice.setSecure false).isSecure = true := by
  refine ⟨?_, ?_, ?_, ?_, ?_⟩ <;> decide +kernel

end MessageHead.Cookie
