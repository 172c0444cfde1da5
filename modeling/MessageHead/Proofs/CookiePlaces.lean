/-
The places of name and value in a cookie.

Attributes with exactly the keys `Name` and `Value` stand in front, in this order, and
all others behind them (`Laid`). This is so where a cookie begins, and each of the four
things that a change comes to keeps it (`Step`). A key that differs from one of the two
in case is a key like any other here. Only reading lets one in; a setter takes it for the
name or the value, and removing finds whichever comes first.

The name and the value are set by an insertion at a place that is counted out before, and
behind the end of a table there is no place. The changes are therefore written down a
second time with an insertion that can fail (`Change.attempt`); it never does.
-/
import MessageHead.Cookie.Typed
import MessageHead.Proofs.CookieRoundTrip

namespace MessageHead.Cookie

/-! ## Changes -/

/-- A change of a cookie. Comment, domain and path are set like any other attribute. -/
inductive Change where
  | setName (name : Text)
  | setValue (value : Text)
  | set (key : Text) (value : Option Text)
  | remove (key : Text)
  | setMaxAge (seconds : Int)
  | setExpires (date : HttpDate)
  | setSecure (secure : Bool)
  | setSameSite (rule : SameSite)
  | setVersion (version : Nat)

/-- The cookie behind a change. -/
def Change.apply : Change → Cookie → Cookie
  | setName name, c => c.setName name
  | setValue value, c => c.setValue value
  | set key value, c => c.set key value
  | remove key, c => c.remove key
  | setMaxAge seconds, c => c.setMaxAge seconds
  | setExpires date, c => c.setExpires date
  | setSecure secure, c => c.setSecure secure
  | setSameSite rule, c => c.setSameSite rule
  | setVersion version, c => c.setVersion version

/-- Cookies that changes make of those to start from. -/
inductive Made (start : Cookie → Prop) : Cookie → Prop
  | start {c : Cookie} : start c → Made start c
  | change {c : Cookie} (k : Change) : Made start c → Made start (k.apply c)

/-- What a cookie starts from. -/
inductive Origin : Cookie → Prop
  | empty : Origin {}
  | ofNameValue (name value : Text) : Origin (.ofNameValue name value)
  | parsed {s : Text} {c : Cookie} : parse s = .ok c → Origin c

/-- What a change comes to: it sets the name or the value, puts another attribute or
removes one. -/
inductive Step (c : Cookie) : Cookie → Prop
  | setName (name : Text) : Step c (c.setName name)
  | setValue (value : Text) : Step c (c.setValue value)
  | put {key : Text} (value : Option Text) :
    Text.sameFold key nameKey = false → Text.sameFold key valueKey = false →
      Step c ⟨OrderedTable.put (Text.sameFold · key) key value c.attributes⟩
  | remove (key : Text) : Step c (c.remove key)

theorem Step.set (c : Cookie) (key : Text) (value : Option Text) : Step c (c.set key value) := by
  unfold Cookie.set
  split
  · exact .setName _
  · rename_i hn
    split
    · exact .setValue _
    · rename_i hv
      exact .put value (by simpa using hn) (by simpa using hv)

theorem Change.step (k : Change) (c : Cookie) : Step c (k.apply c) := by
  cases k with
  | setName name => exact .setName name
  | setValue value => exact .setValue value
  | remove key => exact .remove key
  | set key value => exact Step.set c key value
  | setMaxAge seconds => exact Step.set c maxAgeKey (some (Number.signedDecimal seconds))
  | setExpires date => exact Step.set c expiresKey (some date.render)
  | setSameSite rule => exact Step.set c sameSiteKey (some rule.name)
  | setVersion version => exact Step.set c versionKey (some (Number.decimal version))
  | setSecure secure =>
    cases secure with
    | true => exact Step.set c secureKey (some "true".toList)
    | false => exact .remove secureKey

/-- What holds at the start and is kept by what a change comes to holds of all cookies
that changes make. -/
theorem Made.invariant {start P : Cookie → Prop} (hstart : ∀ c, start c → P c)
    (hstep : ∀ c c', P c → Step c c' → P c') {c : Cookie} (h : Made start c) : P c := by
  induction h with
  | start hc => exact hstart _ hc
  | change k _ ih => exact hstep _ _ ih (k.step _)

/-! ## Insertions -/

/-- The table with an entry at place `i`. There is no place behind the end. -/
def insertAt? (i : Nat) (p : Text × Option Text) (t : OrderedTable Text (Option Text)) :
    Option (OrderedTable Text (Option Text)) :=
  if i ≤ t.length then some (t.take i ++ p :: t.drop i) else none

/-- Sets the name by an insertion in front. -/
def setName? (c : Cookie) (name : Text) : Option Cookie :=
  (insertAt? 0 (nameKey, some name) (OrderedTable.erase (· == nameKey) c.attributes)).map Cookie.mk

/-- Sets the value by an insertion behind the name. -/
def setValue? (c : Cookie) (value : Text) : Option Cookie :=
  let others := OrderedTable.erase (· == valueKey) c.attributes
  let place := if OrderedTable.has (· == nameKey) others then 1 else 0
  (insertAt? place (valueKey, some value) others).map Cookie.mk

/-- Sets an attribute; the name and the value by an insertion. -/
def set? (c : Cookie) (key : Text) (value : Option Text) : Option Cookie :=
  if Text.sameFold key nameKey then c.setName? (value.getD [])
  else if Text.sameFold key valueKey then c.setValue? (value.getD [])
  else some (c.set key value)

/-- The cookie behind a change; none when an insertion has no place. -/
def Change.attempt : Change → Cookie → Option Cookie
  | setName name, c => c.setName? name
  | setValue value, c => c.setValue? value
  | set key value, c => c.set? key value
  | remove key, c => some (c.remove key)
  | setMaxAge seconds, c => c.set? maxAgeKey (some (Number.signedDecimal seconds))
  | setExpires date, c => c.set? expiresKey (some date.render)
  | setSecure secure, c =>
    if secure then c.set? secureKey (some "true".toList) else some (c.remove secureKey)
  | setSameSite rule, c => c.set? sameSiteKey (some rule.name)
  | setVersion version, c => c.set? versionKey (some (Number.decimal version))

theorem setName?_eq (c : Cookie) (name : Text) : c.setName? name = some (c.setName name) := by
  unfold setName? insertAt?
  rw [if_pos (Nat.zero_le _)]
  rfl

theorem setValue?_eq (c : Cookie) (value : Text) : c.setValue? value = some (c.setValue value) := by
  have place : ∀ t : OrderedTable Text (Option Text),
      (if OrderedTable.has (· == nameKey) t then 1 else 0) ≤ t.length := by
    intro t
    cases t with
    | nil => exact Nat.le_refl 0
    | cons p t =>
      rw [List.length_cons]
      split <;> omega
  simp only [setValue?, insertAt?, if_pos (place _)]
  rfl

theorem set?_eq (c : Cookie) (key : Text) (value : Option Text) : c.set? key value = some (c.set key value) := by
  unfold set?
  split
  · rename_i hn
    rw [setName?_eq, Cookie.set, if_pos hn]
  · rename_i hn
    split
    · rename_i hv
      rw [setValue?_eq, Cookie.set, if_neg hn, if_pos hv]
    · rfl

/-- No insertion lacks its place. -/
theorem Change.attempt_eq (k : Change) (c : Cookie) : k.attempt c = some (k.apply c) := by
  cases k with
  | setName name => exact setName?_eq c name
  | setValue value => exact setValue?_eq c value
  | remove key => rfl
  | set key value => exact set?_eq c key value
  | setMaxAge seconds => exact set?_eq c _ _
  | setExpires date => exact set?_eq c _ _
  | setSameSite rule => exact set?_eq c _ _
  | setVersion version => exact set?_eq c _ _
  | setSecure secure =>
    cases secure with
    | true => exact set?_eq c secureKey (some "true".toList)
    | false => rfl

/-! ## The places -/

/-- Attributes with name and value in front, as far as they are there. -/
def layout (name value : Option (Option Text)) (others : OrderedTable Text (Option Text)) :
    OrderedTable Text (Option Text) :=
  (name.map (nameKey, ·)).toList ++ (value.map (valueKey, ·)).toList ++ others

/-- The attributes of a cookie are its name, its value and others, whose keys are
distinct and neither of the two. -/
structure Laid (c : Cookie) (name value : Option (Option Text)) (others : OrderedTable Text (Option Text)) :
    Prop where
  attributes_eq : c.attributes = layout name value others
  distinct : OrderedTable.Distinct id others
  others : ∀ p ∈ others, p.1 ≠ nameKey ∧ p.1 ≠ valueKey

variable {c c' : Cookie} {name value : Option (Option Text)} {others : OrderedTable Text (Option Text)}

theorem erase_optional (p : Text → Bool) (k : Text) (v : Option (Option Text))
    (t : OrderedTable Text (Option Text)) :
    OrderedTable.erase p ((v.map (k, ·)).toList ++ t) =
      if v.isSome ∧ p k = true then t else (v.map (k, ·)).toList ++ OrderedTable.erase p t := by
  cases v with
  | none => rfl
  | some v =>
    by_cases hp : p k = true
    · rw [if_pos ⟨rfl, hp⟩]
      exact OrderedTable.erase_cons_of_pos hp t
    · rw [if_neg fun h => hp h.2]
      exact OrderedTable.erase_cons_of_neg (by simpa using hp) t

/-- Removing takes away the name or the value when it finds one, and else another attribute. -/
theorem erase_layout (p : Text → Bool) (name value : Option (Option Text))
    (others : OrderedTable Text (Option Text)) :
    OrderedTable.erase p (layout name value others) =
      if name.isSome ∧ p nameKey = true then layout none value others
      else if value.isSome ∧ p valueKey = true then layout name none others
      else layout name value (OrderedTable.erase p others) := by
  unfold layout
  rw [List.append_assoc, erase_optional, erase_optional]
  by_cases hn : name.isSome ∧ p nameKey = true
  · rw [if_pos hn, if_pos hn]
    rfl
  · rw [if_neg hn, if_neg hn]
    by_cases hv : value.isSome ∧ p valueKey = true
    · rw [if_pos hv, if_pos hv, Option.map_none, Option.toList_none, List.append_nil]
    · rw [if_neg hv, if_neg hv, List.append_assoc]

theorem Laid.erase_reserved (h : Laid c name value others) {key : Text} (hkey : key = nameKey ∨ key = valueKey) :
    OrderedTable.erase (· == key) c.attributes =
      layout (if key = nameKey then none else name) (if key = valueKey then none else value) others := by
  have ho : OrderedTable.erase (· == key) others = others := by
    refine List.eraseP_of_forall_not fun p hp heq => ?_
    have hp := h.others p hp
    rcases hkey with rfl | rfl
    · exact hp.1 (by simpa using heq)
    · exact hp.2 (by simpa using heq)
  rw [h.attributes_eq, erase_layout, ho]
  rcases hkey with rfl | rfl <;> cases name <;> cases value <;> rfl

theorem Laid.setName (h : Laid c name value others) (n : Text) :
    Laid (c.setName n) (some (some n)) value others := by
  refine ⟨?_, h.distinct, h.others⟩
  unfold Cookie.setName
  rw [h.erase_reserved (.inl rfl), if_pos rfl, if_neg (by decide)]
  rfl

theorem Laid.setValue (h : Laid c name value others) (v : Text) :
    Laid (c.setValue v) name (some (some v)) others := by
  refine ⟨?_, h.distinct, h.others⟩
  have absent : OrderedTable.has (· == nameKey) others = false :=
    List.any_eq_false.2 fun p hp => by simpa using (h.others p hp).1
  unfold Cookie.setValue
  rw [h.erase_reserved (.inr rfl), if_neg (by decide), if_pos rfl]
  cases name with
  | some n => rfl
  | none => simp only [layout, Option.map_none, Option.toList_none, List.nil_append, absent]; rfl

theorem key_of_mem_front {name value : Option (Option Text)} {p : Text × Option Text}
    (hp : p ∈ layout name value []) : p.1 = nameKey ∨ p.1 = valueKey := by
  simp only [layout, List.append_nil, List.mem_append, Option.mem_toList, Option.map_eq_some_iff] at hp
  rcases hp with ⟨n, -, rfl⟩ | ⟨v, -, rfl⟩
  · exact .inl rfl
  · exact .inr rfl

theorem Laid.put (h : Laid c name value others) {key : Text} (v : Option Text)
    (hn : Text.sameFold key nameKey = false) (hv : Text.sameFold key valueKey = false) :
    Laid ⟨OrderedTable.put (Text.sameFold · key) key v c.attributes⟩ name value
      (OrderedTable.put (Text.sameFold · key) key v others) where
  attributes_eq := by
    have front : ∀ p ∈ layout name value [], Text.sameFold p.1 key = false := by
      intro p hp
      rw [Text.sameFold_comm]
      rcases key_of_mem_front hp with hk | hk
      · rw [hk]; exact hn
      · rw [hk]; exact hv
    have passed := OrderedTable.upsert_append (p := (Text.sameFold · key)) front key v (fun _ => v) others
    simp only [layout, List.append_nil] at passed
    rw [h.attributes_eq]
    exact passed
  distinct := by
    refine h.distinct.upsert_where (fun k hk => ?_) _ _
    have hk : k = key := hk
    rw [hk]
    exact Text.sameFold_self key
  others := by
    refine OrderedTable.forall_put (I := fun k _ => k ≠ nameKey ∧ k ≠ valueKey) h.others ?_ ?_
    · constructor
      · rintro rfl
        cases hn
      · rintro rfl
        cases hv
    · exact fun p hp _ => h.others p hp

theorem Laid.remove (h : Laid c name value others) (key : Text) :
    ∃ name' value' others', Laid (c.remove key) name' value' others' := by
  have hsub : (OrderedTable.erase (Text.sameFold · key) others).Sublist others := List.eraseP_sublist
  unfold Cookie.remove
  rw [h.attributes_eq, erase_layout]
  split
  · exact ⟨none, value, others, rfl, h.distinct, h.others⟩
  · split
    · exact ⟨name, none, others, rfl, h.distinct, h.others⟩
    · exact ⟨name, value, _, rfl, h.distinct.sublist hsub, fun p hp => h.others p (hsub.subset hp)⟩

/-- **What each change comes to keeps the places.** -/
theorem Laid.step (h : Laid c name value others) (hs : Step c c') :
    ∃ name' value' others', Laid c' name' value' others' := by
  cases hs with
  | setName n => exact ⟨_, _, _, h.setName n⟩
  | setValue v => exact ⟨_, _, _, h.setValue v⟩
  | put v hn hv => exact ⟨_, _, _, h.put v hn hv⟩
  | remove key => exact h.remove key

theorem Laid.empty : Laid {} none none [] := ⟨rfl, List.nodup_nil, by simp⟩

theorem Readable.laid {name value : Option Text} (h : Readable c name value others) :
    Laid c (some name) (some value) others where
  attributes_eq := h.attributes_eq
  distinct := by
    have hd := h.distinct
    rw [h.attributes_eq] at hd
    exact hd.sublist ((List.sublist_cons_self _ _).trans (List.sublist_cons_self _ _))
  others := fun _ hp => h.key_ne hp

theorem Laid.ofNameValue (n v : Text) : Laid (ofNameValue n v) (some (some n)) (some (some v)) [] :=
  (Laid.empty.setName n).setValue v

theorem Origin.laid (h : Origin c) : ∃ name value others, Laid c name value others := by
  cases h with
  | empty => exact ⟨_, _, _, Laid.empty⟩
  | ofNameValue n v => exact ⟨_, _, _, Laid.ofNameValue n v⟩
  | parsed hp =>
    obtain ⟨name, value, others, hr⟩ := readable_of_parse hp
    exact ⟨_, _, _, hr.laid⟩

theorem Made.laid {start : Cookie → Prop} (hstart : ∀ c, start c → ∃ name value others, Laid c name value others)
    (h : Made start c) : ∃ name value others, Laid c name value others := by
  refine h.invariant hstart fun c c' hc hs => ?_
  obtain ⟨name, value, others, hl⟩ := hc
  exact hl.step hs

/-! ## Keys -/

/-- The keys of the attributes in order. -/
def keys (c : Cookie) : List Text := c.attributes.map Prod.fst

theorem Laid.keys_eq (h : Laid c name value others) :
    c.keys = (name.map fun _ => nameKey).toList ++ (value.map fun _ => valueKey).toList ++ others.map Prod.fst := by
  unfold keys
  rw [h.attributes_eq, layout, List.map_append, List.map_append]
  cases name <;> cases value <;> rfl

theorem Laid.not_mem_others (h : Laid c name value others) :
    nameKey ∉ others.map Prod.fst ∧ valueKey ∉ others.map Prod.fst := by
  constructor
  · intro hm
    obtain ⟨p, hp, hk⟩ := List.mem_map.1 hm
    exact (h.others p hp).1 hk
  · intro hm
    obtain ⟨p, hp, hk⟩ := List.mem_map.1 hm
    exact (h.others p hp).2 hk

theorem Laid.mem_keys (h : Laid c name value others) :
    (nameKey ∈ c.keys ↔ name.isSome) ∧ (valueKey ∈ c.keys ↔ value.isSome) := by
  have hne : nameKey ≠ valueKey := by decide
  obtain ⟨hn, hv⟩ := h.not_mem_others
  rw [h.keys_eq]
  cases name <;> cases value <;> simp [-List.mem_map, hn, hv, hne, hne.symm]

theorem Laid.nodup_keys (h : Laid c name value others) : c.keys.Nodup := by
  have hd : (others.map Prod.fst).Nodup := h.distinct
  have hne : nameKey ≠ valueKey := by decide
  obtain ⟨hn, hv⟩ := h.not_mem_others
  rw [h.keys_eq]
  cases name <;> cases value <;> simp [-List.mem_map, hd, hn, hv, hne]

theorem Laid.place_unique (h : Laid c name value others) {key : Text} {i j : Nat} (hi : c.keys[i]? = some key)
    (hj : c.keys[j]? = some key) : i = j :=
  (List.getElem?_inj (List.getElem?_eq_some_iff.1 hi).1 h.nodup_keys).1 (hi.trans hj.symm)

theorem Laid.name_place (h : Laid c name value others) {i : Nat} (hi : c.keys[i]? = some nameKey) : i = 0 := by
  obtain ⟨n, rfl⟩ := Option.isSome_iff_exists.1 (h.mem_keys.1.1 (List.mem_of_getElem? hi))
  refine h.place_unique hi ?_
  rw [h.keys_eq]
  rfl

/-- The value has no place but the one behind the name, or the first if there is none. -/
theorem Laid.value_place (h : Laid c name value others) {i : Nat} (hi : c.keys[i]? = some valueKey) :
    i = if nameKey ∈ c.keys then 1 else 0 := by
  obtain ⟨v, rfl⟩ := Option.isSome_iff_exists.1 (h.mem_keys.2.1 (List.mem_of_getElem? hi))
  refine h.place_unique hi ?_
  rw [if_congr h.mem_keys.1 rfl rfl, h.keys_eq]
  cases name <;> rfl

/-- Keys are distinct, and those of the name and the value stand where they belong. -/
structure Reserved (c : Cookie) : Prop where
  distinct : c.keys.Nodup
  name : ∀ i, c.keys[i]? = some nameKey → i = 0
  value : ∀ i, c.keys[i]? = some valueKey → i = if nameKey ∈ c.keys then 1 else 0

/-- **Name and value keep reserved places.** In every cookie that changes make of an
empty one, of a name and a value or of one that was read, they are where they belong,
and every further change has a place for what it inserts. A name and a value are set in
an empty cookie, and so is the name when a cookie is read. -/
theorem reserved_places (h : Made Origin c) : Reserved c ∧ ∀ k : Change, k.attempt c = some (k.apply c) := by
  obtain ⟨name, value, others, hl⟩ := h.laid fun _ => Origin.laid
  exact ⟨⟨hl.nodup_keys, fun _ => hl.name_place, fun _ => hl.value_place⟩, fun k => k.attempt_eq c⟩

/-- A cookie with a look-alike of each of the two keys. -/
def lookAlikes : Cookie :=
  ⟨[(nameKey, some ['a']), (valueKey, some ['b']), (['V', 'A', 'L', 'U', 'E'], some ['c']),
    (['n', 'a', 'm', 'e'], none)]⟩

/-- Look-alikes are read. With the name removed the value is first, and setting the
look-alike of the name sets the name. -/
theorem reserved_places_look_alikes :
    parse ['a', '=', 'b', ';', 'V', 'A', 'L', 'U', 'E', '=', 'c', ';', 'n', 'a', 'm', 'e'] = .ok lookAlikes ∧
      (lookAlikes.remove nameKey).keys = [valueKey, ['V', 'A', 'L', 'U', 'E'], ['n', 'a', 'm', 'e']] ∧
      Reserved (lookAlikes.remove nameKey) ∧
      Reserved ((lookAlikes.remove nameKey).set ['n', 'a', 'm', 'e'] none) ∧
      (Change.setValue ['d']).attempt (lookAlikes.remove nameKey) =
        some ((lookAlikes.remove nameKey).setValue ['d']) := by
  have hp : parse ['a', '=', 'b', ';', 'V', 'A', 'L', 'U', 'E', '=', 'c', ';', 'n', 'a', 'm', 'e'] =
      .ok lookAlikes := by decide +kernel
  have hr : Made Origin (lookAlikes.remove nameKey) := .change (.remove nameKey) (.start (.parsed hp))
  exact ⟨hp, by decide, (reserved_places hr).1,
    (reserved_places (.change (.set ['n', 'a', 'm', 'e'] none) hr)).1, (reserved_places hr).2 (.setValue ['d'])⟩

end MessageHead.Cookie
