/-
The two tables of a registry.

One table holds what is known of each media type, its extensions among it; the other holds
the media types of each extension. Both are changed at once, and whether anything is new is
decided by the first alone (`extensionsOf`): an extension that is listed already, or that is
empty, changes neither. That the second then never holds a media type twice is a consequence
of what the two have in common (`Indexed.paired`), which every call keeps.

Media types are told apart by their names in lower case. Two that differ in where their name
has its first slash share a name without being equal, and count as one here.
-/
import MessageHead.Proofs.TableFacts
import MessageHead.Registry.Table

namespace MessageHead.Registry

/-! ## Calls -/

/-- A media type as it is registered, with its description and its extensions. -/
abbrev Row := MediaType × Text × List Text

/-- Registers a row. -/
def enter (r : Registry) (row : Row) : Registry := r.register row.1 row.2.1 row.2.2

/-- A call that changes a registry. -/
inductive Call where
  | register (m : MediaType) (description : Text) (extensions : List Text)
  | load (source : Text)

/-- The registry behind a call. -/
def Call.apply : Call → Registry → Registry
  | register m description extensions, r => r.register m description extensions
  | load source, r => (r.load source).2

/-- The rows that a call registers. -/
def Call.rows : Call → List Row
  | register m description extensions => [(m, description, extensions)]
  | load source => readTable source

/-- The registry behind calls that began with an empty one. -/
def after (cs : List Call) : Registry := cs.foldl (fun r c => c.apply r) {}

theorem Call.apply_eq (c : Call) (r : Registry) : c.apply r = c.rows.foldl enter r := by
  cases c <;> rfl

theorem foldl_apply (cs : List Call) (r : Registry) :
    cs.foldl (fun r c => c.apply r) r = (cs.flatMap Call.rows).foldl enter r := by
  induction cs generalizing r with
  | nil => rfl
  | cons c cs ih => rw [List.foldl_cons, ih, c.apply_eq, List.flatMap_cons, List.foldl_append]

/-- A row describes its media type and lists its extensions one after the other: what holds
behind the description and is kept by every extension holds behind the row. -/
theorem enter_induction {r : Registry} {row : Row} {P : Registry → Prop}
    (hdescribe : P (describe row.1.bare r row.2.1))
    (hextension : ∀ r' ext, ext ∈ row.2.2 → P r' → P (addExtension row.1.bare r' ext)) : P (enter r row) :=
  List.foldlRecOn (motive := P) row.2.2 _ hdescribe fun r' h ext hext => hextension r' ext hext h

theorem after_eq (cs : List Call) : after cs = (cs.flatMap Call.rows).foldl enter {} := foldl_apply cs {}

/-! ## What the tables hold -/

/-- The extensions of the entry with that key. -/
def extensionsOf (r : Registry) (key : Text) : List Text :=
  ((OrderedTable.get? (· == key) r.entries).map Registration.extensions).getD []

/-- The media types under an extension. -/
def typesUnder (r : Registry) (ext : Text) : List MediaType :=
  (OrderedTable.get? (· == ext) r.byExtension).getD []

variable {r : Registry} {m : MediaType} {key ext e : Text}

theorem lists_eq (r : Registry) (key ext : Text) : r.lists key ext = (r.extensionsOf key).contains ext := by
  unfold lists extensionsOf
  cases OrderedTable.get? (· == key) r.entries <;> rfl

/-- A change of an entry, seen through one of its fields. -/
theorem field_upsert {α : Type} {φ : Registration → α} {f : α → α} {g : Registration → Registration}
    (hg : ∀ e, φ (g e) = f (φ e)) (key k : Text) (fresh : Registration)
    (t : OrderedTable Text Registration) :
    ((OrderedTable.get? (· == k) (t.upsert (· == key) key fresh g)).map φ).getD (φ fresh) =
      if key = k then f (((OrderedTable.get? (· == k) t).map φ).getD (φ fresh))
      else ((OrderedTable.get? (· == k) t).map φ).getD (φ fresh) := by
  have hget := OrderedTable.get?_upsert id key fresh g t k
  simp only [id_eq, beq_iff_eq] at hget
  simp only [hget]
  split
  · rename_i hk
    subst hk
    cases OrderedTable.get? (· == key) t <;> simp [hg]
  · rfl

theorem extensionsOf_describe (m : MediaType) (r : Registry) (description key : Text) :
    (describe m r description).extensionsOf key = r.extensionsOf key := by
  refine (field_upsert (φ := Registration.extensions) (f := id) (fun e => by split <;> rfl) _ key ⟨m, [], []⟩
    r.entries).trans ?_
  split <;> rfl

theorem typesUnder_describe (m : MediaType) (r : Registry) (description ext : Text) :
    (describe m r description).typesUnder ext = r.typesUnder ext := rfl

/-- Listing an extension changes nothing or, when the extension is new to the media type, both
tables. -/
theorem addExtension_cases (m : MediaType) (r : Registry) (ext : Text) :
    (normalizeExtension ext = [] ∨ normalizeExtension ext ∈ r.extensionsOf (Text.lower m.name)) ∧
        addExtension m r ext = r ∨
      (normalizeExtension ext ≠ [] ∧ normalizeExtension ext ∉ r.extensionsOf (Text.lower m.name)) ∧
        addExtension m r ext =
          { entries := r.entries.upsert (· == Text.lower m.name) (Text.lower m.name) ⟨m, [], []⟩ fun e =>
              { e with extensions := e.extensions ++ [normalizeExtension ext] }
            byExtension := r.byExtension.upsert (· == normalizeExtension ext) (normalizeExtension ext) []
              (addType m) } := by
  unfold addExtension
  simp only [lists_eq]
  split
  · rename_i h
    exact .inl ⟨by simpa using h, rfl⟩
  · rename_i h
    exact .inr ⟨by simpa using h, rfl⟩

theorem extensionsOf_addExtension (m : MediaType) (r : Registry) (ext key : Text) :
    (addExtension m r ext).extensionsOf key =
      if Text.lower m.name = key ∧ normalizeExtension ext ≠ [] ∧ normalizeExtension ext ∉ r.extensionsOf key
      then r.extensionsOf key ++ [normalizeExtension ext] else r.extensionsOf key := by
  rcases addExtension_cases m r ext with ⟨hold, heq⟩ | ⟨hnew, heq⟩
  · rw [heq, if_neg]
    rintro ⟨rfl, hne, hnot⟩
    exact hold.elim hne hnot
  · have hup := field_upsert (φ := Registration.extensions) (f := (· ++ [normalizeExtension ext]))
      (g := fun e => { e with extensions := e.extensions ++ [normalizeExtension ext] }) (fun _ => rfl)
      (Text.lower m.name) key ⟨m, [], []⟩ r.entries
    rw [heq]
    refine Eq.trans hup ?_
    show (if _ then r.extensionsOf key ++ _ else r.extensionsOf key) = _
    by_cases hk : Text.lower m.name = key
    · subst hk
      rw [if_pos rfl, if_pos ⟨rfl, hnew⟩]
    · rw [if_neg hk, if_neg fun h => hk h.1]

theorem typesUnder_addExtension (m : MediaType) (r : Registry) (ext e : Text) :
    (addExtension m r ext).typesUnder e =
      if normalizeExtension ext = e ∧ e ≠ [] ∧ e ∉ r.extensionsOf (Text.lower m.name)
      then addType m (r.typesUnder e) else r.typesUnder e := by
  rcases addExtension_cases m r ext with ⟨hold, heq⟩ | ⟨hnew, heq⟩
  · rw [heq, if_neg]
    rintro ⟨rfl, hne, hnot⟩
    exact hold.elim hne hnot
  · have hget := OrderedTable.get?_upsert id (normalizeExtension ext) [] (addType m) r.byExtension e
    simp only [id_eq, beq_iff_eq] at hget
    rw [heq]
    unfold typesUnder
    simp only [hget]
    by_cases he : normalizeExtension ext = e
    · subst he
      rw [if_pos rfl, if_pos ⟨rfl, hnew⟩]
      rfl
    · rw [if_neg he, if_neg fun h => he h.1]

/-- An entry has an extension more, if any: the one that was listed with its media type. -/
theorem mem_extensionsOf_addExtension :
    e ∈ (addExtension m r ext).extensionsOf key ↔
      e ∈ r.extensionsOf key ∨ Text.lower m.name = key ∧ e ≠ [] ∧ normalizeExtension ext = e := by
  rw [extensionsOf_addExtension]
  split
  · rename_i h
    rw [List.mem_append, List.mem_singleton]
    constructor
    · rintro (he | rfl)
      · exact .inl he
      · exact .inr ⟨h.1, h.2.1, rfl⟩
    · rintro (he | ⟨-, -, rfl⟩)
      · exact .inl he
      · exact .inr rfl
  · rename_i h
    refine ⟨.inl, ?_⟩
    rintro (he | ⟨hk, hne, rfl⟩)
    · exact he
    · exact Decidable.not_not.1 fun hnot => h ⟨hk, hne, hnot⟩

/-! ## Media types told apart by name -/

/-- A media type as a registry holds it: without parameters, under the name of its parts. -/
structure Held (m : MediaType) : Prop where
  bare : m.parameters = []
  name_eq : m.name = m.mainType ++ '/' :: m.subtype

theorem held_bare (m : MediaType) : Held m.bare := ⟨rfl, rfl⟩

theorem Held.lower_name (h : Held m) :
    Text.lower m.name = Text.lower m.mainType ++ '/' :: Text.lower m.subtype := by
  have slash : Char.toLower '/' = '/' := by decide
  simp [h.name_eq, Text.lower, slash]

theorem Held.lower_name_of_equal {n : MediaType} (hm : Held m) (hn : Held n) (h : m.equal n = true) :
    Text.lower m.name = Text.lower n.name := by
  have hkey : m.key = n.key := by simpa [MediaType.equal] using h
  simp only [MediaType.key, Prod.mk.injEq] at hkey
  rw [hm.lower_name, hn.lower_name, hkey.1, hkey.2.1]

theorem addType_eq_append {ms : List MediaType} (hm : Held m) (hms : ∀ n ∈ ms, Held n)
    (hnew : ∀ n ∈ ms, Text.lower n.name ≠ Text.lower m.name) : addType m ms = ms ++ [m] := by
  unfold addType
  rw [if_neg]
  rw [List.any_eq_true]
  rintro ⟨n, hn, he⟩
  exact hnew n hn (hm.lower_name_of_equal (hms n hn) he).symm

/-! ## The two tables say the same -/

/-- What holds of an entry and its key. -/
structure Entered (key : Text) (e : Registration) : Prop where
  key_eq : key = Text.lower e.mediaType.name
  held : Held e.mediaType
  nodup : e.extensions.Nodup
  nonempty : [] ∉ e.extensions

/-- What holds of the media types under an extension. -/
structure Filed (ms : List MediaType) : Prop where
  filled : ms ≠ []
  distinct : (ms.map fun m => Text.lower m.name).Nodup
  held : ∀ m ∈ ms, Held m

theorem Entered.new (hm : Held m) : Entered (Text.lower m.name) ⟨m, [], []⟩ :=
  ⟨rfl, hm, List.nodup_nil, List.not_mem_nil⟩

theorem Entered.describe {entry : Registration} (h : Entered key entry) (description : Text) :
    Entered key { entry with description } :=
  ⟨h.key_eq, h.held, h.nodup, h.nonempty⟩

theorem Entered.list {entry : Registration} (h : Entered key entry) (hne : ext ≠ [])
    (hnew : ext ∉ entry.extensions) : Entered key { entry with extensions := entry.extensions ++ [ext] } where
  key_eq := h.key_eq
  held := h.held
  nodup := by
    refine List.nodup_append.2 ⟨h.nodup, by simp, fun a ha b hb hab => hnew ?_⟩
    rwa [← List.mem_singleton.1 hb, ← hab]
  nonempty := by simp [h.nonempty, hne.symm]

theorem Filed.new (hm : Held m) : Filed (addType m []) :=
  ⟨by simp [addType], by simp [addType], by simp [addType, hm]⟩

theorem Filed.append {ms : List MediaType} (h : Filed ms) (hm : Held m)
    (hnew : ∀ n ∈ ms, Text.lower n.name ≠ Text.lower m.name) : Filed (ms ++ [m]) where
  filled := by simp
  distinct := by
    rw [List.map_append, List.nodup_append]
    refine ⟨h.distinct, by simp, fun a ha b hb hab => ?_⟩
    obtain ⟨n, hn, rfl⟩ := List.mem_map.1 ha
    exact hnew n hn (hab.trans (by simpa using hb))
  held := List.forall_mem_append.2 ⟨h.held, by simpa using hm⟩

/-- Both tables have distinct keys and hold what they should, and an extension is listed with
an entry exactly when the media type of that name stands under the extension. -/
structure Indexed (r : Registry) : Prop where
  keys : OrderedTable.Distinct id r.entries
  extensions : OrderedTable.Distinct id r.byExtension
  entered : ∀ p ∈ r.entries, Entered p.1 p.2
  filed : ∀ p ∈ r.byExtension, Filed p.2
  paired : ∀ key ext, ext ∈ r.extensionsOf key ↔ ∃ m ∈ r.typesUnder ext, Text.lower m.name = key

theorem Indexed.empty : Indexed {} where
  keys := List.nodup_nil
  extensions := List.nodup_nil
  entered := by simp
  filed := by simp
  paired _ _ := by simp [extensionsOf, typesUnder, OrderedTable.get?, OrderedTable.first?]

theorem Indexed.not_mem_iff (h : Indexed r) :
    e ∉ r.extensionsOf key ↔ ∀ n ∈ r.typesUnder e, Text.lower n.name ≠ key := by
  rw [h.paired]
  simp

theorem Indexed.extensionsOf_eq (h : Indexed r) {p : Text × Registration} (hp : p ∈ r.entries) :
    r.extensionsOf p.1 = p.2.extensions := by
  have hget := OrderedTable.get?_of_mem id h.keys hp
  simp only [id_eq] at hget
  unfold extensionsOf
  rw [hget]
  rfl

theorem Indexed.typesUnder_eq (h : Indexed r) {p : Text × List MediaType} (hp : p ∈ r.byExtension) :
    r.typesUnder p.1 = p.2 := by
  have hget := OrderedTable.get?_of_mem id h.extensions hp
  simp only [id_eq] at hget
  unfold typesUnder
  rw [hget]
  rfl

/-- Under every extension, known or not, a name stands at most once and without parameters. -/
theorem Indexed.typesUnder_distinct (h : Indexed r) (ext : Text) :
    ((r.typesUnder ext).map fun m => Text.lower m.name).Nodup ∧ ∀ m ∈ r.typesUnder ext, Held m := by
  unfold typesUnder
  cases hget : OrderedTable.get? (· == ext) r.byExtension with
  | none => simp
  | some ms =>
    obtain ⟨p, hp, rfl⟩ := Option.map_eq_some_iff.1 hget
    have filed := h.filed p (List.mem_of_find?_eq_some hp)
    exact ⟨filed.distinct, filed.held⟩

/-- Under the extension that is listed the media type goes to the end. -/
theorem Indexed.typesUnder_addExtension (h : Indexed r) (hm : Held m) (ext e : Text) :
    (addExtension m r ext).typesUnder e =
      if normalizeExtension ext = e ∧ e ≠ [] ∧ e ∉ r.extensionsOf (Text.lower m.name)
      then r.typesUnder e ++ [m] else r.typesUnder e := by
  rw [Registry.typesUnder_addExtension]
  split
  · rename_i hnew
    exact addType_eq_append hm (h.typesUnder_distinct e).2 (h.not_mem_iff.1 hnew.2.2)
  · rfl

theorem Indexed.describe (h : Indexed r) (hm : Held m) (description : Text) :
    Indexed (describe m r description) where
  keys := h.keys.upsert _ _ _
  extensions := h.extensions
  entered := by
    have described : ∀ {key e}, Entered key e →
        Entered key (if description.isEmpty then e else { e with description }) := by
      intro key e he
      split
      · exact he
      · exact he.describe description
    exact OrderedTable.forall_upsert h.entered (described (.new hm)) fun p hp _ => described (h.entered p hp)
  filed := h.filed
  paired key ext := by
    rw [extensionsOf_describe, typesUnder_describe]
    exact h.paired key ext

theorem Indexed.paired_addExtension (h : Indexed r) (hm : Held m) (ext key e : Text) :
    e ∈ (addExtension m r ext).extensionsOf key ↔
      ∃ n ∈ (addExtension m r ext).typesUnder e, Text.lower n.name = key := by
  rw [mem_extensionsOf_addExtension, h.typesUnder_addExtension hm, h.paired key e]
  split
  · rename_i hnew
    simp only [List.mem_append, List.mem_singleton, or_and_right, exists_or, exists_eq_left]
    exact or_congr_right ⟨fun hk => hk.1, fun hk => ⟨hk, hnew.2.1, hnew.1⟩⟩
  · rename_i hold
    refine ⟨fun hor => hor.elim id ?_, .inl⟩
    rintro ⟨rfl, hne, hext⟩
    exact (h.paired _ e).1 (Decidable.not_not.1 fun hnot => hold ⟨hext, hne, hnot⟩)

/-- **Listing an extension keeps the two tables in step.** -/
theorem Indexed.addExtension (h : Indexed r) (hm : Held m) (ext : Text) :
    Indexed (addExtension m r ext) := by
  have hpaired := h.paired_addExtension hm ext
  rcases addExtension_cases m r ext with ⟨-, heq⟩ | ⟨⟨hne, hnot⟩, heq⟩
  · rwa [heq]
  rw [heq] at hpaired ⊢
  refine ⟨h.keys.upsert _ _ _, h.extensions.upsert _ _ _, ?_, ?_, hpaired⟩
  · refine OrderedTable.forall_upsert h.entered ((Entered.new hm).list hne (by simp)) fun p hp hk => ?_
    have hk : p.1 = Text.lower m.name := by simpa using hk
    rw [← hk, h.extensionsOf_eq hp] at hnot
    exact (h.entered p hp).list hne hnot
  · have hfresh := h.not_mem_iff.1 hnot
    refine OrderedTable.forall_upsert (I := fun _ ms => Filed ms) h.filed (Filed.new hm) fun p hp hk => ?_
    have hk : p.1 = normalizeExtension ext := by simpa using hk
    rw [← hk, h.typesUnder_eq hp] at hfresh
    have filed := h.filed p hp
    rw [addType_eq_append hm filed.held hfresh]
    exact filed.append hm hfresh

/-- **Registering keeps the two tables in step.** -/
theorem Indexed.enter (h : Indexed r) (row : Row) : Indexed (enter r row) := by
  have hm := held_bare row.1
  exact enter_induction (h.describe hm row.2.1) fun _ ext _ h => h.addExtension hm ext

theorem Indexed.rows (h : Indexed r) (rows : List Row) : Indexed (rows.foldl Registry.enter r) := by
  induction rows generalizing r with
  | nil => exact h
  | cons row rows ih => exact ih (h.enter row)

/-- **The two tables of a registry are inverse to each other.** Behind any calls, an entry
stands under the name of its media type in lower case and lists no extension twice and no
empty one; an extension is listed with an entry exactly when a media type of that name stands
under the extension; under an extension there is at least one media type and at most one of
each name; and none has parameters, or a name that is not that of its parts. -/
theorem indexes_inverse (cs : List Call) : Indexed (after cs) := by
  rw [after_eq]
  exact Indexed.empty.rows _

/-- Names count and not where their slash is: the second media type adds to the entry of the
first, under its own extension only. -/
example :
    let r := after [.register (.ofParts ['a', '/', 'b'] ['c'] []) [] [['x']],
      .register (.ofParts ['A'] ['b', '/', 'c'] []) ['d'] [['.', 'X'], ['y'], ['.']]]
    r.entries = [(['a', '/', 'b', '/', 'c'], ⟨.ofParts ['a', '/', 'b'] ['c'] [], ['d'], [['x'], ['y']]⟩)] ∧
      r.byExtension =
        [(['x'], [.ofParts ['a', '/', 'b'] ['c'] []]), (['y'], [.ofParts ['A'] ['b', '/', 'c'] []])] := by
  decide

end MessageHead.Registry
