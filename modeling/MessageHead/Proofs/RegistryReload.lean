/-
A table that is loaded again.

Behind a row the registry knows its media type and all its extensions (`Known`), and stays so.
Entering a known row can change a description and nothing else, so a table that is loaded
again leaves every entry in its place with its media type and its extensions, and does not
touch the index of extensions (`Redescribed`).

A description may well change on the way: the first row of a media type puts its own in place
of that of the last one. But rows either leave a description alone or come to one that does
not depend on it (`redescribe_cases`), so that doing it again ends where it ended before.
-/
import MessageHead.Proofs.RegistryOrder

namespace MessageHead.Registry

variable {rows : List Row} {row other : Row} {r r' r'' : Registry} {key : Text}

/-! ## Descriptions -/

/-- The description of the entry with that key. -/
def descriptionOf (r : Registry) (key : Text) : Text :=
  ((OrderedTable.get? (· == key) r.entries).map Registration.description).getD []

/-- What a row makes of the description of a key. -/
def redescribe (key description : Text) (row : Row) : Text :=
  if Text.lower row.1.bare.name = key ∧ row.2.1 ≠ [] then row.2.1 else description

theorem descriptionOf_describe (m : MediaType) (r : Registry) (description key : Text) :
    (describe m r description).descriptionOf key =
      if Text.lower m.name = key ∧ description ≠ [] then description else r.descriptionOf key := by
  refine (field_upsert (φ := Registration.description) (f := fun d => if description.isEmpty then d else description)
    (fun e => by split <;> rfl) _ key ⟨m, [], []⟩ r.entries).trans ?_
  show (if _ then (if _ then r.descriptionOf key else description) else r.descriptionOf key) = _
  by_cases hk : Text.lower m.name = key <;> by_cases hd : description = [] <;> simp [hk, hd]

theorem descriptionOf_addExtension (m : MediaType) (r : Registry) (ext key : Text) :
    (addExtension m r ext).descriptionOf key = r.descriptionOf key := by
  rcases addExtension_cases m r ext with ⟨-, heq⟩ | ⟨-, heq⟩
  · rw [heq]
  · rw [heq]
    refine (field_upsert (φ := Registration.description) (f := id)
      (g := fun e => { e with extensions := e.extensions ++ [normalizeExtension ext] }) (fun _ => rfl) _ key
      ⟨m, [], []⟩ r.entries).trans ?_
    split <;> rfl

theorem descriptionOf_enter (r : Registry) (row : Row) (key : Text) :
    (enter r row).descriptionOf key = redescribe key (r.descriptionOf key) row := by
  have hextensions : (enter r row).descriptionOf key = (describe row.1.bare r row.2.1).descriptionOf key := by
    refine enter_induction (P := fun r' => r'.descriptionOf key = _) rfl fun r' ext _ h => ?_
    rw [descriptionOf_addExtension, h]
  exact hextensions.trans (descriptionOf_describe row.1.bare r row.2.1 key)

theorem descriptionOf_rows (r : Registry) (rows : List Row) (key : Text) :
    (rows.foldl enter r).descriptionOf key = rows.foldl (redescribe key) (r.descriptionOf key) := by
  induction rows generalizing r with
  | nil => rfl
  | cons row rows ih => rw [List.foldl_cons, ih, descriptionOf_enter, List.foldl_cons]

/-- **Rows leave a description alone or put one of their own**, whatever stood there. -/
theorem redescribe_cases (key : Text) (rows : List Row) :
    (∀ d, rows.foldl (redescribe key) d = d) ∨ ∃ own, ∀ d, rows.foldl (redescribe key) d = own := by
  induction rows with
  | nil => exact .inl fun _ => rfl
  | cons row rows ih =>
    rcases ih with hkeep | ⟨own, hown⟩
    · by_cases hrow : Text.lower row.1.bare.name = key ∧ row.2.1 ≠ []
      · exact .inr ⟨row.2.1, fun d => by rw [List.foldl_cons, hkeep, redescribe, if_pos hrow]⟩
      · exact .inl fun d => by rw [List.foldl_cons, hkeep, redescribe, if_neg hrow]
    · exact .inr ⟨own, fun d => hown _⟩

theorem redescribe_again (key : Text) (rows : List Row) (d : Text) :
    rows.foldl (redescribe key) (rows.foldl (redescribe key) d) = rows.foldl (redescribe key) d := by
  rcases redescribe_cases key rows with hkeep | ⟨own, hown⟩
  · rw [hkeep]
  · rw [hown, hown]

/-! ## Known rows -/

/-- The registry has the media type of the row, and lists the extensions of the row with it. -/
structure Known (r : Registry) (row : Row) : Prop where
  entered : r.entries.has (· == Text.lower row.1.bare.name) = true
  listed : ∀ ext, Pairs row ext → ext ∈ r.extensionsOf (Text.lower row.1.bare.name)

theorem has_addExtension {p : Text → Bool} (h : r.entries.has p = true) (m : MediaType) (ext : Text) :
    (addExtension m r ext).entries.has p = true := by
  rcases addExtension_cases m r ext with ⟨-, heq⟩ | ⟨-, heq⟩
  · rwa [heq]
  · rw [heq]
    exact OrderedTable.has_upsert h _ _ _ _

theorem has_enter {p : Text → Bool} (h : (describe row.1.bare r row.2.1).entries.has p = true) :
    (enter r row).entries.has p = true :=
  enter_induction (P := fun r' => r'.entries.has p = true) h fun _ ext _ h => has_addExtension h _ ext

theorem known_enter (r : Registry) (row : Row) : Known (enter r row) row where
  entered := has_enter (OrderedTable.has_upsert_self (p := (· == Text.lower row.1.bare.name)) (beq_self_eq_true _) _ _ _)
  listed _ hext := mem_extensionsOf_enter.2 (.inr ⟨hext, rfl⟩)

theorem Known.enter (h : Known r row) (other : Row) : Known (enter r other) row where
  entered := has_enter (OrderedTable.has_upsert h.entered _ _ _ _)
  listed ext hext := mem_extensionsOf_enter.2 (.inl (h.listed ext hext))

theorem Known.foldl (h : Known r row) (rows : List Row) : Known (rows.foldl Registry.enter r) row :=
  List.foldlRecOn (motive := fun r' => Known r' row) rows _ h fun _ h other _ => h.enter other

/-- **Behind rows all of them are known.** -/
theorem known_rows (r : Registry) (rows : List Row) : ∀ row ∈ rows, Known (rows.foldl Registry.enter r) row := by
  induction rows generalizing r with
  | nil => simp
  | cons row rows ih => exact List.forall_mem_cons.2 ⟨(known_enter r row).foldl rows, ih _⟩

/-- Of a known row only the description is entered. -/
theorem Known.enter_eq (h : Known r row) : Registry.enter r row = describe row.1.bare r row.2.1 := by
  refine enter_induction (P := fun r' => r' = describe row.1.bare r row.2.1) rfl ?_
  rintro r' ext hext rfl
  rcases addExtension_cases row.1.bare (describe row.1.bare r row.2.1) ext with ⟨-, heq⟩ | ⟨⟨hne, hnew⟩, -⟩
  · exact heq
  · rw [extensionsOf_describe] at hnew
    exact absurd (h.listed _ ⟨hne, ext, hext, rfl⟩) hnew

/-! ## Registries that differ in descriptions -/

/-- An entry without its description. -/
def undescribed (p : Text × Registration) : Text × MediaType × List Text := (p.1, p.2.mediaType, p.2.extensions)

/-- The second registry is the first one with other descriptions. -/
structure Redescribed (r r' : Registry) : Prop where
  entries : r'.entries.map undescribed = r.entries.map undescribed
  byExtension : r'.byExtension = r.byExtension

theorem Redescribed.refl (r : Registry) : Redescribed r r := ⟨rfl, rfl⟩

theorem Redescribed.trans (h : Redescribed r r') (h' : Redescribed r' r'') : Redescribed r r'' :=
  ⟨h'.entries.trans h.entries, h'.byExtension.trans h.byExtension⟩

theorem Known.redescribed (h : Known r row) : Redescribed r (Registry.enter r row) := by
  rw [h.enter_eq]
  refine ⟨?_, rfl⟩
  unfold describe
  rw [OrderedTable.map_upsert (φ := undescribed) fun _ e => by unfold undescribed; split <;> rfl, if_pos h.entered,
    List.append_nil]

theorem redescribed_rows (h : ∀ row ∈ rows, Known r row) : Redescribed r (rows.foldl enter r) := by
  induction rows generalizing r with
  | nil => exact .refl r
  | cons row rows ih =>
    obtain ⟨hrow, hrows⟩ := List.forall_mem_cons.1 h
    exact hrow.redescribed.trans (ih fun other hm => (hrows other hm).enter row)

theorem Indexed.descriptionOf_eq (h : Indexed r) {p : Text × Registration} (hp : p ∈ r.entries) :
    r.descriptionOf p.1 = p.2.description := by
  have hget := OrderedTable.get?_of_mem id h.keys hp
  simp only [id_eq] at hget
  unfold descriptionOf
  rw [hget]
  rfl

/-- The entries are known by what is in them beside the descriptions, and by these. -/
theorem Indexed.entries_eq (h : Indexed r) : r.entries = (r.entries.map undescribed).map fun p =>
    (p.1, ⟨p.2.1, r.descriptionOf p.1, p.2.2⟩) := by
  conv => lhs; rw [← List.map_id r.entries]
  rw [List.map_map]
  refine List.map_congr_left fun p hp => ?_
  simp only [Function.comp_apply, undescribed, h.descriptionOf_eq hp, id]

theorem Redescribed.eq (h : Redescribed r r') (hr : Indexed r) (hr' : Indexed r')
    (hd : ∀ key, r'.descriptionOf key = r.descriptionOf key) : r' = r := by
  have hentries : r'.entries = r.entries := by
    rw [hr'.entries_eq, h.entries]
    simp only [hd]
    exact hr.entries_eq.symm
  have hext := h.byExtension
  cases r
  cases r'
  simp only at hentries hext
  rw [hentries, hext]

/-! ## Tables -/

/-- **Rows that are entered again change nothing.** -/
theorem Indexed.rows_again (h : Indexed r) (rows : List Row) :
    rows.foldl Registry.enter (rows.foldl Registry.enter r) = rows.foldl Registry.enter r := by
  have hfirst := h.rows rows
  refine (redescribed_rows (known_rows r rows)).eq hfirst (hfirst.rows rows) fun key => ?_
  rw [descriptionOf_rows, descriptionOf_rows, redescribe_again]

/-- **A table that is loaded twice is loaded once.** Behind any calls, loading a text again
reads as many entries as the first time and leaves the registry as it is: every entry in its
place, with its media type, its description and its extensions, and the media types of every
extension. -/
theorem load_twice (cs : List Call) (source : Text) :
    ((after cs).load source).2.load source = (after cs).load source :=
  congrArg (Prod.mk _) ((indexes_inverse cs).rows_again (readTable source))

end MessageHead.Registry
