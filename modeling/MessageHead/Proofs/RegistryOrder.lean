/-
The order in which a registry answers.

Under an extension the media types stand in the order of the rows that paired them with it
first (`InOrder`), whatever else was registered before, between and behind. So a list is only
ever appended to, and the first media type of an extension, which is the one a file name
stands for, stays what it is.
-/
import MessageHead.Proofs.RegistryIndexes

namespace MessageHead.Registry

/-! ## Rows that pair -/

/-- The row pairs its media type with an extension: that is what one of its extensions comes
to. An extension that comes to nothing pairs nothing. -/
def Pairs (row : Row) (ext : Text) : Prop := ext ≠ [] ∧ ∃ e ∈ row.2.2, normalizeExtension e = ext

instance (row : Row) (ext : Text) : Decidable (Pairs row ext) := inferInstanceAs (Decidable (_ ∧ _))

/-- At place `i` a media type of that name is paired with the extension for the first time,
and this is the media type, without its parameters. -/
structure PairedFirst (rows : List Row) (ext : Text) (i : Nat) (m : MediaType) : Prop where
  pairs : ∃ row, rows[i]? = some row ∧ Pairs row ext ∧ row.1.bare = m
  first : ∀ j row, j < i → rows[j]? = some row → Pairs row ext →
    Text.lower row.1.bare.name ≠ Text.lower m.name

/-- The media types that rows pair with an extension, each name once, in the order of the
places where it was paired first and as it was written there. -/
def InOrder (rows : List Row) (ext : Text) (ms : List MediaType) : Prop :=
  ∃ ps : List (Nat × MediaType), ms = ps.map Prod.snd ∧ ps.Pairwise (fun p q => p.1 < q.1) ∧
    ∀ i m, (i, m) ∈ ps ↔ PairedFirst rows ext i m

variable {rows : List Row} {row : Row} {ext key : Text} {i : Nat} {m : MediaType} {ms : List MediaType}
  {r : Registry}

/-! ## One row -/

theorem typesUnder_foldl_old {es : List Text} (h : Indexed r) (hm : Held m)
    (hold : ¬((ext ≠ [] ∧ ∃ e ∈ es, normalizeExtension e = ext) ∧ ext ∉ r.extensionsOf (Text.lower m.name))) :
    (es.foldl (addExtension m) r).typesUnder ext = r.typesUnder ext := by
  induction es generalizing r with
  | nil => rfl
  | cons e es ih =>
    have hkeep : (addExtension m r e).typesUnder ext = r.typesUnder ext := by
      rw [h.typesUnder_addExtension hm, if_neg]
      rintro ⟨he, hne, hnew⟩
      exact hold ⟨⟨hne, e, by simp, he⟩, hnew⟩
    rw [List.foldl_cons, ih (h.addExtension hm e), hkeep]
    rintro ⟨⟨hne, e', he', hext⟩, hnew⟩
    exact hold ⟨⟨hne, e', by simp [he'], hext⟩, fun hmem => hnew (mem_extensionsOf_addExtension.2 (.inl hmem))⟩

/-- Among several extensions the first that comes to one that is new puts the media type under
it, and no later one does so again. -/
theorem typesUnder_foldl_new {es : List Text} (h : Indexed r) (hm : Held m) (hne : ext ≠ [])
    (he : ∃ e ∈ es, normalizeExtension e = ext) (hnew : ext ∉ r.extensionsOf (Text.lower m.name)) :
    (es.foldl (addExtension m) r).typesUnder ext = r.typesUnder ext ++ [m] := by
  induction es generalizing r with
  | nil => simp at he
  | cons e es ih =>
    have hadd := h.typesUnder_addExtension hm e ext
    by_cases hext : normalizeExtension e = ext
    · rw [if_pos ⟨hext, hne, hnew⟩] at hadd
      have hmem : ext ∈ (addExtension m r e).extensionsOf (Text.lower m.name) :=
        mem_extensionsOf_addExtension.2 (.inr ⟨rfl, hne, hext⟩)
      rw [List.foldl_cons, typesUnder_foldl_old (h.addExtension hm e) hm fun hand => hand.2 hmem, hadd]
    · rw [if_neg fun hand => hext hand.1] at hadd
      have hnew' : ext ∉ (addExtension m r e).extensionsOf (Text.lower m.name) := by
        rw [mem_extensionsOf_addExtension]
        exact fun hor => hor.elim hnew fun hand => hext hand.2.2
      have he' : ∃ e ∈ es, normalizeExtension e = ext := by simpa [hext] using he
      rw [List.foldl_cons, ih (h.addExtension hm e) he' hnew', hadd]

theorem Indexed.typesUnder_enter (h : Indexed r) (row : Row) (ext : Text) :
    (Pairs row ext ∧ ext ∉ r.extensionsOf (Text.lower row.1.bare.name)) ∧
        (Registry.enter r row).typesUnder ext = r.typesUnder ext ++ [row.1.bare] ∨
      ¬(Pairs row ext ∧ ext ∉ r.extensionsOf (Text.lower row.1.bare.name)) ∧
        (Registry.enter r row).typesUnder ext = r.typesUnder ext := by
  have hm := held_bare row.1
  have hd := h.describe hm row.2.1
  by_cases hnew : Pairs row ext ∧ ext ∉ r.extensionsOf (Text.lower row.1.bare.name)
  · have hfold := typesUnder_foldl_new hd hm hnew.1.1 hnew.1.2 (by rw [extensionsOf_describe]; exact hnew.2)
    exact .inl ⟨hnew, hfold⟩
  · have hdescribed : ¬(Pairs row ext ∧
        ext ∉ (Registry.describe row.1.bare r row.2.1).extensionsOf (Text.lower row.1.bare.name)) := by
      rwa [extensionsOf_describe]
    exact .inr ⟨hnew, typesUnder_foldl_old hd hm hdescribed⟩

theorem mem_extensionsOf_enter :
    ext ∈ (enter r row).extensionsOf key ↔
      ext ∈ r.extensionsOf key ∨ Pairs row ext ∧ Text.lower row.1.bare.name = key := by
  have hfold : ∀ (es : List Text) (r : Registry),
      ext ∈ (es.foldl (addExtension row.1.bare) r).extensionsOf key ↔ ext ∈ r.extensionsOf key ∨
        (ext ≠ [] ∧ ∃ e ∈ es, normalizeExtension e = ext) ∧ Text.lower row.1.bare.name = key := by
    intro es
    induction es with
    | nil => simp
    | cons e es ih =>
      intro r
      rw [List.foldl_cons, ih, mem_extensionsOf_addExtension, or_assoc]
      refine or_congr_right ?_
      simp only [List.mem_cons, exists_eq_or_imp]
      grind
  have hall := hfold row.2.2 (describe row.1.bare r row.2.1)
  rwa [extensionsOf_describe] at hall

/-! ## Places of rows -/

/-- A row that comes last pairs a media type first when none before it paired one of that
name. -/
theorem pairedFirst_snoc : PairedFirst (rows ++ [row]) ext i m ↔ PairedFirst rows ext i m ∨
    (i = rows.length ∧ row.1.bare = m) ∧ Pairs row ext ∧
      ¬∃ row' ∈ rows, Pairs row' ext ∧ Text.lower row'.1.bare.name = Text.lower row.1.bare.name := by
  constructor
  · intro hp
    have hfirst : ∀ j x, j < i → rows[j]? = some x → Pairs x ext →
        Text.lower x.1.bare.name ≠ Text.lower m.name :=
      fun j x hj hx => hp.first j x hj (getElem?_snoc.2 (.inl hx))
    obtain ⟨x, hx, hpairs, hm⟩ := hp.pairs
    rcases getElem?_snoc.1 hx with hx | ⟨rfl, rfl⟩
    · exact .inl ⟨⟨x, hx, hpairs, hm⟩, hfirst⟩
    · refine .inr ⟨⟨rfl, hm⟩, hpairs, ?_⟩
      rintro ⟨x, hx, hpx, hname⟩
      obtain ⟨j, hj⟩ := List.mem_iff_getElem?.1 hx
      exact hfirst j x (List.getElem?_eq_some_iff.1 hj).1 hj hpx (hm ▸ hname)
  · rintro (hp | ⟨⟨rfl, rfl⟩, hpairs, hnone⟩)
    · obtain ⟨x, hx, hpairs, hm⟩ := hp.pairs
      refine ⟨⟨x, getElem?_snoc.2 (.inl hx), hpairs, hm⟩, fun j y hj hy => ?_⟩
      rcases getElem?_snoc.1 hy with hy | ⟨rfl, -⟩
      · exact hp.first j y hj hy
      · have := (List.getElem?_eq_some_iff.1 hx).1
        omega
    · refine ⟨⟨row, getElem?_snoc.2 (.inr ⟨rfl, rfl⟩), hpairs, rfl⟩, fun j y hj hy hpy hname => ?_⟩
      rcases getElem?_snoc.1 hy with hy | ⟨rfl, -⟩
      · exact hnone ⟨y, List.mem_of_getElem? hy, hpy, hname⟩
      · omega

theorem InOrder.nil (ext : Text) : InOrder [] ext [] := by
  refine ⟨[], rfl, .nil, fun i m => ⟨by simp, fun hp => ?_⟩⟩
  obtain ⟨x, hx, -⟩ := hp.pairs
  simp at hx

/-- A row that pairs a new media type puts it at the end. -/
theorem InOrder.push (ho : InOrder rows ext ms) (hpairs : Pairs row ext)
    (hnew : ¬∃ row' ∈ rows, Pairs row' ext ∧ Text.lower row'.1.bare.name = Text.lower row.1.bare.name) :
    InOrder (rows ++ [row]) ext (ms ++ [row.1.bare]) := by
  obtain ⟨ps, rfl, hsorted, hmem⟩ := ho
  refine ⟨ps ++ [(rows.length, row.1.bare)], by simp, ?_, fun i m => ?_⟩
  · refine List.pairwise_append.2 ⟨hsorted, List.pairwise_singleton _ _, ?_⟩
    rintro ⟨j, m⟩ hp q hq
    obtain ⟨x, hx, -⟩ := ((hmem j m).1 hp).pairs
    rw [List.mem_singleton.1 hq]
    exact (List.getElem?_eq_some_iff.1 hx).1
  · rw [List.mem_append, hmem, pairedFirst_snoc, List.mem_singleton, Prod.mk.injEq,
      and_iff_left (And.intro hpairs hnew), @eq_comm _ m]

theorem InOrder.keep (ho : InOrder rows ext ms)
    (hold : ¬(Pairs row ext ∧
      ¬∃ row' ∈ rows, Pairs row' ext ∧ Text.lower row'.1.bare.name = Text.lower row.1.bare.name)) :
    InOrder (rows ++ [row]) ext ms := by
  obtain ⟨ps, rfl, hsorted, hmem⟩ := ho
  refine ⟨ps, rfl, hsorted, fun i m => ?_⟩
  rw [hmem, pairedFirst_snoc]
  exact ⟨.inl, fun hor => hor.resolve_right fun hand => hold hand.2⟩

/-! ## A whole history -/

/-- What a registry says of the rows that were registered: which extensions they paired with
which names, and under an extension the media types in order. -/
structure Told (rows : List Row) (r : Registry) : Prop where
  indexed : Indexed r
  paired : ∀ ext key, ext ∈ r.extensionsOf key ↔
    ∃ row ∈ rows, Pairs row ext ∧ Text.lower row.1.bare.name = key
  ordered : ∀ ext, InOrder rows ext (r.typesUnder ext)

theorem Told.empty : Told [] {} where
  indexed := .empty
  paired _ _ := by simp [extensionsOf, OrderedTable.get?, OrderedTable.first?]
  ordered := .nil

theorem Told.enter (h : Told rows r) (row : Row) : Told (rows ++ [row]) (enter r row) where
  indexed := h.indexed.enter row
  paired ext key := by
    rw [mem_extensionsOf_enter, h.paired]
    simp only [List.mem_append, List.mem_singleton, or_and_right, exists_or, exists_eq_left]
  ordered ext := by
    rcases h.indexed.typesUnder_enter row ext with ⟨⟨hpairs, hnew⟩, heq⟩ | ⟨hold, heq⟩
    · rw [h.paired] at hnew
      rw [heq]
      exact (h.ordered ext).push hpairs hnew
    · rw [h.paired] at hold
      rw [heq]
      exact (h.ordered ext).keep hold

/-- **The order is that of the whole history.** -/
theorem Told.foldl (h : Told rows r) (more : List Row) : Told (rows ++ more) (more.foldl Registry.enter r) := by
  induction more generalizing rows r with
  | nil => rwa [List.append_nil]
  | cons row more ih =>
    have hall := ih (h.enter row)
    rwa [List.append_assoc, List.singleton_append] at hall

theorem told_after (cs : List Call) : Told (cs.flatMap Call.rows) (after cs) := by
  have hall := Told.empty.foldl (cs.flatMap Call.rows)
  rwa [List.nil_append, ← after_eq] at hall

/-! ## Appending -/

/-- The registry has grown at the ends of its lists only. -/
structure Grown (r r' : Registry) : Prop where
  types : ∀ ext, r.typesUnder ext <+: r'.typesUnder ext
  entries : r.registrations.map Registration.mediaType <+: r'.registrations.map Registration.mediaType

theorem Grown.refl (r : Registry) : Grown r r := ⟨fun _ => List.prefix_rfl, List.prefix_rfl⟩

theorem Grown.trans {r₁ r₂ r₃ : Registry} (h₁ : Grown r₁ r₂) (h₂ : Grown r₂ r₃) : Grown r₁ r₃ :=
  ⟨fun ext => (h₁.types ext).trans (h₂.types ext), h₁.entries.trans h₂.entries⟩

/-- A change of an entry that leaves its media type alone keeps the order of entries. -/
theorem prefix_upsert (t : OrderedTable Text Registration) (key : Text) (fresh : Registration)
    {g : Registration → Registration} (hg : ∀ e, (g e).mediaType = e.mediaType) :
    (t.map Prod.snd).map Registration.mediaType <+:
      ((t.upsert (· == key) key fresh g).map Prod.snd).map Registration.mediaType := by
  rw [List.map_map, List.map_map, OrderedTable.map_upsert fun _ e => hg e]
  exact List.prefix_append _ _

theorem prefix_addExtension (m : MediaType) (r : Registry) (ext : Text) :
    r.registrations.map Registration.mediaType <+: (addExtension m r ext).registrations.map Registration.mediaType := by
  rcases addExtension_cases m r ext with ⟨-, heq⟩ | ⟨-, heq⟩
  · exact heq.symm ▸ List.prefix_rfl
  · rw [heq]
    exact prefix_upsert _ _ _ fun _ => rfl

theorem prefix_enter (r : Registry) (row : Row) :
    r.registrations.map Registration.mediaType <+: (enter r row).registrations.map Registration.mediaType := by
  have hdescribe : r.registrations.map Registration.mediaType <+:
      (describe row.1.bare r row.2.1).registrations.map Registration.mediaType :=
    prefix_upsert _ _ _ fun e => by split <;> rfl
  refine enter_induction (P := fun r' => _ <+: r'.registrations.map Registration.mediaType) hdescribe ?_
  exact fun r' ext _ h => h.trans (prefix_addExtension _ r' ext)

theorem Indexed.grown_enter (h : Indexed r) (row : Row) : Grown r (Registry.enter r row) where
  types ext := by
    rcases h.typesUnder_enter row ext with ⟨-, heq⟩ | ⟨-, heq⟩
    · rw [heq]
      exact List.prefix_append _ _
    · exact heq.symm ▸ List.prefix_rfl
  entries := prefix_enter r row

/-- **Rows only append.** -/
theorem Indexed.grown (h : Indexed r) (rows : List Row) : Grown r (rows.foldl Registry.enter r) := by
  induction rows generalizing r with
  | nil => exact .refl r
  | cons row rows ih => exact (h.grown_enter row).trans (ih (h.enter row))

theorem grown_after (cs more : List Call) : Grown (after cs) (after (cs ++ more)) := by
  have hmore : after (cs ++ more) = (more.flatMap Call.rows).foldl enter (after cs) := by
    unfold after
    rw [List.foldl_append, foldl_apply more]
  rw [hmore]
  exact (told_after cs).indexed.grown _

theorem Grown.typeOfFile? {r' : Registry} (h : Grown r r') {f : Text} (hm : r.typeOfFile? f = some m) :
    r'.typeOfFile? f = some m := by
  unfold Registry.typeOfFile? at hm ⊢
  obtain ⟨ext, hext, hhead⟩ := Option.bind_eq_some_iff.1 hm
  obtain ⟨more, hmore⟩ := h.types (normalizeExtension ext)
  rw [hext, Option.bind_some]
  show (r'.typesUnder (normalizeExtension ext)).head? = some m
  rw [← hmore, List.head?_append, show (r.typesUnder (normalizeExtension ext)).head? = some m from hhead]
  rfl

/-- **A registry keeps the order of registration.** Behind any calls, the media types of an
extension stand in the order of the rows that paired them with it first, without parameters
and each name once. Further calls append to that list and to the entries, so the media type
that a file name stands for stays what it is. -/
theorem types_in_order (cs : List Call) :
    (∀ ext, InOrder (cs.flatMap Call.rows) (normalizeExtension ext) ((after cs).typesOf ext) ∧
        (((after cs).typesOf ext).map fun m => Text.lower m.name).Nodup ∧
        ∀ m ∈ (after cs).typesOf ext, m.parameters = []) ∧
      ∀ more : List Call,
        (∀ ext, (after cs).typesOf ext <+: (after (cs ++ more)).typesOf ext) ∧
        (after cs).registrations.map Registration.mediaType <+:
          (after (cs ++ more)).registrations.map Registration.mediaType ∧
        ∀ f m, (after cs).typeOfFile? f = some m → (after (cs ++ more)).typeOfFile? f = some m := by
  have told := told_after cs
  refine ⟨fun ext => ?_, fun more => ?_⟩
  · obtain ⟨hdistinct, hheld⟩ := told.indexed.typesUnder_distinct (normalizeExtension ext)
    exact ⟨told.ordered _, hdistinct, fun m hm => (hheld m hm).bare⟩
  · have grown := grown_after cs more
    exact ⟨fun ext => grown.types _, grown.entries, fun f m => grown.typeOfFile?⟩

/-- The first media type of an extension comes again in other letters and with a parameter,
behind it another one of the extension. -/
def sharedExtension : List Call :=
  [.register (.ofParts ['t'] ['x'] []) [] [['.', 'X', 'M', 'L']],
    .register (.ofParts ['T'] ['X'] [(['q'], ['1'])]) ['d'] [['x', 'm', 'l'], [' ', 'X']],
    .register (.ofParts ['a'] ['x'] []) [] [['x', 'm', 'l', ' ']]]

/-- Files of that extension stand for the first, whatever a table adds. -/
theorem types_in_order_shared :
    (after sharedExtension).typesOf ['x', 'm', 'l'] = [⟨['t'], ['x'], [], ['t', '/', 'x']⟩, ⟨['a'], ['x'], [], ['a', '/', 'x']⟩] ∧
      (after sharedExtension).typeOfFile? ['a', '.', 'b', '.', 'X', 'm', 'l'] = some ⟨['t'], ['x'], [], ['t', '/', 'x']⟩ ∧
      (after (sharedExtension ++ [.load "t/x = Other | xml\ns/x = Third | xml,x".toList])).typeOfFile?
        ['a', '.', 'b', '.', 'X', 'm', 'l'] = some ⟨['t'], ['x'], [], ['t', '/', 'x']⟩ := by
  have hfile : (after sharedExtension).typeOfFile? ['a', '.', 'b', '.', 'X', 'm', 'l'] =
      some ⟨['t'], ['x'], [], ['t', '/', 'x']⟩ := by decide
  exact ⟨by decide, hfile, ((types_in_order sharedExtension).2 _).2.2 _ _ hfile⟩

end MessageHead.Registry
