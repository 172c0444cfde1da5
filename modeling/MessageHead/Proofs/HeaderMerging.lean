/-
Fields brought into other fields.

Adding and replacing all fields of another message differ in what they make of the
values a name has and those it is given, and in nothing else (`combine`): a name that is
there keeps its place and its spelling, any other goes to the end as it is spelled. So
the order of names is the same for both (`names_combine`), and the laws of both follow
from laws about the values of one name (`Combining`). Sound fields are known by their
names in order and the values of each.

That no name is without values is needed where fields are added line by line: a name
without values has no line.
-/
import MessageHead.Proofs.HeaderWire

namespace MessageHead

theorem OrderedTable.upsert_upsert {κ β : Type} {p : κ → Bool} {k : κ} (hk : p k = true) (fresh : β)
    (f g : β → β) (t : OrderedTable κ β) :
    upsert p k fresh g (upsert p k fresh f t) = upsert p k fresh (fun b => g (f b)) t := by
  induction t with
  | nil => simp only [upsert, hk, if_true]
  | cons e t ih =>
    by_cases he : p e.1 = true
    · simp only [upsert, he, if_true]
    · simp only [upsert, he, Bool.false_eq_true, if_false, ih]

namespace Headers

variable {a b c h : Headers} {name : Text}

/-! ## Names and values -/

theorem Sound.fields_eq (hs : h.Sound) : h.fields = h.names.map fun n => (n, (h.values? n).getD []) := by
  conv => lhs; rw [← List.map_id h.fields]
  rw [names, List.map_map]
  refine List.map_congr_left fun e he => ?_
  have hv : h.values? e.1 = some e.2 := OrderedTable.get?_of_mem Text.lower hs.distinct he
  simp only [Function.comp_apply, hv, Option.getD_some, id]

theorem Sound.ext (ha : a.Sound) (hb : b.Sound) (hnames : a.names = b.names)
    (hvalues : ∀ name, a.values? name = b.values? name) : a = b := by
  have hfields : a.fields = b.fields := by
    rw [ha.fields_eq, hb.fields_eq, hnames]
    exact List.map_congr_left fun n _ => by rw [hvalues]
  cases a
  cases b
  exact congrArg Headers.mk hfields

/-! ## Names put down one after the other -/

/-- Names behind further ones: each new one goes to the end. -/
def noteAll (ns ms : List Text) : List Text := ms.foldl (fun ns n => (Mark.put n).note ns) ns

theorem noteAll_snoc (ns ms : List Text) (n : Text) :
    noteAll ns (ms ++ [n]) = (Mark.put n).note (noteAll ns ms) := by
  unfold noteAll
  rw [List.foldl_append]
  rfl

theorem any_note (ns : List Text) (n m : Text) :
    ((Mark.put n).note ns).any (Text.sameFold · m) = (ns.any (Text.sameFold · m) || Text.sameFold n m) := by
  rw [Mark.note]
  split
  · rename_i hn
    obtain ⟨k, hk, hkn⟩ := List.any_eq_true.1 hn
    cases hnm : Text.sameFold n m with
    | false => rw [Bool.or_false]
    | true =>
      rw [Bool.or_true, List.any_eq_true]
      exact ⟨k, hk, (Text.sameFold_congr hkn m).trans hnm⟩
  · rw [List.any_append, List.any_cons, List.any_nil, Bool.or_false]

theorem any_noteAll (ns ms : List Text) (m : Text) :
    (noteAll ns ms).any (Text.sameFold · m) = (ns.any (Text.sameFold · m) || ms.any (Text.sameFold · m)) := by
  induction ms generalizing ns with
  | nil => rw [List.any_nil, Bool.or_false]; rfl
  | cons n ms ih =>
    have step : noteAll ns (n :: ms) = noteAll ((Mark.put n).note ns) ms := rfl
    rw [step, ih, any_note, List.any_cons, Bool.or_assoc]

/-- A name that the further names have is among all of them. -/
theorem note_noteAll (ns ms : List Text) (n : Text) :
    (Mark.put n).note (noteAll ns ms) = noteAll ns ((Mark.put n).note ms) := by
  cases hn : ms.any (Text.sameFold · n) with
  | true =>
    have hall : (noteAll ns ms).any (Text.sameFold · n) = true := by rw [any_noteAll, hn, Bool.or_true]
    rw [Mark.note, Mark.note, if_pos hn, if_pos hall]
  | false =>
    have hnote : (Mark.put n).note ms = ms ++ [n] := by rw [Mark.note, if_neg (by simp [hn])]
    rw [hnote, noteAll_snoc]

/-- Further names may be put behind each other first. -/
theorem noteAll_assoc (ns ms ks : List Text) : noteAll (noteAll ns ms) ks = noteAll ns (noteAll ms ks) := by
  induction ks generalizing ms with
  | nil => rfl
  | cons k ks ih =>
    have step : ∀ ns, noteAll ns (k :: ks) = noteAll ((Mark.put k).note ns) ks := fun _ => rfl
    rw [step, step, note_noteAll, ih]

theorem noteAll_eq_self {ns ms : List Text} (h : ∀ m ∈ ms, ns.any (Text.sameFold · m) = true) :
    noteAll ns ms = ns := by
  induction ms with
  | nil => rfl
  | cons m ms ih =>
    obtain ⟨hm, hms⟩ := List.forall_mem_cons.1 h
    have step : noteAll ns (m :: ms) = noteAll ((Mark.put m).note ns) ms := rfl
    rw [step, Mark.note, if_pos hm, ih hms]

/-! ## Bringing fields into others -/

/-- The fields with those of another message brought in: `g` makes the values of a name of
those it has and those it is given. -/
def combine (g : List Text → List Text → List Text) (h other : Headers) : Headers :=
  h.modifyAll (fun given own => g own given) other.fields

/-- What a way of bringing values in has to keep to. -/
structure Combining (g : List Text → List Text → List Text) : Prop where
  fresh : ∀ vs, g [] vs = vs
  assoc : ∀ us vs ws, g (g us vs) ws = g us (g vs ws)
  filled : ∀ us vs, vs ≠ [] → g us vs ≠ []

/-- Given values go behind those of a name. -/
def behind (own given : List Text) : List Text := own ++ given

/-- Given values take the place of those of a name. -/
def instead (_ given : List Text) : List Text := given

theorem combining_behind : Combining behind where
  fresh _ := rfl
  assoc := List.append_assoc
  filled us vs hvs := by simp [behind, hvs]

theorem combining_instead : Combining instead where
  fresh _ := rfl
  assoc _ _ _ := rfl
  filled _ _ hvs := hvs

variable {g : List Text → List Text → List Text}

theorem names_combine (g : List Text → List Text → List Text) (h other : Headers) :
    (combine g h other).names = noteAll h.names other.names := by
  rw [combine, names_modifyAll, noteAll, List.foldl_map]
  show _ = (other.fields.map Prod.fst).foldl _ _
  rw [List.foldl_map]

theorem values?_combine (g : List Text → List Text → List Text) (h : Headers) {other : Headers}
    (ho : other.Sound) (name : Text) :
    (combine g h other).values? name =
      (other.values? name).elim (h.values? name) fun vs => some (g ((h.values? name).getD []) vs) := by
  rw [combine, values?_modifyAll, valuesIn_fields ho]
  cases other.values? name <;> rfl

theorem Sound.combine (hs : h.Sound) {other : Headers} (ho : other.Sound) (hg : Combining g) :
    (combine g h other).Sound :=
  hs.modifyAll fun p hp own => hg.filled own p.2 (ho.filled p hp)

/-- **Bringing fields in is associative** when bringing values in is. -/
theorem combine_assoc (hg : Combining g) (ha : a.Sound) (hb : b.Sound) (hc : c.Sound) :
    combine g (combine g a b) c = combine g a (combine g b c) := by
  have hbc := hb.combine hc hg
  refine ((ha.combine hb hg).combine hc hg).ext (ha.combine hbc hg) ?_ fun name => ?_
  · simp only [names_combine, noteAll_assoc]
  · rw [values?_combine g _ hc, values?_combine g _ hb, values?_combine g _ hbc, values?_combine g _ hc]
    cases c.values? name with
    | none => rfl
    | some ws =>
      cases b.values? name with
      | none => simp only [Option.elim, Option.getD_none, hg.fresh]
      | some vs => simp only [Option.elim, Option.getD_some, hg.assoc]

/-- Values that are brought in a second time take no place but their own. -/
theorem combine_instead_self (hs : h.Sound) : combine instead h h = h := by
  refine (hs.combine hs combining_instead).ext hs ?_ fun name => ?_
  · rw [names_combine]
    exact noteAll_eq_self fun n hn => List.any_eq_true.2 ⟨n, hn, Text.sameFold_self n⟩
  · rw [values?_combine _ _ hs]
    cases h.values? name <;> rfl

/-! ## Adding and replacing -/

theorem modify_modify (h : Headers) (name : Text) (f g : List Text → List Text) :
    (h.modify name f).modify name g = h.modify name fun vs => g (f vs) := by
  unfold modify
  rw [OrderedTable.upsert_upsert (p := (Text.sameFold · name)) (Text.sameFold_self name)]

theorem addLines_name (h : Headers) (name : Text) {vs : List Text} (hvs : vs ≠ []) :
    h.addLines (vs.map (name, ·)) = h.modify name (· ++ vs) := by
  induction vs generalizing h with
  | nil => exact absurd rfl hvs
  | cons v vs ih =>
    have step : h.addLines ((v :: vs).map (name, ·)) = (h.modify name (· ++ [v])).addLines (vs.map (name, ·)) := rfl
    rw [step]
    by_cases hnil : vs = []
    · rw [hnil]
      rfl
    · rw [ih _ hnil, modify_modify]
      simp only [List.append_assoc, List.singleton_append]

theorem merge_eq_combine (h : Headers) {other : Headers} (ho : other.Sound) :
    h.merge other = combine behind h other := by
  obtain ⟨t⟩ := other
  have filled : ∀ p ∈ t, p.2 ≠ [] := ho.filled
  clear ho
  induction t generalizing h with
  | nil => rfl
  | cons p t ih =>
    obtain ⟨hp, ht⟩ := List.forall_mem_cons.1 filled
    have split : h.merge ⟨p :: t⟩ = (h.addLines (p.2.map (p.1, ·))).merge ⟨t⟩ := by
      show addLines h (p.2.map (p.1, ·) ++ lines ⟨t⟩) = _
      rw [addLines, List.foldl_append]
      rfl
    rw [split, addLines_name h p.1 hp]
    exact ih _ ht

theorem setAll_eq_combine (h other : Headers) : h.setAll other = combine instead h other := rfl

theorem combine_empty (hg : Combining g) (hs : h.Sound) : combine g {} h = h := by
  have hnames : noteAll [] h.names = h.names := by
    have hmerge : merge {} h = h := ofLines_lines hs
    conv => rhs; rw [← hmerge, merge_eq_combine {} hs, names_combine]
    rfl
  refine (Sound.empty.combine hs hg).ext hs ((names_combine g {} h).trans hnames) fun name => ?_
  rw [values?_combine g {} hs]
  cases h.values? name with
  | none => rfl
  | some vs => exact congrArg some (hg.fresh vs)

/-! ## The laws -/

/-- Fields that nobody can tell apart: equal as they stand, as they are compared and as
they are written. -/
structure Alike (a b : Headers) : Prop where
  eq : a = b
  equal : a.equal b = true
  render : a.render = b.render

theorem Sound.equal_self (hs : h.Sound) : h.equal h = true := by
  unfold equal
  rw [Bool.and_eq_true, beq_self_eq_true, List.all_eq_true]
  refine ⟨rfl, fun p hp => ?_⟩
  obtain ⟨t₁, t₂, ht⟩ := List.append_of_mem hp
  have before : ∀ e ∈ t₁, Text.sameFold e.1 p.1 = false := by
    have hd := hs.distinct
    rw [ht] at hd
    exact hd.before
  have hfirst : OrderedTable.first? (Text.sameFold · p.1) h.fields = some p := by
    rw [OrderedTable.first?, ht, List.find?_append,
      List.find?_eq_none.2 fun e he => by simp [before e he], List.find?_cons, Text.sameFold_self]
    rfl
  rw [hfirst]
  exact beq_self_eq_true _

theorem Sound.alike (hs : a.Sound) (h : a = b) : Alike a b := by
  subst h
  exact ⟨rfl, hs.equal_self, rfl⟩

theorem Reachable.ofLines (ps : List (Text × Text)) : Reachable (ofLines ps) :=
  .change (c := .addLines ps) .empty (by simp [Change.sources])

/-- **Merging is a monoid**, and so is replacing. Three messages' fields may be brought
together in either order of steps, no fields are neutral on both sides, replacing a second
time by the same fields changes nothing, and the lines of fields make those fields. -/
theorem merging_monoid (ha : Reachable a) (hb : Reachable b) (hc : Reachable c) :
    Alike ((a.merge b).merge c) (a.merge (b.merge c)) ∧ Alike (merge {} a) a ∧ Alike (a.merge {}) a ∧
      Alike ((a.setAll b).setAll c) (a.setAll (b.setAll c)) ∧ Alike (setAll {} a) a ∧ Alike (a.setAll {}) a ∧
      Alike ((a.setAll b).setAll b) (a.setAll b) ∧ Alike (ofLines a.lines) a := by
  have sa := ha.sound
  have sb := hb.sound
  have sc := hc.sound
  have sound_merge : ∀ {x y : Headers}, x.Sound → y.Sound → (x.merge y).Sound := fun hx hy => by
    rw [merge_eq_combine _ hy]
    exact hx.combine hy combining_behind
  have sound_setAll : ∀ {x y : Headers}, x.Sound → y.Sound → (x.setAll y).Sound := fun hx hy => by
    rw [setAll_eq_combine]
    exact hx.combine hy combining_instead
  have hmerge : (a.merge b).merge c = a.merge (b.merge c) := by
    rw [merge_eq_combine _ sc, merge_eq_combine _ sb, merge_eq_combine _ (sound_merge sb sc), merge_eq_combine _ sc]
    exact combine_assoc combining_behind sa sb sc
  have hset : ∀ {y : Headers}, y.Sound → (a.setAll b).setAll y = a.setAll (b.setAll y) := fun hy => by
    simp only [setAll_eq_combine]
    exact combine_assoc combining_instead sa sb hy
  have htwice : (a.setAll b).setAll b = a.setAll b := by
    have hself : b.setAll b = b := combine_instead_self sb
    rw [hset sb, hself]
  refine ⟨(sound_merge (sound_merge sa sb) sc).alike hmerge, ?_, sa.alike rfl, ?_, ?_, sa.alike rfl,
    (sound_setAll (sound_setAll sa sb) sb).alike htwice, ?_⟩
  · exact (sound_merge .empty sa).alike (ofLines_lines sa)
  · exact (sound_setAll (sound_setAll sa sb) sc).alike (hset sc)
  · exact (sound_setAll .empty sa).alike (combine_empty combining_instead sa)
  · exact (sound_merge .empty sa).alike (ofLines_lines sa)

/-- Fields that begin with a name in lower case. -/
def lowerFields : Headers := ofLines [(['v', 'i', 'a'], ['1']), (['A'], ['2'])]

/-- Fields in mixed case, with two values of the first name. -/
def mixedFields : Headers := ofLines [(['X'], ['3']), (['V', 'i', 'a'], ['4']), (['X'], ['5'])]

/-- Fields in either case. -/
def otherFields : Headers :=
  ofLines [(['H'], ['6']), (['x'], ['7']), (['V', 'I', 'A'], ['8']), (['h'], ['9'])]

/-- One name is in all three, in three spellings, and the others come in two orders. -/
theorem merging_monoid_spellings :
    Reachable lowerFields ∧ Reachable mixedFields ∧ Reachable otherFields ∧
      Alike ((lowerFields.merge mixedFields).merge otherFields) (lowerFields.merge (mixedFields.merge otherFields)) ∧
      (lowerFields.merge (mixedFields.merge otherFields)).names = [['v', 'i', 'a'], ['A'], ['X'], ['H']] ∧
      (lowerFields.merge (mixedFields.merge otherFields)).values? ['x'] = some [['3'], ['5'], ['7']] ∧
      Alike ((lowerFields.setAll mixedFields).setAll otherFields)
        (lowerFields.setAll (mixedFields.setAll otherFields)) ∧
      (lowerFields.setAll (mixedFields.setAll otherFields)).values? ['x'] = some [['7']] := by
  have hlower : Reachable lowerFields := .ofLines _
  have hmixed : Reachable mixedFields := .ofLines _
  have hother : Reachable otherFields := .ofLines _
  obtain ⟨hmerge, -, -, hset, -⟩ := merging_monoid hlower hmixed hother
  exact ⟨hlower, hmixed, hother, hmerge, by decide, by decide, hset, by decide⟩

end Headers

end MessageHead
