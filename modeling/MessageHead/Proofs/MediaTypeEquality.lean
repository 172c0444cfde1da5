/-
When two media types are equal. A media type is compared by its key, which lists
the parameters with lowered names in order; it is asked for one parameter at a
time, and the first one of a name answers. No media type has two parameters of one
name (`Built.distinct`), so the list can be told from the answers and the answers
from the list (`perm_lowered_iff`), and sorting gives every list of the same
parameters one form (`sortedParameters_eq_iff`).
-/
import MessageHead.Proofs.MediaTypeReaders

namespace MessageHead.MediaType

variable {a b : MediaType}

/-! ## Sorted lists -/

theorem parameterLe_iff {p q : Text × Text} :
    parameterLe p q = true ↔ p.1 < q.1 ∨ p.1 = q.1 ∧ ¬q.2 < p.2 := by
  simp [parameterLe]

theorem parameterLe_trans (p q r : Text × Text) (h₁ : parameterLe p q = true) (h₂ : parameterLe q r = true) :
    parameterLe p r = true := by
  rw [parameterLe_iff] at h₁ h₂ ⊢
  rcases h₁ with h₁ | ⟨h₁, hv₁⟩
  · rcases h₂ with h₂ | ⟨h₂, -⟩
    · exact .inl (List.lt_trans h₁ h₂)
    · exact .inl (h₂ ▸ h₁)
  · rcases h₂ with h₂ | ⟨h₂, hv₂⟩
    · exact .inl (h₁ ▸ h₂)
    · exact .inr ⟨h₁.trans h₂, List.not_lt.2 (List.le_trans (List.not_lt.1 hv₁) (List.not_lt.1 hv₂))⟩

theorem parameterLe_total (p q : Text × Text) : (parameterLe p q || parameterLe q p) = true := by
  rw [Bool.or_eq_true, parameterLe_iff, parameterLe_iff]
  by_cases h₁ : p.1 < q.1
  · exact .inl (.inl h₁)
  · by_cases h₂ : q.1 < p.1
    · exact .inr (.inl h₂)
    · have he : p.1 = q.1 := List.le_antisymm (List.not_lt.1 h₂) (List.not_lt.1 h₁)
      by_cases hv : q.2 < p.2
      · exact .inr (.inr ⟨he.symm, List.lt_asymm hv⟩)
      · exact .inl (.inr ⟨he, hv⟩)

theorem parameterLe_antisymm {p q : Text × Text} (h₁ : parameterLe p q = true) (h₂ : parameterLe q p = true) :
    p = q := by
  rw [parameterLe_iff] at h₁ h₂
  rcases h₁ with h₁ | ⟨h₁, hv₁⟩
  · rcases h₂ with h₂ | ⟨h₂, -⟩
    · exact absurd h₂ (List.lt_asymm h₁)
    · exact absurd (h₂ ▸ h₁) (List.lt_irrefl _)
  · rcases h₂ with h₂ | ⟨-, hv₂⟩
    · exact absurd (h₁ ▸ h₂) (List.lt_irrefl _)
    · exact Prod.ext h₁ (List.le_antisymm (List.not_lt.1 hv₁) (List.not_lt.1 hv₂))

/-- Parameters with their names in lower case. -/
def lowered (ps : List (Text × Text)) : List (Text × Text) := ps.map fun p => (Text.lower p.1, p.2)

/-- **Sorting forgets the order and nothing else.** -/
theorem sortedParameters_eq_iff :
    a.sortedParameters = b.sortedParameters ↔ (lowered a.parameters).Perm (lowered b.parameters) := by
  have ha : a.sortedParameters.Perm (lowered a.parameters) := List.mergeSort_perm _ _
  have hb : b.sortedParameters.Perm (lowered b.parameters) := List.mergeSort_perm _ _
  have sorted : ∀ m : MediaType, m.sortedParameters.Pairwise fun p q => parameterLe p q = true :=
    fun _ => List.pairwise_mergeSort parameterLe_trans parameterLe_total _
  constructor
  · intro h
    exact ha.symm.trans (h ▸ hb)
  · intro h
    exact (ha.trans (h.trans hb.symm)).eq_of_pairwise (fun _ _ _ _ => parameterLe_antisymm) (sorted a) (sorted b)

/-! ## Answers -/

theorem nodup_lowered {ps : List (Text × Text)} (h : OrderedTable.Distinct Text.lower ps) : (lowered ps).Nodup := by
  refine List.pairwise_map.2 ((List.pairwise_map.1 h).imp fun hne heq => hne ?_)
  exact congrArg Prod.fst heq

theorem parameter?_eq_some_iff (h : OrderedTable.Distinct Text.lower a.parameters) {n v : Text} :
    a.parameter? n = some v ↔ (Text.lower n, v) ∈ lowered a.parameters := by
  have hget : a.parameter? n = some v ↔ ∃ p ∈ a.parameters, Text.lower p.1 = Text.lower n ∧ p.2 = v :=
    OrderedTable.get?_eq_some_iff Text.lower h
  rw [hget, lowered, List.mem_map]
  simp only [Prod.mk.injEq]

/-- **The same answers are the same parameters**, up to their order and the case of their
names. -/
theorem perm_lowered_iff (ha : OrderedTable.Distinct Text.lower a.parameters)
    (hb : OrderedTable.Distinct Text.lower b.parameters) :
    (lowered a.parameters).Perm (lowered b.parameters) ↔ ∀ n, a.parameter? n = b.parameter? n := by
  rw [List.perm_ext_iff_of_nodup (nodup_lowered ha) (nodup_lowered hb)]
  constructor
  · intro h n
    refine Option.ext fun v => ?_
    rw [parameter?_eq_some_iff ha, parameter?_eq_some_iff hb, h]
  · -- Every name of either list is the lowered form of one that can be asked for.
    have one : ∀ {c d : MediaType}, OrderedTable.Distinct Text.lower c.parameters →
        OrderedTable.Distinct Text.lower d.parameters → (∀ n, c.parameter? n = d.parameter? n) →
        ∀ p ∈ lowered c.parameters, p ∈ lowered d.parameters := by
      intro c d hc hd h p hp
      obtain ⟨q, hq, rfl⟩ := List.mem_map.1 hp
      rw [← parameter?_eq_some_iff hd, ← h, parameter?_eq_some_iff hc]
      exact hp
    exact fun h p => ⟨one ha hb h p, one hb ha (fun n => (h n).symm) p⟩

/-- Two media types are the same to whoever asks: in type and subtype up to case, and in the
value of every parameter. -/
structure Alike (a b : MediaType) : Prop where
  mainType : Text.sameFold a.mainType b.mainType = true
  subtype : Text.sameFold a.subtype b.subtype = true
  parameter : ∀ n, a.parameter? n = b.parameter? n

theorem equal_iff_sorted : a.equal b = true ↔ Text.sameFold a.mainType b.mainType = true ∧
    Text.sameFold a.subtype b.subtype = true ∧ a.sortedParameters = b.sortedParameters := by
  simp only [equal, key, beq_iff_eq, Prod.mk.injEq, Text.sameFold_iff]

theorem equal_iff_alike (ha : Built a) (hb : Built b) : a.equal b = true ↔ Alike a b := by
  rw [equal_iff_sorted, sortedParameters_eq_iff, perm_lowered_iff ha.distinct hb.distinct]
  exact ⟨fun ⟨hm, hs, hp⟩ => ⟨hm, hs, hp⟩, fun h => ⟨h.mainType, h.subtype, h.parameter⟩⟩

/-! ## Order and case of the parameters it is built from -/

theorem distinct_of_lowered {ps qs : List (Text × Text)} (h : (lowered ps).Perm (lowered qs))
    (hd : OrderedTable.Distinct Text.lower ps) : OrderedTable.Distinct Text.lower qs := by
  have names : ∀ ts : List (Text × Text), (lowered ts).map Prod.fst = ts.map fun p => Text.lower p.1 := by
    intro ts
    rw [lowered, List.map_map]
    rfl
  have hp := (h.map Prod.fst).nodup_iff
  rw [names, names] at hp
  exact hp.1 hd

theorem parameters_of_distinct {ps : List (Text × Text)} (hd : OrderedTable.Distinct Text.lower ps)
    (main sub : Text) : (ofParts main sub ps).parameters = ps := by
  rw [parameters_ofParts, OrderedTable.putAll_append Text.lower (by simpa using hd), List.nil_append]

theorem equal_ofParts {ps qs : List (Text × Text)} (hd : OrderedTable.Distinct Text.lower ps)
    (hp : (lowered ps).Perm (lowered qs)) (main sub : Text) :
    (ofParts main sub ps).equal (ofParts main sub qs) = true := by
  refine equal_iff_sorted.2 ⟨Text.sameFold_self main, Text.sameFold_self _, ?_⟩
  rw [sortedParameters_eq_iff, parameters_of_distinct hd, parameters_of_distinct (distinct_of_lowered hp hd)]
  exact hp

/-! ## Hashing -/

/-- A piece of what is hashed. -/
inductive Piece where
  | text (t : Text)
  | count (n : Nat)
deriving DecidableEq, Repr

/-- What is hashed of one parameter. -/
def parameterPieces (p : Text × Text) : List Piece := [.text p.1, .text p.2]

/-- What a media type is hashed by: type and subtype in lower case, the number of parameters
and then their names and values in the order of the key. -/
def pieces (m : MediaType) : List Piece :=
  .text (Text.lower m.mainType) :: .text (Text.lower m.subtype) :: .count m.sortedParameters.length ::
    m.sortedParameters.flatMap parameterPieces

theorem parameterPieces_inj {ps qs : List (Text × Text)}
    (h : ps.flatMap parameterPieces = qs.flatMap parameterPieces) : ps = qs := by
  induction ps generalizing qs with
  | nil =>
    cases qs with
    | nil => rfl
    | cons q qs => simp [parameterPieces] at h
  | cons p ps ih =>
    cases qs with
    | nil => simp [parameterPieces] at h
    | cons q qs =>
      simp only [List.flatMap_cons, parameterPieces, List.cons_append, List.nil_append, List.cons.injEq,
        Piece.text.injEq] at h
      rw [Prod.ext h.1 h.2.1, ih h.2.2]

/-- Equal media types are hashed by the same pieces, and different ones by others. -/
theorem pieces_eq_iff : a.pieces = b.pieces ↔ a.key = b.key := by
  simp only [pieces, key, List.cons.injEq, Piece.text.injEq, Prod.mk.injEq]
  constructor
  · rintro ⟨hm, hs, -, hp⟩
    exact ⟨hm, hs, parameterPieces_inj hp⟩
  · rintro ⟨hm, hs, hp⟩
    exact ⟨hm, hs, by rw [hp], by rw [hp]⟩

/-! ## Equality -/

theorem equal_iff_key : a.equal b = true ↔ a.key = b.key := beq_iff_eq

/-- **Equal media types are those that nobody can tell apart** by type, subtype and
parameters. So equality is an equivalence, neither the order of distinct parameters nor the
case of their names matters to it, and it is what hashing goes by. -/
theorem equality_extensional :
    (∀ a b, Built a → Built b → (a.equal b = true ↔ Alike a b)) ∧
      Equivalence (fun a b : MediaType => a.equal b = true) ∧
      (∀ main sub ps ps' qs, OrderedTable.Distinct Text.lower ps → ps.Perm ps' → lowered ps' = lowered qs →
        (ofParts main sub ps).equal (ofParts main sub qs) = true) ∧
      ∀ a b : MediaType, (a.equal b = true → a.pieces = b.pieces) ∧
        (a.equal b = false → a.key ≠ b.key ∧ a.pieces ≠ b.pieces) := by
  refine ⟨fun a b => equal_iff_alike, ?_, fun main sub ps ps' qs hd hperm hcase => ?_,
    fun a b => ⟨fun h => ?_, fun h => ?_⟩⟩
  · refine ⟨equal_self, fun h => ?_, fun h₁ h₂ => ?_⟩
    · exact equal_iff_key.2 (equal_iff_key.1 h).symm
    · exact equal_iff_key.2 ((equal_iff_key.1 h₁).trans (equal_iff_key.1 h₂))
  · exact equal_ofParts hd (hcase ▸ hperm.map _) main sub
  · exact pieces_eq_iff.2 (equal_iff_key.1 h)
  · have hne : a.key ≠ b.key := by
      rw [Ne, ← equal_iff_key, h]
      exact Bool.false_ne_true
    exact ⟨hne, fun hp => hne (pieces_eq_iff.1 hp)⟩

/-- Two parameters in both orders, with names in other cases the second time. -/
theorem equality_extensional_recased :
    OrderedTable.Distinct Text.lower [("Level".toList, ['1']), ("charset".toList, "utf-8".toList)] ∧
      equal (ofParts ['a'] ['b'] [("Level".toList, ['1']), ("charset".toList, "utf-8".toList)])
        (ofParts ['a'] ['b'] [("CHARSET".toList, "utf-8".toList), ("level".toList, ['1'])]) = true ∧
      Alike (ofParts ['a'] ['b'] [("Level".toList, ['1']), ("charset".toList, "utf-8".toList)])
        (ofParts ['a'] ['b'] [("CHARSET".toList, "utf-8".toList), ("level".toList, ['1'])]) ∧
      pieces (ofParts ['a'] ['b'] [("Level".toList, ['1']), ("charset".toList, "utf-8".toList)]) =
        pieces (ofParts ['a'] ['b'] [("CHARSET".toList, "utf-8".toList), ("level".toList, ['1'])]) := by
  have hd : OrderedTable.Distinct Text.lower [("Level".toList, ['1']), ("charset".toList, "utf-8".toList)] := by
    unfold OrderedTable.Distinct
    decide
  obtain ⟨halike, -, hrecased, hhash⟩ := equality_extensional
  have heq := hrecased ['a'] ['b'] _ _ [("CHARSET".toList, "utf-8".toList), ("level".toList, ['1'])] hd
    (.swap _ _ _) (by decide)
  exact ⟨hd, heq, (halike _ _ (.ofParts _ _ _) (.ofParts _ _ _)).1 heq, (hhash _ _).1 heq⟩

end MessageHead.MediaType
