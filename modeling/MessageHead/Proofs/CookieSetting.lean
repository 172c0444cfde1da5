/-
Attributes set in a cookie.

Setting an attribute comes to one of three things: the name or the value is placed anew,
the first spelling of the key has its value replaced, or the key goes to the end. In all of
them the entry that was written is the first one of its key, and the attributes of other
keys are what they were, in their order (`Written`). The laws of reading behind a setter
need nothing else, for a key is looked up among its own spellings.

That the value stands in front of its look-alikes is a matter of the places: in front of
it there is nothing but the name (`Laid`).
-/
import MessageHead.Proofs.CookieRemoval
import MessageHead.Proofs.NumberFacts

namespace MessageHead.Cookie

variable {c c' : Cookie} {key other : Text} {v : Option Text}

/-! ## What setting writes -/

/-- The key is that of the name or that of the value, in some case. -/
def isReserved (key : Text) : Bool := Text.sameFold key nameKey || Text.sameFold key valueKey

/-- What a setter writes under a key: the name and the value are never without a text. -/
def written (key : Text) (value : Option Text) : Option Text :=
  if isReserved key then some (value.getD []) else value

/-- The attributes of all other keys, in order. -/
def beside (c : Cookie) (key : Text) : OrderedTable Text (Option Text) :=
  c.attributes.filter fun p => !Text.sameFold p.1 key

/-- The second cookie has `v` in the first place of a key, and the attributes of all other
keys are those of the first one. -/
structure Written (c : Cookie) (key : Text) (v : Option Text) (c' : Cookie) : Prop where
  first : ∃ k t, c'.spellings key = (k, v) :: t
  beside : c'.beside key = c.beside key
  length_le : c'.attributes.length ≤ c.attributes.length + 1

/-- Attributes of a key go, as far as they are there, and one comes in. -/
theorem written_of_parts (t₁ old t₂ : OrderedTable Text (Option Text)) {k : Text}
    (hc : c.attributes = t₁ ++ old ++ t₂) (hold : ∀ p ∈ old, Text.sameFold p.1 key = true)
    (hfront : ∀ p ∈ t₁, Text.sameFold p.1 key = false) (hk : Text.sameFold k key = true)
    (hc' : c'.attributes = t₁ ++ (k, v) :: t₂) : Written c key v c' where
  first := by
    refine ⟨k, t₂.filter fun p => Text.sameFold p.1 key, ?_⟩
    have none_in_front : t₁.filter (fun p => Text.sameFold p.1 key) = [] :=
      List.filter_eq_nil_iff.2 fun p hp => by simp [hfront p hp]
    rw [spellings, hc', List.filter_append, none_in_front, List.filter_cons, if_pos hk, List.nil_append]
  beside := by
    have none_old : old.filter (fun p => !Text.sameFold p.1 key) = [] :=
      List.filter_eq_nil_iff.2 fun p hp => by simp [hold p hp]
    have not_beside : ¬(!Text.sameFold k key) = true := by simp [hk]
    rw [Cookie.beside, Cookie.beside, hc, hc', List.filter_append, List.filter_append, List.filter_append, none_old,
      List.filter_cons, if_neg not_beside, List.append_nil]
  length_le := by
    rw [hc, hc']
    simp only [List.length_append, List.length_cons]
    omega

/-! ## Each kind of setting -/

variable {name value : Option (Option Text)} {others : OrderedTable Text (Option Text)}

theorem mem_optional {v : Option (Option Text)} {k : Text} {p : Text × Option Text}
    (hp : p ∈ (v.map (k, ·)).toList) : p.1 = k := by
  cases v with
  | none => cases hp
  | some v => rw [List.mem_singleton.1 hp]

theorem Laid.written_setName (h : Laid c name value others) (hk : Text.sameFold nameKey key = true) (n : Text) :
    Written c key (some n) (c.setName n) := by
  refine written_of_parts [] (name.map (nameKey, ·)).toList ((value.map (valueKey, ·)).toList ++ others) ?_ ?_
    (by simp) hk ?_
  · rw [h.attributes_eq, layout, List.nil_append, List.append_assoc]
  · intro p hp
    rw [mem_optional hp]
    exact hk
  · rw [(h.setName n).attributes_eq]
    rfl

theorem Laid.written_setValue (h : Laid c name value others) (hk : Text.sameFold valueKey key = true) (w : Text) :
    Written c key (some w) (c.setValue w) := by
  have apart : Text.sameFold nameKey key = false := by
    rw [Text.sameFold_comm, ← Text.sameFold_congr hk]
    decide
  refine written_of_parts (name.map (nameKey, ·)).toList (value.map (valueKey, ·)).toList others h.attributes_eq ?_ ?_
    hk ?_
  · intro p hp
    rw [mem_optional hp]
    exact hk
  · intro p hp
    rw [mem_optional hp]
    exact apart
  · rw [(h.setValue w).attributes_eq, layout, List.append_assoc]
    rfl

/-- A key has its first spelling changed or goes to the end. -/
theorem written_put (c : Cookie) (key : Text) (v : Option Text) :
    Written c key v ⟨OrderedTable.put (Text.sameFold · key) key v c.attributes⟩ := by
  rcases OrderedTable.first_cases (Text.sameFold · key) c.attributes with hn | ⟨t₁, e, t₂, ht, hn, he⟩
  · refine written_of_parts c.attributes [] [] (by simp) (by simp) hn (Text.sameFold_self key) ?_
    exact OrderedTable.put_append (p := (Text.sameFold · key)) hn key v
  · refine written_of_parts t₁ [e] t₂ (by simpa using ht) (by simpa using he) hn he ?_
    show OrderedTable.put _ key v c.attributes = _
    rw [ht, OrderedTable.put, OrderedTable.upsert_append (p := (Text.sameFold · key)) hn, OrderedTable.upsert, if_pos he]

/-- **Setting an attribute writes it.** -/
theorem Laid.written_set (h : Laid c name value others) (key : Text) (v : Option Text) :
    Written c key (written key v) (c.set key v) := by
  unfold Cookie.set written isReserved
  cases hn : Text.sameFold key nameKey with
  | true => exact h.written_setName (by rwa [Text.sameFold_comm]) _
  | false =>
    cases hv : Text.sameFold key valueKey with
    | true => exact h.written_setValue (by rwa [Text.sameFold_comm]) _
    | false => exact written_put c key v

/-! ## Reading behind it -/

theorem Written.get? (h : Written c key v c') : c'.get? key = v := by
  obtain ⟨k, t, ht⟩ := h.first
  rw [get?_eq_head, ht]
  rfl

theorem Written.has (h : Written c key v c') : c'.has key = true := by
  obtain ⟨k, t, ht⟩ := h.first
  rw [has_eq_head, ht]
  rfl

theorem spellings_beside (c : Cookie) (hne : Text.sameFold other key = false) :
    c.spellings other = (c.beside key).filter fun p => Text.sameFold p.1 other := by
  rw [beside, List.filter_filter, spellings]
  refine List.filter_congr fun p _ => ?_
  cases hp : Text.sameFold p.1 other with
  | false => rfl
  | true => rw [Text.sameFold_congr hp, hne]; rfl

theorem Written.spellings_other (h : Written c key v c') (hne : Text.sameFold other key = false) :
    c'.spellings other = c.spellings other := by
  rw [spellings_beside c' hne, spellings_beside c hne, h.beside]

/-- **No other key reads differently.** -/
theorem Written.reads_other (h : Written c key v c') (hne : Text.sameFold other key = false) :
    c'.get? other = c.get? other ∧ c'.has other = c.has other := by
  rw [get?_eq_head, get?_eq_head, has_eq_head, has_eq_head, h.spellings_other hne]
  exact ⟨rfl, rfl⟩

/-! ## Numbers -/

theorem maxAge?_setMaxAge (h : Laid c name value others) (n : Int64) :
    (c.setMaxAge n.toInt).maxAge? = some n.toInt := by
  have hget : (c.setMaxAge n.toInt).get? maxAgeKey = some (Number.signedDecimal n.toInt) :=
    (h.written_set maxAgeKey (some (Number.signedDecimal n.toInt))).get?
  have hmin : -0x8000000000000000 ≤ n.toInt := n.le_toInt
  have hmax : n.toInt ≤ 0x7FFFFFFFFFFFFFFF := n.toInt_le
  rw [maxAge?, typed?, hget, Option.bind_some, Text.trim_eq_self (Number.trimmed_signedDecimal _)]
  exact Number.signed?_signedDecimal hmin hmax

theorem version?_setVersion (h : Laid c name value others) (n : UInt32) :
    (c.setVersion n.toNat).version? = some n.toNat := by
  have hget : (c.setVersion n.toNat).get? versionKey = some (Number.decimal n.toNat) :=
    (h.written_set versionKey (some (Number.decimal n.toNat))).get?
  have hmax : n.toNat ≤ Number.maxUnsigned32 := Nat.le_of_lt_succ n.toNat_lt
  rw [version?, typed?, hget, Option.bind_some, Text.trim_eq_self (Number.trimmed_decimal _)]
  exact Number.unsigned?_decimal hmax

/-! ## Setting sets -/

/-- **Setting an attribute sets it and nothing else.** In every cookie that changes make of
an empty one, of a name and a value or of one that was read, a key that is set is there
with what was set, and a name or a value that is set to nothing is empty. Every other key,
told apart up to case, reads as before; the attributes of other keys stay, in their order;
and at most one attribute comes in. A lifetime and a version read as they were set. -/
theorem set_sets (h : Made Origin c) (key : Text) (v : Option Text) :
    (c.set key v).has key = true ∧
      (c.set key v).get? key = (if isReserved key then some (v.getD []) else v) ∧
      (∀ other, Text.sameFold other key = false →
        (c.set key v).get? other = c.get? other ∧ (c.set key v).has other = c.has other) ∧
      (c.set key v).beside key = c.beside key ∧
      (c.set key v).attributes.length ≤ c.attributes.length + 1 ∧
      (∀ n : Int64, (c.setMaxAge n.toInt).maxAge? = some n.toInt) ∧
      (∀ n : UInt32, (c.setVersion n.toNat).version? = some n.toNat) := by
  obtain ⟨name, value, others, hl⟩ := h.laid fun _ => Origin.laid
  have hw := hl.written_set key v
  exact ⟨hw.has, hw.get?, fun other hne => hw.reads_other hne, hw.beside, hw.length_le, maxAge?_setMaxAge hl,
    version?_setVersion hl⟩

/-- A value with a look-alike behind it, in a cookie that has lost its name: the value is
what is set, whatever the case of the key, and the look-alike keeps its own. The least
number of 64 bits is a lifetime. -/
theorem set_sets_look_alike :
    Made Origin (lookAlikes.remove nameKey) ∧
      ((lookAlikes.remove nameKey).set ['v', 'A', 'L', 'U', 'E'] none).get? valueKey = some [] ∧
      ((lookAlikes.remove nameKey).set ['v', 'A', 'L', 'U', 'E'] none).attributes =
        [(valueKey, some []), (['V', 'A', 'L', 'U', 'E'], some ['c']), (['n', 'a', 'm', 'e'], none)] ∧
      Text.sameFold nameKey ['v', 'A', 'L', 'U', 'E'] = false ∧
      ((lookAlikes.remove nameKey).set ['v', 'A', 'L', 'U', 'E'] none).has nameKey = true ∧
      ((lookAlikes.remove nameKey).setMaxAge Int64.minValue.toInt).maxAge? = some (-9223372036854775808) := by
  have hp : parse ['a', '=', 'b', ';', 'V', 'A', 'L', 'U', 'E', '=', 'c', ';', 'n', 'a', 'm', 'e'] =
      .ok lookAlikes := by decide +kernel
  have hr : Made Origin (lookAlikes.remove nameKey) := .change (.remove nameKey) (.start (.parsed hp))
  have apart : Text.sameFold nameKey ['v', 'A', 'L', 'U', 'E'] = false := by decide
  obtain ⟨-, hget, hother, -, -, hage, -⟩ := set_sets hr ['v', 'A', 'L', 'U', 'E'] none
  exact ⟨hr, hget, by decide, apart, (hother nameKey apart).2, hage Int64.minValue⟩

end MessageHead.Cookie
