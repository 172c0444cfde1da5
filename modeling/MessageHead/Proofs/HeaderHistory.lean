/-
The header fields of a message after any history of changes, name by name.

Looking a name up gives what is left when the history is cut down to the changes
that touch the name (`replay`): what a change does to one name is an `Effect`, and
an effect knows of no name. The names stand in the order of the places in the
history where each was put down first since it was last struck out, spelled as it
was there (`Ordered`).

Two bulk changes copy from other fields, so both statements need of those what they
give: names are distinct up to case and each has a value (`Sound`).
-/
import Mathlib.Data.List.Basic
import MessageHead.Headers.Basic
import MessageHead.Proofs.TableFacts

namespace MessageHead.Headers

/-! ## Histories -/

/-- A change of the fields. -/
inductive Change where
  | add (name value : Text)
  | set (name value : Text)
  | remove (name : Text)
  | setAll (other : Headers)
  | addAll (other : Headers)
  | setLines (ps : List (Text × Text))
  | addLines (ps : List (Text × Text))
deriving DecidableEq, Repr

namespace Change

/-- The fields behind a change. -/
def apply : Change → Headers → Headers
  | add name value, h => h.add name value
  | set name value, h => h.set name value
  | remove name, h => h.remove name
  | setAll other, h => h.setAll other
  | addAll other, h => h.addAll other
  | setLines ps, h => h.setLines ps
  | addLines ps, h => h.addLines ps

/-- The fields that a change copies from. -/
def sources : Change → List Headers
  | setAll other | addAll other => [other]
  | _ => []

end Change

/-- The fields behind a history that began without any. -/
def after (cs : List Change) : Headers := cs.foldl (fun h c => c.apply h) {}

/-- Fields made by changes, which copy only from fields made so. -/
inductive Reachable : Headers → Prop
  | empty : Reachable {}
  | change {h : Headers} {c : Change} :
    Reachable h → (∀ other ∈ c.sources, Reachable other) → Reachable (c.apply h)

/-! ## What a history does to one name -/

/-- What a change does to the values of one name. -/
inductive Effect where
  | append (values : List Text)
  | replace (values : List Text)
  | clear
deriving DecidableEq, Repr

/-- The values behind an effect; none when the name is not there. -/
def Effect.apply : Effect → Option (List Text) → Option (List Text)
  | append values, before => some (before.getD [] ++ values)
  | replace values, _ => some values
  | clear, _ => none

/-- What a list gives a name. -/
def valuesIn {β : Type} (name : Text) (ps : List (Text × β)) : List β :=
  (ps.filter fun p => Text.sameFold p.1 name).map Prod.snd

/-- What a change does to a name. It has no effect on a name that it does not touch. -/
def Change.effects (name : Text) : Change → List Effect
  | add n v => if Text.sameFold n name then [.append [v]] else []
  | set n v => if Text.sameFold n name then [.replace [v]] else []
  | remove n => if Text.sameFold n name then [.clear] else []
  | setAll other => ((other.values? name).map Effect.replace).toList
  | addAll other => ((other.values? name).map Effect.append).toList
  | setLines ps => (valuesIn name ps).map fun v => .replace [v]
  | addLines ps => (valuesIn name ps).map fun v => .append [v]

/-- The values of a name behind what a history does to it. -/
def replay (name : Text) (cs : List Change) : Option (List Text) :=
  (cs.flatMap (Change.effects name)).foldl (fun values e => e.apply values) none

/-! ## What a history does to the order of names -/

/-- A name is put down or struck out. -/
inductive Mark where
  | put (name : Text)
  | strike (name : Text)
deriving DecidableEq, Repr

/-- The names that a change puts down and strikes out, in order. -/
def Change.marks : Change → List Mark
  | add n _ | set n _ => [.put n]
  | remove n => [.strike n]
  | setAll other => other.names.map Mark.put
  | addAll other => other.lines.map fun p => .put p.1
  | setLines ps | addLines ps => ps.map fun p => .put p.1

/-- Behind place `i` the name is not struck out any more. -/
def Unstruck (ms : List Mark) (i : Nat) (name : Text) : Prop :=
  ∀ j n, i < j → ms[j]? = some (.strike n) → Text.sameFold n name = false

/-- At place `i` the name is put down, spelled so, for the first time since it was
last struck out. -/
structure PutFirst (ms : List Mark) (i : Nat) (name : Text) : Prop where
  put : ms[i]? = some (.put name)
  unstruck : Unstruck ms i name
  first : ∀ j n, j < i → ms[j]? = some (.put n) → Text.sameFold n name = true → ¬ Unstruck ms j name

/-- The names are those put down and not struck out since, each once, in the order
of the places where they were put first and spelled as they were there. -/
def Ordered (ms : List Mark) (names : List Text) : Prop :=
  ∃ ps : List (Nat × Text), names = ps.map Prod.snd ∧ ps.Pairwise (fun p q => p.1 < q.1) ∧
    ∀ i n, (i, n) ∈ ps ↔ PutFirst ms i n

/-! ## Names are distinct and have values -/

variable {h : Headers} {β : Type}

/-- Changes the values of one name after the other by what goes with it. All changes
but the removal of a name are of this form. -/
def modifyAll (g : β → List Text → List Text) (h : Headers) (ps : List (Text × β)) : Headers :=
  ps.foldl (fun h p => h.modify p.1 (g p.2)) h

/-- Every name is there once, up to case, and has a value. -/
structure Sound (h : Headers) : Prop where
  distinct : OrderedTable.Distinct Text.lower h.fields
  filled : ∀ p ∈ h.fields, p.2 ≠ []

theorem Sound.empty : Sound {} := ⟨by simp [OrderedTable.Distinct], by simp⟩

theorem Sound.modify (hs : h.Sound) (n : Text) {f : List Text → List Text} (hf : ∀ vs, f vs ≠ []) :
    (h.modify n f).Sound := by
  refine ⟨hs.distinct.upsert n [] f, ?_⟩
  exact OrderedTable.forall_upsert (I := fun _ vs => vs ≠ []) hs.filled (hf []) fun p _ _ => hf p.2

theorem Sound.modifyAll (hs : h.Sound) {g : β → List Text → List Text} {ps : List (Text × β)}
    (hg : ∀ p ∈ ps, ∀ vs, g p.2 vs ≠ []) : (h.modifyAll g ps).Sound := by
  induction ps generalizing h with
  | nil => exact hs
  | cons p ps ih =>
    have hp := hg p (by simp)
    exact ih (hs.modify p.1 hp) fun q hq => hg q (by simp [hq])

theorem Sound.remove (hs : h.Sound) (n : Text) : (h.remove n).Sound := by
  have sub : (h.remove n).fields.Sublist h.fields := List.eraseP_sublist
  exact ⟨hs.distinct.sublist sub, fun p hp => hs.filled p (sub.subset hp)⟩

/-- **A change keeps fields sound** if what it copies from is. -/
theorem Sound.apply (hs : h.Sound) (c : Change) (hc : ∀ other ∈ c.sources, other.Sound) :
    (c.apply h).Sound := by
  cases c with
  | add n v => exact hs.modify n (by simp)
  | set n v => exact hs.modify n (by simp)
  | remove n => exact hs.remove n
  | setAll other =>
    have filled := (hc other (by simp [Change.sources])).filled
    exact hs.modifyAll (g := fun vs _ => vs) fun p hp _ => filled p hp
  | addAll other => exact hs.modifyAll (g := fun v vs => vs ++ [v]) (by simp)
  | setLines ps => exact hs.modifyAll (g := fun v _ => [v]) (by simp)
  | addLines ps => exact hs.modifyAll (g := fun v vs => vs ++ [v]) (by simp)

theorem Reachable.sound (hr : Reachable h) : h.Sound := by
  induction hr with
  | empty => exact .empty
  | change _ _ hs hsources => exact hs.apply _ hsources

/-! ## One name -/

variable {n m name : Text}

theorem values?_congr (hn : Text.sameFold n m = true) (h : Headers) : h.values? n = h.values? m := by
  unfold values? Text.sameFold
  rw [Text.sameFold_iff.1 hn]

theorem values?_modify (h : Headers) (n m : Text) (f : List Text → List Text) :
    (h.modify n f).values? m =
      if Text.sameFold n m then some (f ((h.values? m).getD [])) else h.values? m := by
  have hget : (h.modify n f).values? m =
      if Text.sameFold n m then some (f ((h.values? n).getD [])) else h.values? m :=
    OrderedTable.get?_upsert Text.lower n [] f h.fields (Text.lower m)
  rw [hget]
  split
  · rename_i hn
    rw [values?_congr hn]
  · rfl

theorem values?_remove (hs : h.Sound) (n m : Text) :
    (h.remove n).values? m = if Text.sameFold n m then none else h.values? m :=
  OrderedTable.get?_erase Text.lower hs.distinct (Text.lower n) (Text.lower m)

theorem valuesIn_cons (name : Text) (p : Text × β) (ps : List (Text × β)) :
    valuesIn name (p :: ps) =
      if Text.sameFold p.1 name then p.2 :: valuesIn name ps else valuesIn name ps := by
  unfold valuesIn
  rw [List.filter_cons]
  split <;> rfl

theorem valuesIn_append (name : Text) (ps qs : List (Text × β)) :
    valuesIn name (ps ++ qs) = valuesIn name ps ++ valuesIn name qs := by
  unfold valuesIn
  rw [List.filter_append, List.map_append]

/-- Of a list of changes a name sees those that are its own. -/
theorem values?_modifyAll (g : β → List Text → List Text) (h : Headers) (ps : List (Text × β)) (name : Text) :
    (h.modifyAll g ps).values? name =
      (valuesIn name ps).foldl (fun vs b => some (g b (vs.getD []))) (h.values? name) := by
  induction ps generalizing h with
  | nil => rfl
  | cons p ps ih =>
    have step : h.modifyAll g (p :: ps) = (h.modify p.1 (g p.2)).modifyAll g ps := rfl
    rw [step, ih, values?_modify, valuesIn_cons]
    split <;> rfl

theorem valuesIn_fields (hs : h.Sound) (name : Text) : valuesIn name h.fields = (h.values? name).toList := by
  obtain ⟨t⟩ := h
  have hd := hs.distinct
  show valuesIn name t = (OrderedTable.get? (fun k => Text.sameFold k name) t).toList
  clear hs
  induction t with
  | nil => rfl
  | cons e t ih =>
    obtain ⟨hnew, hd⟩ := List.nodup_cons.1 hd
    rw [valuesIn_cons, OrderedTable.get?_cons]
    split
    · rename_i he
      have hrest : ∀ e' ∈ t, Text.sameFold e'.1 name = false := by
        intro e' he'
        have hne : Text.lower e'.1 ≠ Text.lower e.1 := fun heq => hnew (List.mem_map.2 ⟨e', he', heq⟩)
        rw [Text.sameFold_iff.1 he] at hne
        simpa [Text.sameFold] using hne
      rw [ih hd, OrderedTable.get?_eq_none hrest]
      rfl
    · exact ih hd

theorem valuesIn_lines (hs : h.Sound) (name : Text) : valuesIn name h.lines = (h.values? name).getD [] := by
  have hflat : valuesIn name h.lines = (valuesIn name h.fields).flatten := by
    obtain ⟨t⟩ := h
    clear hs
    unfold lines
    induction t with
    | nil => rfl
    | cons e t ih =>
      rw [List.flatMap_cons, valuesIn_append, ih, valuesIn_cons]
      have hone : valuesIn name (e.2.map fun v => (e.1, v)) = if Text.sameFold e.1 name then e.2 else [] := by
        unfold valuesIn
        rw [List.filter_map, List.map_map]
        by_cases he : Text.sameFold e.1 name = true
        · simp [Function.comp_def, he]
        · simp [Function.comp_def, he]
      rw [hone]
      split <;> simp
  rw [hflat, valuesIn_fields hs]
  cases h.values? name <;> simp

theorem foldl_push {vs : List Text} (hvs : vs ≠ []) (before : Option (List Text)) :
    vs.foldl (fun ws v => some (ws.getD [] ++ [v])) before = some (before.getD [] ++ vs) := by
  induction vs generalizing before with
  | nil => exact absurd rfl hvs
  | cons v vs ih =>
    rw [List.foldl_cons]
    by_cases hnil : vs = []
    · subst hnil
      rfl
    · rw [ih hnil]
      simp

theorem Sound.values?_ne_nil (hs : h.Sound) {vs : List Text} (hv : h.values? name = some vs) : vs ≠ [] := by
  obtain ⟨e, he, rfl⟩ := Option.map_eq_some_iff.1 hv
  exact hs.filled e (List.mem_of_find?_eq_some he)

/-- **A change does to a name what its effects on that name do.** -/
theorem values?_apply (h : Headers) (hs : h.Sound) (c : Change) (hc : ∀ other ∈ c.sources, other.Sound)
    (name : Text) :
    (c.apply h).values? name = (c.effects name).foldl (fun vs e => e.apply vs) (h.values? name) := by
  cases c with
  | add n v =>
    have hm := values?_modify h n name (· ++ [v])
    show (h.modify n (· ++ [v])).values? name = (if Text.sameFold n name then [_] else []).foldl _ _
    rw [hm]
    split <;> rfl
  | set n v =>
    have hm := values?_modify h n name fun _ => [v]
    show (h.modify n fun _ => [v]).values? name = (if Text.sameFold n name then [_] else []).foldl _ _
    rw [hm]
    split <;> rfl
  | remove n =>
    have hm := values?_remove hs n name
    show (h.remove n).values? name = (if Text.sameFold n name then [_] else []).foldl _ _
    rw [hm]
    split <;> rfl
  | setAll other =>
    have ho := hc other (by simp [Change.sources])
    have hm := values?_modifyAll (fun vs _ => vs) h other.fields name
    rw [valuesIn_fields ho] at hm
    refine Eq.trans hm ?_
    cases hv : other.values? name <;> simp [Change.effects, Effect.apply, hv]
  | addAll other =>
    have ho := hc other (by simp [Change.sources])
    have hm := values?_modifyAll (fun v vs => vs ++ [v]) h other.lines name
    rw [valuesIn_lines ho] at hm
    refine Eq.trans hm ?_
    cases hv : other.values? name with
    | none => simp [Change.effects, hv]
    | some vs =>
      rw [Option.getD_some, foldl_push (ho.values?_ne_nil hv)]
      simp [Change.effects, Effect.apply, hv]
  | setLines ps =>
    have hm := values?_modifyAll (fun v _ => [v]) h ps name
    refine Eq.trans hm ?_
    rw [Change.effects, List.foldl_map]
    rfl
  | addLines ps =>
    have hm := values?_modifyAll (fun v vs => vs ++ [v]) h ps name
    refine Eq.trans hm ?_
    rw [Change.effects, List.foldl_map]
    rfl

/-! ## The order of names -/

/-- Names behind one more mark. -/
def Mark.note : Mark → List Text → List Text
  | put n, names => if names.any (Text.sameFold · n) then names else names ++ [n]
  | strike n, names => names.filter fun m => !Text.sameFold m n

theorem has_eq_any (h : Headers) (n : Text) : h.has n = h.names.any (Text.sameFold · n) := by
  unfold has OrderedTable.has names
  rw [List.any_map]
  rfl

theorem names_modify (h : Headers) (n : Text) (f : List Text → List Text) :
    (h.modify n f).names = (Mark.put n).note h.names := by
  rw [Mark.note, ← has_eq_any]
  rcases OrderedTable.upsert_cases (fun k => Text.sameFold k n) n [] f h.fields with
    ⟨hn, hup⟩ | ⟨t₁, e, t₂, ht, hp, hup⟩
  · have hno : h.has n = false := List.any_eq_false.2 fun e he => by simp [hn e he]
    rw [hno]
    show (OrderedTable.upsert _ n [] f h.fields).map Prod.fst = _
    rw [hup]
    simp [names]
  · have hyes : h.has n = true := List.any_eq_true.2 ⟨e, by simp [ht], hp⟩
    rw [hyes]
    show (OrderedTable.upsert _ n [] f h.fields).map Prod.fst = _
    rw [hup]
    simp [names, ht]

theorem names_modifyAll (g : β → List Text → List Text) (h : Headers) (ps : List (Text × β)) :
    (h.modifyAll g ps).names = (ps.map fun p => Mark.put p.1).foldl (fun ns k => k.note ns) h.names := by
  induction ps generalizing h with
  | nil => rfl
  | cons p ps ih =>
    have step : h.modifyAll g (p :: ps) = (h.modify p.1 (g p.2)).modifyAll g ps := rfl
    rw [step, ih, names_modify]
    rfl

theorem names_remove (hs : h.Sound) (n : Text) : (h.remove n).names = (Mark.strike n).note h.names := by
  have herase : (h.remove n).fields = h.fields.filter fun e => !Text.sameFold e.1 n :=
    OrderedTable.erase_eq_filter Text.lower hs.distinct (Text.lower n)
  unfold names
  rw [herase, Mark.note, List.filter_map]
  rfl

/-- **A change leaves the names that its marks leave.** -/
theorem names_apply (hs : h.Sound) (c : Change) :
    (c.apply h).names = c.marks.foldl (fun ns k => k.note ns) h.names := by
  cases c with
  | add n v => exact names_modify h n _
  | set n v => exact names_modify h n _
  | remove n => exact names_remove hs n
  | setAll other =>
    have hmarks : (other.fields.map fun p => Mark.put p.1) = other.names.map Mark.put := by
      rw [names, List.map_map]
      rfl
    have hm := names_modifyAll (fun vs _ => vs) h other.fields
    rwa [hmarks] at hm
  | addAll other => exact names_modifyAll (fun v vs => vs ++ [v]) h other.lines
  | setLines ps => exact names_modifyAll (fun v _ => [v]) h ps
  | addLines ps => exact names_modifyAll (fun v vs => vs ++ [v]) h ps

/-! ## Places in a history -/

variable {ms : List Mark} {i : Nat}

theorem lt_length_of_getElem? {x : Mark} (hx : ms[i]? = some x) : i < ms.length :=
  (List.getElem?_eq_some_iff.1 hx).1

theorem unstruck_snoc_put : Unstruck (ms ++ [.put n]) i name ↔ Unstruck ms i name := by
  simp only [Unstruck, getElem?_snoc, reduceCtorEq, and_false, or_false]

theorem unstruck_snoc_strike (hi : i < ms.length) :
    Unstruck (ms ++ [.strike n]) i name ↔ Unstruck ms i name ∧ Text.sameFold n name = false := by
  constructor
  · intro hu
    refine ⟨fun j k hj hk => hu j k hj (getElem?_snoc.2 (.inl hk)), ?_⟩
    exact hu ms.length n hi (getElem?_snoc.2 (.inr ⟨rfl, rfl⟩))
  · rintro ⟨hu, hn⟩ j k hj hk
    rcases getElem?_snoc.1 hk with hk | ⟨-, hk⟩
    · exact hu j k hj hk
    · cases hk
      exact hn

theorem Unstruck.congr (hu : Unstruck ms i n) (hn : Text.sameFold n m = true) : Unstruck ms i m := by
  intro j k hj hk
  have hne := hu j k hj hk
  unfold Text.sameFold at hne ⊢
  rwa [← Text.sameFold_iff.1 hn]

theorem putFirst_snoc_strike :
    PutFirst (ms ++ [.strike n]) i m ↔ PutFirst ms i m ∧ Text.sameFold n m = false := by
  constructor
  · intro hp
    have hput : ms[i]? = some (.put m) := by simpa [getElem?_snoc] using hp.put
    have hi := lt_length_of_getElem? hput
    obtain ⟨hu, hn⟩ := (unstruck_snoc_strike hi).1 hp.unstruck
    refine ⟨⟨hput, hu, fun j k hj hk hkm hj' => ?_⟩, hn⟩
    exact hp.first j k hj (getElem?_snoc.2 (.inl hk)) hkm ((unstruck_snoc_strike (by omega)).2 ⟨hj', hn⟩)
  · rintro ⟨hp, hn⟩
    have hi := lt_length_of_getElem? hp.put
    refine ⟨getElem?_snoc.2 (.inl hp.put), (unstruck_snoc_strike hi).2 ⟨hp.unstruck, hn⟩, ?_⟩
    intro j k hj hk hkm hu
    have hk : ms[j]? = some (.put k) := by simpa [getElem?_snoc] using hk
    exact hp.first j k hj hk hkm ((unstruck_snoc_strike (by omega)).1 hu).1

/-- A name that is put down takes the next place, unless it has one. -/
theorem putFirst_snoc_put :
    PutFirst (ms ++ [.put n]) i m ↔ PutFirst ms i m ∨ i = ms.length ∧ n = m ∧
      ∀ j k, ms[j]? = some (.put k) → Text.sameFold k m = true → ¬ Unstruck ms j m := by
  constructor
  · intro hp
    have hfirst : ∀ j k, j < i → ms[j]? = some (.put k) → Text.sameFold k m = true → ¬ Unstruck ms j m :=
      fun j k hj hk hkm hu =>
        hp.first j k hj (getElem?_snoc.2 (.inl hk)) hkm (unstruck_snoc_put.2 hu)
    rcases getElem?_snoc.1 hp.put with hput | ⟨rfl, hput⟩
    · exact .inl ⟨hput, unstruck_snoc_put.1 hp.unstruck, hfirst⟩
    · cases hput
      exact .inr ⟨rfl, rfl, fun j k hk => hfirst j k (lt_length_of_getElem? hk) hk⟩
  · rintro (hp | ⟨rfl, rfl, hnone⟩)
    · refine ⟨getElem?_snoc.2 (.inl hp.put), unstruck_snoc_put.2 hp.unstruck, ?_⟩
      intro j k hj hk hkm hu
      have hi := lt_length_of_getElem? hp.put
      rcases getElem?_snoc.1 hk with hk | ⟨rfl, -⟩
      · exact hp.first j k hj hk hkm (unstruck_snoc_put.1 hu)
      · omega
    · refine ⟨getElem?_snoc.2 (.inr ⟨rfl, rfl⟩), ?_, ?_⟩
      · intro j k hj hk
        have := lt_length_of_getElem? hk
        simp only [List.length_append, List.length_singleton] at this
        omega
      · intro j k hj hk hkm hu
        rcases getElem?_snoc.1 hk with hk | ⟨rfl, -⟩
        · exact hnone j k hk hkm (unstruck_snoc_put.1 hu)
        · omega

/-- A name that stands has a place: the first one that stands. -/
theorem exists_putFirst {k : Text} (hk : ms[i]? = some (.put k)) (hkn : Text.sameFold k name = true)
    (hu : Unstruck ms i name) : ∃ j m, PutFirst ms j m ∧ Text.sameFold m name = true := by
  induction hi : i using Nat.strongRecOn generalizing i k with
  | ind a ih =>
    subst hi
    by_cases he : ∃ j m, j < i ∧ ms[j]? = some (.put m) ∧ Text.sameFold m name = true ∧ Unstruck ms j name
    · obtain ⟨j, m, hj, hm, hmn, hj'⟩ := he
      exact ih j hj hm hmn hj' rfl
    · have hnk : Text.sameFold name k = true := by rwa [Text.sameFold_comm]
      refine ⟨i, k, ⟨hk, hu.congr hnk, fun j m hj hm hmk hj' => he ⟨j, m, hj, hm, ?_, hj'.congr hkn⟩⟩, hkn⟩
      exact Text.sameFold_iff.2 ((Text.sameFold_iff.1 hmk).trans (Text.sameFold_iff.1 hkn))

theorem Ordered.empty : Ordered [] [] := by
  refine ⟨[], rfl, .nil, fun i n => ⟨by simp, fun hp => ?_⟩⟩
  have := hp.put
  simp at this

/-- **One more mark leaves the names in order.** -/
theorem Ordered.note {names : List Text} (ho : Ordered ms names) (k : Mark) : Ordered (ms ++ [k]) (k.note names) := by
  obtain ⟨ps, rfl, hsorted, hmem⟩ := ho
  cases k with
  | put n =>
    rw [Mark.note]
    by_cases hn : (ps.map Prod.snd).any (Text.sameFold · n) = true
    · rw [if_pos hn]
      refine ⟨ps, rfl, hsorted, fun i m => ?_⟩
      rw [hmem, putFirst_snoc_put]
      refine ⟨.inl, fun hor => hor.resolve_right ?_⟩
      rintro ⟨-, rfl, hnone⟩
      obtain ⟨q, hq, hqn⟩ := List.any_eq_true.1 hn
      obtain ⟨⟨j, q⟩, hp, rfl⟩ := List.mem_map.1 hq
      have hfirst := (hmem j q).1 hp
      exact hnone j q hfirst.put hqn (hfirst.unstruck.congr hqn)
    · rw [if_neg hn]
      -- No place is left for the name, so the new one is its first.
      have hnone : ∀ j k, ms[j]? = some (.put k) → Text.sameFold k n = true → ¬ Unstruck ms j n := by
        intro j k hk hkn hu
        obtain ⟨j', m, hp, hmn⟩ := exists_putFirst hk hkn hu
        exact hn (List.any_eq_true.2 ⟨m, List.mem_map.2 ⟨_, (hmem j' m).2 hp, rfl⟩, hmn⟩)
      refine ⟨ps ++ [(ms.length, n)], by simp, ?_, fun i m => ?_⟩
      · refine List.pairwise_append.2 ⟨hsorted, List.pairwise_singleton _ _, ?_⟩
        rintro ⟨j, m⟩ hp q hq
        rw [List.mem_singleton.1 hq]
        exact lt_length_of_getElem? ((hmem j m).1 hp).put
      · rw [List.mem_append, hmem, putFirst_snoc_put, List.mem_singleton, Prod.mk.injEq]
        refine or_congr_right ⟨?_, ?_⟩
        · rintro ⟨rfl, rfl⟩
          exact ⟨rfl, rfl, hnone⟩
        · rintro ⟨rfl, rfl, -⟩
          exact ⟨rfl, rfl⟩
  | strike n =>
    refine ⟨ps.filter fun p => !Text.sameFold p.2 n, ?_, hsorted.filter _, fun i m => ?_⟩
    · rw [Mark.note, List.filter_map]
      rfl
    · rw [List.mem_filter, hmem, putFirst_snoc_strike, Text.sameFold_comm m]
      simp

theorem Ordered.notes {names : List Text} (ho : Ordered ms names) (ks : List Mark) :
    Ordered (ms ++ ks) (ks.foldl (fun ns k => k.note ns) names) := by
  induction ks generalizing ms names with
  | nil => simpa using ho
  | cons k ks ih =>
    have := ih (ho.note k)
    rwa [List.append_assoc, List.singleton_append] at this

/-! ## A whole history -/

theorem run_changes {cs : List Change} (hs : h.Sound) (hcs : ∀ c ∈ cs, ∀ other ∈ c.sources, Reachable other) :
    (cs.foldl (fun h c => c.apply h) h).Sound ∧
      (∀ name, (cs.foldl (fun h c => c.apply h) h).values? name =
        (cs.flatMap (Change.effects name)).foldl (fun vs e => e.apply vs) (h.values? name)) ∧
      (cs.foldl (fun h c => c.apply h) h).names =
        (cs.flatMap Change.marks).foldl (fun ns k => k.note ns) h.names := by
  induction cs generalizing h with
  | nil => exact ⟨hs, fun _ => rfl, rfl⟩
  | cons c cs ih =>
    have hc : ∀ other ∈ c.sources, other.Sound := fun other ho => (hcs c (by simp) other ho).sound
    obtain ⟨hsound, hvalues, hnames⟩ := ih (hs.apply c hc) fun c' hc' => hcs c' (by simp [hc'])
    refine ⟨hsound, fun name => ?_, ?_⟩
    · rw [List.foldl_cons, hvalues, values?_apply h hs c hc, List.flatMap_cons, List.foldl_append]
    · rw [List.foldl_cons, hnames, names_apply hs, List.flatMap_cons, List.foldl_append]

/-- The block has a line for each value, grouped by name in the order of names. -/
theorem render_eq (hs : h.Sound) :
    h.render = h.names.flatMap fun n =>
      ((h.values? n).getD []).flatMap fun v => n ++ ": ".toList ++ v ++ "\r\n".toList := by
  unfold render lines names
  rw [List.flatMap_assoc, List.flatMap_map]
  refine List.flatMap_congr fun e he => ?_
  have hv : h.values? e.1 = some e.2 := OrderedTable.get?_of_mem Text.lower hs.distinct he
  rw [hv, Option.getD_some, List.flatMap_map]
  refine List.flatMap_congr fun v _ => ?_
  simp [renderLine]

/-- **Fields are determined name by name by their history.** Behind any changes, a
name in any case has the values that the changes which touch it leave. The names
stand once each, in the order of their first places since they were last removed and
spelled as they came there. A name that is there has a value, and the written block
has a line for every value, grouped by name in that order. -/
theorem fields_of_history {cs : List Change} (hcs : ∀ c ∈ cs, ∀ other ∈ c.sources, Reachable other) :
    (∀ name n, Text.sameFold n name = true → (after cs).values? n = replay name cs) ∧
      Ordered (cs.flatMap Change.marks) (after cs).names ∧
      ((after cs).names.map Text.lower).Nodup ∧
      (∀ name, (after cs).has name = (after cs).names.any (Text.sameFold · name) ∧
        (after cs).has name = ((after cs).values? name).isSome ∧
        (after cs).has name = ((after cs).first? name).isSome) ∧
      (after cs).render = (after cs).names.flatMap fun n =>
        (((after cs).values? n).getD []).flatMap fun v => n ++ ": ".toList ++ v ++ "\r\n".toList := by
  obtain ⟨hs, hvalues, hnames⟩ := run_changes Sound.empty hcs
  have hs : (after cs).Sound := hs
  have ordered : Ordered (cs.flatMap Change.marks) (after cs).names := by
    have ho := Ordered.empty.notes (cs.flatMap Change.marks)
    rw [List.nil_append] at ho
    rwa [after, hnames]
  have distinct : ((after cs).names.map Text.lower).Nodup := by
    have hd := hs.distinct
    unfold OrderedTable.Distinct at hd
    rwa [names, List.map_map]
  have there : ∀ name, (after cs).has name = ((after cs).values? name).isSome := fun name =>
    OrderedTable.has_eq_isSome (fun k => Text.sameFold k name) (after cs).fields
  refine ⟨fun name n hn => ?_, ordered, distinct, fun name => ⟨has_eq_any _ name, there name, ?_⟩,
    render_eq hs⟩
  · rw [values?_congr hn]
    exact hvalues name
  · rw [there, first?]
    cases hv : (after cs).values? name with
    | none => rfl
    | some vs =>
      have hne := hs.values?_ne_nil hv
      cases vs with
      | nil => exact absurd rfl hne
      | cons v vs => rfl

/-- A name is removed and comes back from other fields, which have it in lower case. -/
def removedAndBack : List Change :=
  let other := ofLines [(['v', 'i', 'a'], ['c']), (['H'], ['h']), (['H'], ['i'])]
  [.add ['V', 'i', 'a'] ['a'], .add ['X'] ['1'], .addAll other, .remove ['V', 'I', 'A'], .setAll other,
    .setLines [(['x'], ['2']), (['x'], ['3'])], .addLines [(['h'], ['j'])]]

/-- The name comes last now, spelled as it came back. Names that were set again keep
their places and their spelling. -/
theorem fields_of_history_back :
    (∀ c ∈ removedAndBack, ∀ other ∈ c.sources, Reachable other) ∧
      (after removedAndBack).values? ['V', 'i', 'a'] = some [['c']] ∧
      (after removedAndBack).values? ['h'] = some [['h'], ['i'], ['j']] ∧
      (after removedAndBack).names = [['X'], ['H'], ['v', 'i', 'a']] ∧
      Ordered (removedAndBack.flatMap Change.marks) [['X'], ['H'], ['v', 'i', 'a']] := by
  have hother : Reachable (ofLines [(['v', 'i', 'a'], ['c']), (['H'], ['h']), (['H'], ['i'])]) :=
    .change (c := .addLines _) .empty (by simp [Change.sources])
  have hcs : ∀ c ∈ removedAndBack, ∀ other ∈ c.sources, Reachable other := by
    have hall : ∀ c ∈ removedAndBack, ∀ other ∈ c.sources,
        other = ofLines [(['v', 'i', 'a'], ['c']), (['H'], ['h']), (['H'], ['i'])] := by decide
    exact fun c hc other ho => hall c hc other ho ▸ hother
  obtain ⟨hvalues, hordered, -⟩ := fields_of_history hcs
  have hnames : (after removedAndBack).names = [['X'], ['H'], ['v', 'i', 'a']] := by decide
  refine ⟨hcs, (hvalues ['v', 'i', 'a'] _ (by decide)).trans ?_, (hvalues ['H'] _ (by decide)).trans ?_,
    hnames, hnames ▸ hordered⟩
  · decide
  · decide

end MessageHead.Headers
