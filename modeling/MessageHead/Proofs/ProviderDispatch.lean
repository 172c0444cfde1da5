/-
What a list of providers makes of a message.

A provider passes a message on when it does not accept it or declines it, and else
settles it, with an entity or an error. The list comes to what its first settling
provider makes of the message (`create_cases`), and everything about a run is read off
that one description: its result, the providers it asked, and what lists behind one
another come to.

The places a run says it asked are no mere record: what stands at the others can be
exchanged and nothing changes (`create_congr`).
-/
import MessageHead.Entity.Provider

namespace MessageHead

/-- The provider leaves the message to those behind it. -/
def Provider.Passes (p : Provider) (m : Message) (r : Resource) : Prop :=
  p.accepts m = false ∨ p.create m r = .ok none

/-- The provider makes an entity of the message or fails on it. -/
def Provider.Settles (p : Provider) (m : Message) (r : Resource) (x : Except Error Entity) : Prop :=
  p.accepts m = true ∧ p.create m r = x.map some

namespace Providers

/-- Place `i` has the first provider that settles the message, by `x`. -/
structure SettledAt (ps : Providers) (m : Message) (r : Resource) (i : Nat) (x : Except Error Entity) : Prop where
  settles : ∃ p, ps[i]? = some p ∧ p.Settles m r x
  passed : ∀ j p, j < i → ps[j]? = some p → p.Passes m r

/-- The places of the providers that accept the message, in order. -/
def accepting (ps : Providers) (m : Message) : List Nat :=
  (List.range ps.length).filter fun i => ps[i]?.any fun p => p.accepts m

/-- What becomes of a message with further providers behind `n` that came to `first`. -/
def Outcome.followed (first : Outcome) (n : Nat) (later : Outcome) : Outcome :=
  match first.result with
  | .ok none => ⟨later.result, first.asked ++ later.asked.map (n + ·)⟩
  | _ => first

variable {p : Provider} {ps qs : Providers} {m : Message} {r : Resource} {i j : Nat} {x y : Except Error Entity}

/-! ## One provider -/

theorem passes_or_settles (p : Provider) (m : Message) (r : Resource) :
    p.Passes m r ∨ ∃ x, p.Settles m r x := by
  cases ha : p.accepts m with
  | false => exact .inl (.inl ha)
  | true =>
    cases hc : p.create m r with
    | error e => exact .inr ⟨.error e, ha, hc⟩
    | ok made =>
      cases made with
      | none => exact .inl (.inr hc)
      | some e => exact .inr ⟨.ok e, ha, hc⟩

theorem not_passes_of_settles (h : p.Settles m r x) : ¬p.Passes m r := by
  rintro (hp | hp)
  · rw [h.1] at hp
    cases hp
  · rw [h.2] at hp
    cases x <;> cases hp

theorem map_some_inj (h : x.map some = y.map some) : x = y := by
  cases x <;> cases y <;> cases h <;> rfl

/-! ## A provider in front -/

theorem createFrom_add (m : Message) (r : Resource) (n i : Nat) (ps : Providers) :
    createFrom m r (n + i) ps = ⟨(createFrom m r i ps).result, (createFrom m r i ps).asked.map (n + ·)⟩ := by
  induction ps generalizing i with
  | nil => rfl
  | cons p ps ih =>
    have next := ih (i + 1)
    rw [← Nat.add_assoc] at next
    unfold createFrom
    split
    · split
      · rw [next]; rfl
      · rfl
      · rfl
    · exact next

theorem createFrom_one (m : Message) (r : Resource) (ps : Providers) :
    createFrom m r 1 ps = ⟨(ps.create m r).result, (ps.create m r).asked.map (1 + ·)⟩ :=
  createFrom_add m r 1 0 ps

/-- A provider that passes is asked if it accepts, and the rest decides. -/
theorem create_cons_of_passes (h : p.Passes m r) (ps : Providers) :
    create (p :: ps) m r =
      ⟨(ps.create m r).result, (if p.accepts m then [0] else []) ++ (ps.create m r).asked.map (1 + ·)⟩ := by
  rw [create, createFrom]
  split
  · rename_i ha
    have hc : p.create m r = .ok none := h.resolve_left (by simp [ha])
    simp only [hc, Nat.zero_add, createFrom_one]
    rfl
  · rw [Nat.zero_add, createFrom_one]
    rfl

/-- Behind a provider that settles nobody is asked. -/
theorem create_cons_of_settles (h : p.Settles m r x) (ps : Providers) :
    create (p :: ps) m r = ⟨x.map some, [0]⟩ := by
  obtain ⟨ha, hc⟩ := h
  rw [create, createFrom, if_pos ha, hc]
  cases x <;> rfl

theorem accepting_cons (p : Provider) (ps : Providers) (m : Message) :
    accepting (p :: ps) m = (if p.accepts m then [0] else []) ++ (accepting ps m).map (1 + ·) := by
  have later : (List.range ps.length).map Nat.succ = (List.range ps.length).map (1 + ·) :=
    List.map_congr_left fun i _ => Nat.add_comm i 1
  unfold accepting
  rw [List.length_cons, List.range_succ_eq_map, later, List.filter_cons, List.filter_map]
  have shifted : ((fun i => (p :: ps)[i]?.any fun p => p.accepts m) ∘ (1 + ·)) =
      fun i => ps[i]?.any fun p => p.accepts m := by
    funext i
    simp only [Function.comp_apply, Nat.add_comm 1 i, List.getElem?_cons_succ]
  rw [shifted]
  simp only [List.getElem?_cons_zero, Option.any_some]
  split <;> rfl

/-! ## The first that settles -/

theorem settledAt_zero : SettledAt (p :: ps) m r 0 x ↔ p.Settles m r x := by
  constructor
  · rintro ⟨⟨q, hq, hs⟩, -⟩
    cases hq
    exact hs
  · exact fun h => ⟨⟨p, rfl, h⟩, fun j _ hj => absurd hj (Nat.not_lt_zero j)⟩

theorem settledAt_succ : SettledAt (p :: ps) m r (i + 1) x ↔ p.Passes m r ∧ SettledAt ps m r i x := by
  constructor
  · rintro ⟨⟨q, hq, hs⟩, hp⟩
    exact ⟨hp 0 p (Nat.succ_pos i) rfl, ⟨q, hq, hs⟩, fun j q hj hq => hp (j + 1) q (Nat.succ_lt_succ hj) hq⟩
  · rintro ⟨hfront, ⟨q, hq, hs⟩, hp⟩
    refine ⟨⟨q, hq, hs⟩, fun j q hj hq => ?_⟩
    cases j with
    | zero =>
      cases hq
      exact hfront
    | succ j => exact hp j q (Nat.lt_of_succ_lt_succ hj) hq

theorem SettledAt.unique (h : SettledAt ps m r i x) (h' : SettledAt ps m r j y) : i = j ∧ x = y := by
  obtain ⟨⟨p, hp, hs⟩, hpassed⟩ := h
  obtain ⟨⟨q, hq, hs'⟩, hpassed'⟩ := h'
  rcases Nat.lt_trichotomy i j with hlt | rfl | hlt
  · exact absurd (hpassed' i p hlt hp) (not_passes_of_settles hs)
  · rw [hp] at hq
    cases hq
    exact ⟨rfl, map_some_inj (hs.2.symm.trans hs'.2)⟩
  · exact absurd (hpassed j q hlt hq) (not_passes_of_settles hs')

/-- **What providers come to.** Either one of them is the first to settle the message,
and those that accept it were asked up to that place; or all pass, and all that accept
it were asked. -/
theorem create_cases (ps : Providers) (m : Message) (r : Resource) :
    (∃ i x, SettledAt ps m r i x ∧ ps.create m r = ⟨x.map some, (ps.accepting m).filter (· ≤ i)⟩) ∨
      (∀ i x, ¬SettledAt ps m r i x) ∧ ps.create m r = ⟨.ok none, ps.accepting m⟩ := by
  induction ps with
  | nil =>
    refine .inr ⟨fun i x h => ?_, rfl⟩
    obtain ⟨p, hp, -⟩ := h.settles
    cases hp
  | cons p ps ih =>
    rcases passes_or_settles p m r with hp | ⟨x, hx⟩
    · rcases ih with ⟨i, x, hi, hc⟩ | ⟨hnone, hc⟩
      · refine .inl ⟨i + 1, x, settledAt_succ.2 ⟨hp, hi⟩, ?_⟩
        have shifted : ((fun j => decide (j ≤ i + 1)) ∘ (1 + ·)) = fun j => decide (j ≤ i) := by
          funext j
          simp only [Function.comp_apply, decide_eq_decide]
          omega
        rw [create_cons_of_passes hp, hc, accepting_cons, List.filter_append, List.filter_map, shifted]
        split <;> rfl
      · refine .inr ⟨fun i x h => ?_, ?_⟩
        · cases i with
          | zero => exact not_passes_of_settles (settledAt_zero.1 h) hp
          | succ i => exact hnone i x (settledAt_succ.1 h).2
        · rw [create_cons_of_passes hp, hc, accepting_cons]
    · refine .inl ⟨0, x, settledAt_zero.2 hx, ?_⟩
      have none_behind : ((accepting ps m).map (1 + ·)).filter (· ≤ 0) = [] := by
        refine List.filter_eq_nil_iff.2 fun j hj => ?_
        obtain ⟨i, -, rfl⟩ := List.mem_map.1 hj
        simp
      rw [create_cons_of_settles hx, accepting_cons, List.filter_append, none_behind, if_pos hx.1]
      rfl

theorem SettledAt.create_eq (h : SettledAt ps m r i x) :
    ps.create m r = ⟨x.map some, (ps.accepting m).filter (· ≤ i)⟩ := by
  rcases create_cases ps m r with ⟨j, y, hj, hc⟩ | ⟨hnone, -⟩
  · obtain ⟨rfl, rfl⟩ := h.unique hj
    exact hc
  · exact absurd h (hnone i x)

theorem create_eq_of_unsettled (h : ∀ i x, ¬SettledAt ps m r i x) :
    ps.create m r = ⟨.ok none, ps.accepting m⟩ := by
  rcases create_cases ps m r with ⟨i, x, hi, -⟩ | ⟨-, hc⟩
  · exact absurd hi (h i x)
  · exact hc

theorem result_eq_iff (x : Except Error Entity) :
    (ps.create m r).result = x.map some ↔ ∃ i, SettledAt ps m r i x := by
  constructor
  · intro hx
    rcases create_cases ps m r with ⟨i, y, hi, hc⟩ | ⟨-, hc⟩
    · rw [hc] at hx
      exact ⟨i, map_some_inj hx ▸ hi⟩
    · rw [hc] at hx
      cases x <;> cases hx
  · rintro ⟨i, hi⟩
    rw [hi.create_eq]

theorem result_eq_none_iff : (ps.create m r).result = .ok none ↔ ∀ i x, ¬SettledAt ps m r i x := by
  constructor
  · intro hn i x hi
    rw [hi.create_eq] at hn
    cases x <;> cases hn
  · intro h
    rw [create_eq_of_unsettled h]

/-! ## Providers behind others -/

/-- **Providers behind others are asked when all of those pass.** -/
theorem create_append (ps qs : Providers) (m : Message) (r : Resource) :
    create (ps ++ qs) m r = (ps.create m r).followed ps.length (qs.create m r) := by
  induction ps with
  | nil =>
    show qs.create m r = ⟨(qs.create m r).result, [] ++ (qs.create m r).asked.map (0 + ·)⟩
    simp
  | cons p ps ih =>
    have shifted : ∀ is : List Nat, (is.map (ps.length + ·)).map (1 + ·) = is.map ((p :: ps).length + ·) := by
      intro is
      rw [List.map_map]
      refine List.map_congr_left fun i _ => ?_
      simp only [Function.comp_apply, List.length_cons]
      omega
    rw [List.cons_append]
    rcases passes_or_settles p m r with hp | ⟨x, hx⟩
    · rw [create_cons_of_passes hp, create_cons_of_passes hp, ih]
      unfold Outcome.followed
      rcases create ps m r with ⟨e | _ | e, asked⟩
      · rfl
      · simp only [List.map_append, shifted, List.append_assoc]
      · rfl
    · rw [create_cons_of_settles hx, create_cons_of_settles hx]
      cases x <;> rfl

/-! ## What is not asked -/

theorem mem_accepting : i ∈ ps.accepting m ↔ ∃ p, ps[i]? = some p ∧ p.accepts m = true := by
  unfold accepting
  rw [List.mem_filter, List.mem_range, Option.any_eq_true]
  exact ⟨And.right, fun ⟨p, hp, ha⟩ => ⟨(List.getElem?_eq_some_iff.1 hp).1, p, hp, ha⟩⟩

/-- Providers that accept the message alike, and make the same of it at some places. -/
structure AgreeAt (places : List Nat) (ps qs : Providers) (m : Message) (r : Resource) : Prop where
  accepts : qs.map (fun p => p.accepts m) = ps.map fun p => p.accepts m
  creates : ∀ i ∈ places, qs[i]?.map (fun p => p.create m r) = ps[i]?.map fun p => p.create m r

variable {places : List Nat}

theorem AgreeAt.accepting_eq (h : AgreeAt places ps qs m r) : qs.accepting m = ps.accepting m := by
  have by_answers : ∀ ps : Providers, ps.accepting m =
      (List.range (ps.map fun p => p.accepts m).length).filter fun i =>
        (ps.map fun p => p.accepts m)[i]?.any id := by
    intro ps
    unfold accepting
    simp only [List.length_map, List.getElem?_map, Option.any_map]
    rfl
  rw [by_answers qs, by_answers ps, h.accepts]

theorem AgreeAt.symm (h : AgreeAt places ps qs m r) : AgreeAt places qs ps m r :=
  ⟨h.accepts.symm, fun i hi => (h.creates i hi).symm⟩

/-- At each place there are two providers or none, and what one accepts the other does. -/
theorem AgreeAt.exists_other (h : AgreeAt places ps qs m r) (hp : ps[i]? = some p) :
    ∃ q, qs[i]? = some q ∧ q.accepts m = p.accepts m ∧ (i ∈ places → q.create m r = p.create m r) := by
  have ha : (qs.map fun p => p.accepts m)[i]? = (ps.map fun p => p.accepts m)[i]? := by rw [h.accepts]
  have hc := h.creates i
  rw [List.getElem?_map, List.getElem?_map, hp] at ha
  rw [hp] at hc
  cases hq : qs[i]? with
  | none =>
    rw [hq] at ha
    cases ha
  | some q =>
    rw [hq] at ha hc
    exact ⟨q, rfl, Option.some.inj ha, fun hi => Option.some.inj (hc hi)⟩

theorem AgreeAt.settledAt (h : AgreeAt places ps qs m r)
    (hplaces : ∀ j ∈ ps.accepting m, j ≤ i → j ∈ places) (hi : SettledAt ps m r i x) :
    SettledAt qs m r i x := by
  obtain ⟨⟨p, hp, ha, hc⟩, hpassed⟩ := hi
  constructor
  · obtain ⟨q, hq, haq, hcq⟩ := h.exists_other hp
    exact ⟨q, hq, haq.trans ha, (hcq (hplaces i (mem_accepting.2 ⟨p, hp, ha⟩) (Nat.le_refl i))).trans hc⟩
  · intro j q hj hq
    obtain ⟨p, hp, hap, hcp⟩ := h.symm.exists_other hq
    cases ha : q.accepts m with
    | false => exact .inl ha
    | true =>
      have hpa : p.accepts m = true := hap.trans ha
      have hdeclines : p.create m r = .ok none := (hpassed j p hj hp).resolve_left (by simp [hpa])
      have hplace := hplaces j (mem_accepting.2 ⟨p, hp, hpa⟩) (Nat.le_of_lt hj)
      exact .inr ((hcp hplace).symm.trans hdeclines)

/-- **Who is not asked has no say.** Other providers that accept the message alike come to
the same if they make the same of it where a provider was asked. -/
theorem create_congr (h : AgreeAt (create ps m r).asked ps qs m r) : create qs m r = create ps m r := by
  rcases create_cases ps m r with ⟨i, x, hi, hc⟩ | ⟨hnone, hc⟩
  · rw [hc] at h ⊢
    have asked : ∀ j ∈ ps.accepting m, j ≤ i → j ∈ (ps.accepting m).filter (· ≤ i) :=
      fun j hj hle => List.mem_filter.2 ⟨hj, by simpa using hle⟩
    rw [(h.settledAt asked hi).create_eq, h.accepting_eq]
  · rw [hc] at h ⊢
    have unsettled : ∀ i x, ¬SettledAt qs m r i x := fun i x hi =>
      hnone i x (h.symm.settledAt (fun j hj _ => h.accepting_eq ▸ hj) hi)
    rw [create_eq_of_unsettled unsettled, h.accepting_eq]

theorem accepting_eq_nil (h : ps.accept m = false) : ps.accepting m = [] := by
  refine List.eq_nil_iff_forall_not_mem.2 fun i hi => ?_
  obtain ⟨p, hp, ha⟩ := mem_accepting.1 hi
  exact List.any_eq_false.1 h p (List.mem_of_getElem? hp) ha

theorem create_of_not_accept (h : ps.accept m = false) : ps.create m r = ⟨.ok none, []⟩ := by
  have unsettled : ∀ i x, ¬SettledAt ps m r i x := by
    intro i x hi
    obtain ⟨p, hp, ha, -⟩ := hi.settles
    exact List.any_eq_false.1 h p (List.mem_of_getElem? hp) ha
  rw [create_eq_of_unsettled unsettled, accepting_eq_nil h]

/-! ## The whole run -/

theorem asked_ascends (ps : Providers) (m : Message) (r : Resource) :
    (create ps m r).asked.Pairwise (· < ·) := by
  have ascends : (ps.accepting m).Pairwise (· < ·) := List.pairwise_lt_range.sublist List.filter_sublist
  rcases create_cases ps m r with ⟨i, x, -, hc⟩ | ⟨-, hc⟩
  · rw [hc]
    exact ascends.sublist List.filter_sublist
  · rw [hc]
    exact ascends

/-- **The first provider that settles a message settles what becomes of it.** An entity or
an error comes of a message exactly when the first provider that accepts it and does not
decline makes it; nothing comes of it when there is no such provider. Asked are those that
accept the message, in order and each once, up to that provider or else all of them; the
others have no say beyond accepting. Providers behind others are asked when nothing came of
those, and where nobody accepts the message nobody is asked. -/
theorem create_settled_by_first (ps : Providers) (m : Message) (r : Resource) :
    (∀ e, (create ps m r).result = .ok (some e) ↔ ∃ i, SettledAt ps m r i (.ok e)) ∧
      (∀ e, (create ps m r).result = .error e ↔ ∃ i, SettledAt ps m r i (.error e)) ∧
      ((create ps m r).result = .ok none ↔ ∀ i x, ¬SettledAt ps m r i x) ∧
      (∀ i x, SettledAt ps m r i x → (create ps m r).asked = (ps.accepting m).filter (· ≤ i)) ∧
      ((∀ i x, ¬SettledAt ps m r i x) → (create ps m r).asked = ps.accepting m) ∧
      (create ps m r).asked.Pairwise (· < ·) ∧
      (∀ qs, AgreeAt (create ps m r).asked ps qs m r → create qs m r = create ps m r) ∧
      (∀ qs, create (ps ++ qs) m r = (create ps m r).followed ps.length (create qs m r)) ∧
      (ps.accept m = false → create ps m r = ⟨.ok none, []⟩) := by
  refine ⟨fun e => result_eq_iff (.ok e), fun e => result_eq_iff (.error e), result_eq_none_iff, ?_, ?_,
    asked_ascends ps m r, fun _ => create_congr, fun qs => create_append ps qs m r, create_of_not_accept⟩
  · intro i x hi
    rw [hi.create_eq]
  · intro h
    rw [create_eq_of_unsettled h]

/-- An entity without bytes. -/
def hollow : Entity := ⟨none, .bytes []⟩

/-- A provider that accepts nothing, one that declines, one that makes an entity and one
that fails. -/
def mixed : Providers :=
  [⟨fun _ => false, fun _ _ => .error (.io ['a'])⟩, ⟨fun _ => true, fun _ _ => .ok none⟩,
    ⟨fun _ => true, fun _ _ => .ok (some hollow)⟩, ⟨fun _ => true, fun _ _ => .error (.io ['b'])⟩]

/-- The second provider is asked and declines, the third one settles the message. The first
two alone leave it to the last, which then fails; the first one alone is not asked. -/
theorem create_settled_by_first_mixed :
    SettledAt mixed {} (.ofBytes []) 2 (.ok hollow) ∧
      (create mixed {} (.ofBytes [])).result = .ok (some hollow) ∧
      (create mixed {} (.ofBytes [])).asked = [1, 2] ∧
      (∀ i x, ¬SettledAt (mixed.take 2) {} (.ofBytes []) i x) ∧
      (create (mixed.take 2) {} (.ofBytes [])).asked = [1] ∧
      (create (mixed.take 2 ++ mixed.drop 3) {} (.ofBytes [])).result = .error (.io ['b']) ∧
      AgreeAt (create mixed {} (.ofBytes [])).asked mixed (mixed.set 3 ⟨fun _ => true, fun _ _ => .ok none⟩) {}
        (.ofBytes []) ∧
      (create (mixed.set 3 ⟨fun _ => true, fun _ _ => .ok none⟩) {} (.ofBytes [])).asked = [1, 2] ∧
      accept (mixed.take 1) {} = false ∧ (create (mixed.take 1) {} (.ofBytes [])).asked = [] := by
  obtain ⟨hmade, -, -, hasked, -, -, hagree, -, -⟩ := create_settled_by_first mixed {} (.ofBytes [])
  obtain ⟨-, -, hnone, -, hall, -, -, hbehind, -⟩ := create_settled_by_first (mixed.take 2) {} (.ofBytes [])
  obtain ⟨-, -, -, -, -, -, -, -, hrefused⟩ := create_settled_by_first (mixed.take 1) {} (.ofBytes [])
  have settled : SettledAt mixed {} (.ofBytes []) 2 (.ok hollow) := by
    refine settledAt_succ.2 ⟨.inl rfl, settledAt_succ.2 ⟨.inr rfl, settledAt_zero.2 ⟨rfl, rfl⟩⟩⟩
  have unsettled : ∀ i x, ¬SettledAt (mixed.take 2) {} (.ofBytes []) i x := hnone.1 rfl
  have places : (create mixed {} (.ofBytes [])).asked = [1, 2] := hasked 2 _ settled
  have agree : AgreeAt (create mixed {} (.ofBytes [])).asked mixed
      (mixed.set 3 ⟨fun _ => true, fun _ _ => .ok none⟩) {} (.ofBytes []) := by
    refine ⟨rfl, fun i hi => ?_⟩
    rw [places] at hi
    simp only [List.mem_cons, List.not_mem_nil, or_false] at hi
    rcases hi with rfl | rfl <;> rfl
  refine ⟨settled, (hmade hollow).2 ⟨2, settled⟩, places, unsettled, hall unsettled, ?_, agree, ?_, rfl, ?_⟩
  · rw [hbehind]
    rfl
  · rw [hagree _ agree, places]
  · rw [hrefused rfl]

end Providers

end MessageHead
