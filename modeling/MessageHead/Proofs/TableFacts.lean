/-
Facts about putting entries into an ordered table. Keys count as the same when
`f` sends them to the same value: `f` is the identity for exact keys and
`Text.lower` for keys up to case.

Writing a table out and reading it back puts its entries one by one into an
empty table. With distinct keys that appends them (`putAll_append`); a put that
makes the table longer is one that appended (`put_eq_append`); and under a key
that came several times the last entry stands (`get?_putAll`).
-/
import MessageHead.OrderedTable
import MessageHead.Text.Basic

namespace MessageHead.OrderedTable

variable {κ β : Type}

/-! ## One entry -/

/-- Behind entries of other keys a change goes on to the rest. -/
theorem upsert_append {p : κ → Bool} {t : OrderedTable κ β} (h : ∀ e ∈ t, p e.1 = false) (k : κ) (fresh : β)
    (g : β → β) (u : OrderedTable κ β) : upsert p k fresh g (t ++ u) = t ++ upsert p k fresh g u := by
  induction t with
  | nil => rfl
  | cons e t ih =>
    have ih := ih fun e' he' => h e' (by simp [he'])
    rw [List.cons_append, upsert, if_neg (by simp [h e]), ih]
    rfl

theorem put_append {p : κ → Bool} {t : OrderedTable κ β} (h : ∀ e ∈ t, p e.1 = false) (k : κ) (b : β) :
    put p k b t = t ++ [(k, b)] := by
  have := upsert_append h k b (fun _ => b) []
  rwa [List.append_nil] at this

/-- No key satisfies `p`, or a first one does. -/
theorem first_cases (p : κ → Bool) (t : OrderedTable κ β) :
    (∀ e ∈ t, p e.1 = false) ∨
      ∃ t₁ e t₂, t = t₁ ++ e :: t₂ ∧ (∀ e' ∈ t₁, p e'.1 = false) ∧ p e.1 = true := by
  induction t with
  | nil => exact .inl (by simp)
  | cons e t ih =>
    by_cases hp : p e.1 = true
    · exact .inr ⟨[], e, t, rfl, by simp, hp⟩
    · have he : p e.1 = false := by simpa using hp
      rcases ih with hn | ⟨t₁, e', t₂, rfl, hn, hp'⟩
      · exact .inl (List.forall_mem_cons.2 ⟨he, hn⟩)
      · exact .inr ⟨e :: t₁, e', t₂, rfl, List.forall_mem_cons.2 ⟨he, hn⟩, hp'⟩

theorem upsert_cases (p : κ → Bool) (k : κ) (fresh : β) (g : β → β) (t : OrderedTable κ β) :
    ((∀ e ∈ t, p e.1 = false) ∧ upsert p k fresh g t = t ++ [(k, g fresh)]) ∨
      ∃ t₁ e t₂, t = t₁ ++ e :: t₂ ∧ p e.1 = true ∧ upsert p k fresh g t = t₁ ++ (e.1, g e.2) :: t₂ := by
  rcases first_cases p t with hn | ⟨t₁, e, t₂, rfl, hn, hp⟩
  · refine .inl ⟨hn, ?_⟩
    have := upsert_append hn k fresh g []
    rwa [List.append_nil] at this
  · refine .inr ⟨t₁, e, t₂, rfl, hp, ?_⟩
    rw [upsert_append hn, upsert, if_pos hp]

theorem put_cases (p : κ → Bool) (k : κ) (b : β) (t : OrderedTable κ β) :
    ((∀ e ∈ t, p e.1 = false) ∧ put p k b t = t ++ [(k, b)]) ∨
      ∃ t₁ e t₂, t = t₁ ++ e :: t₂ ∧ p e.1 = true ∧ put p k b t = t₁ ++ (e.1, b) :: t₂ :=
  upsert_cases p k b (fun _ => b) t

theorem erase_cons_of_pos {p : κ → Bool} {e : κ × β} (h : p e.1 = true) (t : OrderedTable κ β) :
    erase p (e :: t) = t := by
  unfold erase
  rw [List.eraseP_cons, h, cond_true]

theorem erase_cons_of_neg {p : κ → Bool} {e : κ × β} (h : p e.1 = false) (t : OrderedTable κ β) :
    erase p (e :: t) = e :: erase p t := by
  unfold erase
  rw [List.eraseP_cons, h, cond_false]

theorem erase_append {p : κ → Bool} {t : OrderedTable κ β} (h : ∀ e ∈ t, p e.1 = false) {e : κ × β}
    (he : p e.1 = true) (u : OrderedTable κ β) : erase p (t ++ e :: u) = t ++ u := by
  induction t with
  | nil => exact erase_cons_of_pos he u
  | cons e' t ih =>
    obtain ⟨he', ht⟩ := List.forall_mem_cons.1 h
    rw [List.cons_append, erase_cons_of_neg he', ih ht, List.cons_append]

theorem erase_of_absent {p : κ → Bool} {t : OrderedTable κ β} (h : ∀ e ∈ t, p e.1 = false) : erase p t = t :=
  List.eraseP_of_forall_not fun e he => by simp [h e he]

theorem length_put_le (p : κ → Bool) (k : κ) (b : β) (t : OrderedTable κ β) :
    (put p k b t).length ≤ t.length + 1 := by
  rcases put_cases p k b t with ⟨-, h⟩ | ⟨t₁, e, t₂, rfl, -, h⟩
  · rw [h]; simp
  · rw [h]; simp

theorem put_eq_append {p : κ → Bool} {k : κ} {b : β} {t : OrderedTable κ β}
    (h : (put p k b t).length = t.length + 1) : put p k b t = t ++ [(k, b)] := by
  rcases put_cases p k b t with ⟨-, hput⟩ | ⟨t₁, e, t₂, rfl, -, hput⟩
  · exact hput
  · rw [hput] at h
    simp at h

/-- Whatever a change of values leaves alone stays where it is, and a new entry goes to the
end. -/
theorem map_upsert {γ : Type} {φ : κ × β → γ} {g : β → β} (hφ : ∀ k b, φ (k, g b) = φ (k, b)) (p : κ → Bool)
    (k : κ) (fresh : β) (t : OrderedTable κ β) :
    (upsert p k fresh g t).map φ = t.map φ ++ if has p t then [] else [φ (k, fresh)] := by
  rcases upsert_cases p k fresh g t with ⟨hn, h⟩ | ⟨t₁, e, t₂, rfl, hp, h⟩
  · have hhas : has p t = false := List.any_eq_false.2 fun e he => by simp [hn e he]
    rw [h, hhas]
    simp [hφ]
  · have hhas : has p (t₁ ++ e :: t₂) = true := List.any_eq_true.2 ⟨e, by simp, hp⟩
    rw [h, hhas]
    simp [hφ]

/-- A change finds the same entry by what its key comes to, kept in front of it. -/
theorem upsert_keyed {ι : Type} [BEq ι] (key : κ → ι) (k : κ) (fresh : β) (g : β → β) (t : OrderedTable κ β) :
    upsert (· == key k) (key k) (k, fresh) (fun e => (e.1, g e.2)) (t.map fun e => (key e.1, e)) =
      (upsert (fun j => key j == key k) k fresh g t).map fun e => (key e.1, e) := by
  induction t with
  | nil => rfl
  | cons e t ih =>
    rw [List.map_cons, upsert, upsert]
    split
    · rfl
    · rw [ih]
      rfl

theorem keys_upsert (p : κ → Bool) (k : κ) (fresh : β) (g : β → β) (t : OrderedTable κ β) :
    (upsert p k fresh g t).map Prod.fst = t.map Prod.fst ++ if has p t then [] else [k] :=
  map_upsert (φ := Prod.fst) (g := g) (fun _ _ => rfl) p k fresh t

theorem keys_put (p : κ → Bool) (k : κ) (b : β) (t : OrderedTable κ β) :
    ∃ ks, (put p k b t).map Prod.fst = t.map Prod.fst ++ ks :=
  ⟨_, keys_upsert p k b (fun _ => b) t⟩

theorem has_eq_any_keys (p : κ → Bool) (t : OrderedTable κ β) : has p t = (t.map Prod.fst).any p := by
  rw [List.any_map]
  rfl

theorem has_upsert {p : κ → Bool} {t : OrderedTable κ β} (h : has p t = true) (q : κ → Bool) (k : κ) (fresh : β)
    (g : β → β) : has p (upsert q k fresh g t) = true := by
  rw [has_eq_any_keys] at h ⊢
  rw [keys_upsert, List.any_append, h, Bool.true_or]

theorem has_upsert_self {p : κ → Bool} {k : κ} (hk : p k = true) (fresh : β) (g : β → β) (t : OrderedTable κ β) :
    has p (upsert p k fresh g t) = true := by
  by_cases h : has p t = true
  · exact has_upsert h p k fresh g
  · rw [has_eq_any_keys, keys_upsert, if_neg h, List.any_append, List.any_cons, hk, Bool.true_or, Bool.or_true]

theorem forall_upsert {I : κ → β → Prop} {p : κ → Bool} {k : κ} {fresh : β} {g : β → β} {t : OrderedTable κ β}
    (ht : ∀ e ∈ t, I e.1 e.2) (hk : I k (g fresh)) (hg : ∀ e ∈ t, p e.1 = true → I e.1 (g e.2)) :
    ∀ e ∈ upsert p k fresh g t, I e.1 e.2 := by
  rcases upsert_cases p k fresh g t with ⟨-, h⟩ | ⟨t₁, e', t₂, rfl, hp, h⟩
  · rw [h]
    intro e he
    rcases List.mem_append.1 he with he | he
    · exact ht e he
    · rw [List.mem_singleton.1 he]
      exact hk
  · rw [h]
    intro e he
    rcases List.mem_append.1 he with he | he
    · exact ht e (by simp [he])
    · rcases List.mem_cons.1 he with rfl | he
      · exact hg e' (by simp) hp
      · exact ht e (by simp [he])

theorem forall_put {I : κ → β → Prop} {p : κ → Bool} {k : κ} {b : β} {t : OrderedTable κ β}
    (ht : ∀ e ∈ t, I e.1 e.2) (hk : I k b) (hb : ∀ e ∈ t, p e.1 = true → I e.1 b) :
    ∀ e ∈ put p k b t, I e.1 e.2 :=
  forall_upsert ht hk hb

/-! ## Several entries -/

variable {α : Type} [BEq α] (f : κ → α)

/-- No two keys are the same. -/
def Distinct (t : OrderedTable κ β) : Prop := (t.map fun e => f e.1).Nodup

/-- Puts several entries, each under the first key that is the same. -/
def putAll (t es : OrderedTable κ β) : OrderedTable κ β :=
  es.foldl (fun t e => put (fun k => f k == f e.1) e.1 e.2 t) t

omit [BEq α] in
/-- A change that finds every key that is the same as its own makes no second one. -/
theorem Distinct.upsert_where {f : κ → α} {t : OrderedTable κ β} (h : Distinct f t) {p : κ → Bool} {k : κ}
    (hp : ∀ k', f k' = f k → p k' = true) (fresh : β) (g : β → β) :
    Distinct f (OrderedTable.upsert p k fresh g t) := by
  rcases upsert_cases p k fresh g t with ⟨hn, hup⟩ | ⟨t₁, e, t₂, rfl, -, hup⟩
  · rw [hup]
    unfold Distinct at h ⊢
    rw [List.map_append, List.nodup_append]
    refine ⟨h, by simp, ?_⟩
    intro a ha a' ha' he
    obtain ⟨e, hm, rfl⟩ := List.mem_map.1 ha
    simp only [List.map_cons, List.map_nil, List.mem_singleton] at ha'
    have := hn e hm
    rw [hp e.1 (by rw [he, ha'])] at this
    cases this
  · rw [hup]
    unfold Distinct at h ⊢
    simpa using h

theorem Distinct.upsert [LawfulBEq α] {f : κ → α} {t : OrderedTable κ β} (h : Distinct f t) (k : κ) (fresh : β)
    (g : β → β) : Distinct f (OrderedTable.upsert (fun k' => f k' == f k) k fresh g t) :=
  h.upsert_where (fun _ he => by simpa using he) fresh g

theorem Distinct.put [LawfulBEq α] {f : κ → α} {t : OrderedTable κ β} (h : Distinct f t) (k : κ) (b : β) :
    Distinct f (OrderedTable.put (fun k' => f k' == f k) k b t) :=
  h.upsert k b fun _ => b

theorem Distinct.before [LawfulBEq α] {f : κ → α} {t u : OrderedTable κ β} {e : κ × β}
    (h : Distinct f (t ++ e :: u)) : ∀ e' ∈ t, (f e'.1 == f e.1) = false := by
  intro e' he'
  unfold Distinct at h
  rw [List.map_append, List.nodup_append] at h
  have := h.2.2 (f e'.1) (List.mem_map.2 ⟨e', he', rfl⟩) (f e.1) (by simp)
  simpa using this

omit [BEq α] in
theorem Distinct.sublist {f : κ → α} {t u : OrderedTable κ β} (h : Distinct f t) (hu : u.Sublist t) :
    Distinct f u :=
  List.Nodup.sublist (hu.map _) h

omit [BEq α] in
theorem Distinct.keys {f : κ → α} {t : OrderedTable κ β} (h : Distinct f t) : Distinct id t := by
  refine List.pairwise_map.2 ((List.pairwise_map.1 h).imp fun hne heq => hne ?_)
  exact congrArg f heq

theorem Distinct.putAll [LawfulBEq α] {f : κ → α} {t : OrderedTable κ β} (h : Distinct f t)
    (es : OrderedTable κ β) :
    Distinct f (OrderedTable.putAll f t es) := by
  induction es generalizing t with
  | nil => exact h
  | cons e es ih => exact ih (h.put e.1 e.2)

/-- **New distinct keys go to the end, in order.** -/
theorem putAll_append [LawfulBEq α] {t es : OrderedTable κ β} (h : Distinct f (t ++ es)) :
    putAll f t es = t ++ es := by
  induction es generalizing t with
  | nil => simp [putAll]
  | cons e es ih =>
    have step : putAll f t (e :: es) = putAll f (t ++ [e]) es := by
      show putAll f (put (fun k => f k == f e.1) e.1 e.2 t) es = _
      rw [put_append h.before]
    rw [step, ih (by simpa using h)]
    simp

theorem keys_putAll (t es : OrderedTable κ β) :
    ∃ ks, (putAll f t es).map Prod.fst = t.map Prod.fst ++ ks := by
  induction es generalizing t with
  | nil => exact ⟨[], by simp [putAll]⟩
  | cons e es ih =>
    obtain ⟨ks, hks⟩ := ih (put (fun k => f k == f e.1) e.1 e.2 t)
    obtain ⟨ks', hks'⟩ := keys_put (fun k => f k == f e.1) e.1 e.2 t
    refine ⟨ks' ++ ks, ?_⟩
    show (putAll f (put _ e.1 e.2 t) es).map Prod.fst = _
    rw [hks, hks', List.append_assoc]

/-- What holds of the entries put into a table holds of all of them behind, if a
value may change places with another under the same key. -/
theorem forall_putAll [LawfulBEq α] {I : κ → β → Prop} {t es : OrderedTable κ β}
    (hI : ∀ {k k' b b'}, f k = f k' → I k b → I k' b' → I k b') (ht : ∀ e ∈ t, I e.1 e.2)
    (hes : ∀ e ∈ es, I e.1 e.2) : ∀ e ∈ putAll f t es, I e.1 e.2 := by
  induction es generalizing t with
  | nil => exact ht
  | cons e es ih =>
    have he := hes e (by simp)
    refine ih (forall_put ht he fun e' he' hp => ?_) fun e' he' => hes e' (by simp [he'])
    exact hI (by simpa using hp) (ht e' he') he

theorem length_putAll_le (t es : OrderedTable κ β) : (putAll f t es).length ≤ t.length + es.length := by
  induction es generalizing t with
  | nil => simp [putAll]
  | cons e es ih =>
    have h₁ := ih (put (fun k => f k == f e.1) e.1 e.2 t)
    have h₂ := length_put_le (fun k => f k == f e.1) e.1 e.2 t
    show (putAll f (put _ e.1 e.2 t) es).length ≤ _
    simp only [List.length_cons]
    omega

theorem putAll_eq_append {t es : OrderedTable κ β} (h : (putAll f t es).length = t.length + es.length) :
    putAll f t es = t ++ es := by
  induction es generalizing t with
  | nil => simp [putAll]
  | cons e es ih =>
    have step : putAll f t (e :: es) = putAll f (put (fun k => f k == f e.1) e.1 e.2 t) es := rfl
    have h₁ := length_putAll_le f (put (fun k => f k == f e.1) e.1 e.2 t) es
    have h₂ := length_put_le (fun k => f k == f e.1) e.1 e.2 t
    rw [step, List.length_cons] at h
    have hput := put_eq_append (p := fun k => f k == f e.1) (k := e.1) (b := e.2) (t := t) (by omega)
    rw [step, ih (by omega), hput, List.append_assoc, List.singleton_append]

/-! ## Looking up -/

theorem get?_cons (p : κ → Bool) (e : κ × β) (t : OrderedTable κ β) :
    get? p (e :: t) = if p e.1 then some e.2 else get? p t := by
  unfold get? first?
  rw [List.find?_cons]
  cases p e.1 <;> rfl

theorem get?_append (p : κ → Bool) (t u : OrderedTable κ β) : get? p (t ++ u) = (get? p t).or (get? p u) := by
  unfold get? first?
  rw [List.find?_append]
  cases List.find? (fun e => p e.1) t <;> rfl

theorem get?_map (p : κ → Bool) (g : β → β) (t : OrderedTable κ β) :
    get? p (t.map fun e => (e.1, g e.2)) = (get? p t).map g := by
  induction t with
  | nil => rfl
  | cons e t ih =>
    rw [List.map_cons, get?_cons, get?_cons, ih]
    split <;> rfl

theorem get?_upsert_self {p : κ → Bool} {k : κ} (hk : p k = true) (fresh : β) (g : β → β)
    (t : OrderedTable κ β) : get? p (upsert p k fresh g t) = some (g ((get? p t).getD fresh)) := by
  induction t with
  | nil => rw [upsert, get?_cons, if_pos hk]; rfl
  | cons e t ih =>
    rw [upsert, get?_cons]
    split
    · rename_i he
      rw [get?_cons, if_pos he]
      rfl
    · rename_i he
      rw [get?_cons, if_neg he, ih]

/-- A change of a key changes what stands there and nothing else. -/
theorem get?_upsert [LawfulBEq α] (k : κ) (fresh : β) (g : β → β) (t : OrderedTable κ β) (a : α) :
    get? (fun k' => f k' == a) (upsert (fun k' => f k' == f k) k fresh g t) =
      if f k == a then some (g ((get? (fun k' => f k' == f k) t).getD fresh))
      else get? (fun k' => f k' == a) t := by
  by_cases ha : f k = a
  · subst ha
    rw [if_pos (beq_self_eq_true _)]
    exact get?_upsert_self (p := fun k' => f k' == f k) (beq_self_eq_true (f k)) fresh g t
  · have hne : ¬(f k == a) = true := by simpa using ha
    rw [if_neg hne]
    induction t with
    | nil => rw [upsert, get?_cons, if_neg hne]
    | cons e t ih =>
      rw [upsert]
      split
      · rename_i he
        have he : f e.1 = f k := by simpa using he
        rw [get?_cons, get?_cons, he, if_neg hne, if_neg hne]
      · rw [get?_cons, get?_cons, ih]

theorem get?_put [LawfulBEq α] (k : κ) (b : β) (t : OrderedTable κ β) (a : α) :
    get? (fun k' => f k' == a) (put (fun k' => f k' == f k) k b t) =
      if f k == a then some b else get? (fun k' => f k' == a) t :=
  get?_upsert f k b (fun _ => b) t a

theorem get?_eq_none {p : κ → Bool} {t : OrderedTable κ β} (h : ∀ e ∈ t, p e.1 = false) : get? p t = none := by
  unfold get? first?
  rw [List.find?_eq_none.2 fun e he => by simp [h e he]]
  rfl

theorem get?_of_mem [LawfulBEq α] {t : OrderedTable κ β} (h : Distinct f t) {e : κ × β} (he : e ∈ t) :
    get? (fun k => f k == f e.1) t = some e.2 := by
  obtain ⟨t₁, t₂, rfl⟩ := List.append_of_mem he
  rw [get?_append, get?_eq_none h.before, Option.none_or, get?_cons, if_pos (beq_self_eq_true _)]

/-- Among distinct keys, what stands under a key is the one entry of that key. -/
theorem get?_eq_some_iff [LawfulBEq α] {t : OrderedTable κ β} (h : Distinct f t) {a : α} {b : β} :
    get? (fun k => f k == a) t = some b ↔ ∃ e ∈ t, f e.1 = a ∧ e.2 = b := by
  constructor
  · intro hget
    obtain ⟨e, he, hb⟩ := Option.map_eq_some_iff.1 hget
    exact ⟨e, List.mem_of_find?_eq_some he, by simpa using List.find?_some he, hb⟩
  · rintro ⟨e, he, rfl, rfl⟩
    exact get?_of_mem f h he

theorem has_eq_isSome (p : κ → Bool) (t : OrderedTable κ β) : has p t = (get? p t).isSome := by
  induction t with
  | nil => rfl
  | cons e t ih =>
    have ih : t.any (fun e => p e.1) = (get? p t).isSome := ih
    rw [get?_cons, has, List.any_cons, ih]
    cases p e.1 <;> rfl

theorem erase_eq_filter [LawfulBEq α] {t : OrderedTable κ β} (h : Distinct f t) (a : α) :
    erase (fun k => f k == a) t = t.filter fun e => !(f e.1 == a) := by
  induction t with
  | nil => rfl
  | cons e t ih =>
    have hd : f e.1 ∉ t.map (fun e => f e.1) ∧ Distinct f t := List.nodup_cons.1 h
    by_cases he : (f e.1 == a) = true
    · rw [erase_cons_of_pos he, List.filter_cons_of_neg (by simp [he])]
      refine (List.filter_eq_self.2 fun e' he' => ?_).symm
      have hm : f e'.1 ∈ t.map fun e => f e.1 := List.mem_map.2 ⟨e', he', rfl⟩
      have hne : f e'.1 ≠ a := fun hea => hd.1 (by rw [eq_of_beq he, ← hea]; exact hm)
      simpa using hne
    · have he : (f e.1 == a) = false := by simpa using he
      rw [erase_cons_of_neg he, List.filter_cons_of_pos (by simp [he]), ih hd.2]

theorem get?_erase [LawfulBEq α] {t : OrderedTable κ β} (h : Distinct f t) (a b : α) :
    get? (fun k => f k == b) (erase (fun k => f k == a) t) =
      if a == b then none else get? (fun k => f k == b) t := by
  rw [erase_eq_filter f h]
  by_cases hab : a = b
  · subst hab
    rw [if_pos (beq_self_eq_true _)]
    refine get?_eq_none fun e he => ?_
    simpa using (List.mem_filter.1 he).2
  · rw [if_neg (by simpa using hab)]
    unfold get? first?
    rw [List.find?_filter]
    congr 2
    funext e
    by_cases he : f e.1 = b
    · simp [he, Ne.symm hab]
    · simp [he]

/-- **Of several entries put under one key the last one stands there.** -/
theorem get?_putAll [LawfulBEq α] (t es : OrderedTable κ β) (a : α) :
    get? (fun k => f k == a) (putAll f t es) =
      (get? (fun k => f k == a) es.reverse).or (get? (fun k => f k == a) t) := by
  induction es generalizing t with
  | nil => rfl
  | cons e es ih =>
    have step : putAll f t (e :: es) = putAll f (put (fun k => f k == f e.1) e.1 e.2 t) es := rfl
    rw [step, ih, get?_put, List.reverse_cons, get?_append, Option.or_assoc, get?_cons]
    split <;> rfl

/-! ## The text of a table -/

/-- Keys and values one after the other; `val` is the text of a value. -/
def spell (val : β → Text) (t : OrderedTable Text β) : Text := t.flatMap fun e => e.1 ++ val e.2

/-- Putting entries makes a table hold no more of any character than they and
the table did. -/
theorem count_spell_putAll_le (g : Text → α) (val : β → Text) (c : Char) (t es : OrderedTable Text β) :
    (spell val (putAll g t es)).count c ≤ (spell val t).count c + (spell val es).count c := by
  induction es generalizing t with
  | nil => simp [putAll, spell]
  | cons e es ih =>
    have one : (spell val (put (fun k => g k == g e.1) e.1 e.2 t)).count c ≤
        (spell val t).count c + (e.1 ++ val e.2).count c := by
      rcases put_cases (fun k => g k == g e.1) e.1 e.2 t with ⟨-, h⟩ | ⟨t₁, e', t₂, rfl, -, h⟩
      · rw [h]
        simp [spell]
      · rw [h]
        simp only [spell, List.flatMap_append, List.flatMap_cons, List.count_append]
        omega
    have all := ih (put (fun k => g k == g e.1) e.1 e.2 t)
    have hes : (spell val (e :: es)).count c = (e.1 ++ val e.2).count c + (spell val es).count c := by
      simp only [spell, List.flatMap_cons, List.count_append]
    show (spell val (putAll g (put _ e.1 e.2 t) es)).count c ≤ _
    omega

end MessageHead.OrderedTable

namespace MessageHead

/-! ## Places in a list -/

theorem getElem?_snoc {α : Type} {l : List α} {a b : α} {i : Nat} :
    (l ++ [a])[i]? = some b ↔ l[i]? = some b ∨ i = l.length ∧ a = b := by
  rcases Nat.lt_trichotomy i l.length with hi | rfl | hi
  · rw [List.getElem?_append_left hi]
    simp [Nat.ne_of_lt hi]
  · simp
  · rw [List.getElem?_eq_none (by simp; omega), List.getElem?_eq_none (by omega)]
    simp [Nat.ne_of_gt hi]

end MessageHead
