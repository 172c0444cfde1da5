/-
A scan of a text is in one of three modes: outside quotes, inside them, or
inside and right behind a backslash. Modes can be followed through any
concatenation (`Mode.after_append`), and they settle what the quoted readers do.

A text is *whole* for a delimiter (`Whole`) when its quotes close and the
delimiter stands inside them only.
-/
import MessageHead.Element.Parser
import MessageHead.Proofs.TextFacts
import MessageHead.Text.Escape

namespace MessageHead.Quoted

/-! ## Modes -/

/-- Where a scan stands. -/
inductive Mode where
  | outside
  | inside
  /-- Inside quotes, behind a backslash that hides the next character. -/
  | hidden
deriving DecidableEq, Repr

namespace Mode

/-- The mode behind one more character. -/
def next : Mode → Char → Mode
  | outside, c => if c == '"' then inside else outside
  | inside, c => if c == '"' then outside else if c == '\\' then hidden else inside
  | hidden, _ => inside

/-- The mode behind a text. -/
def after (m : Mode) (s : Text) : Mode := s.foldl next m

/-- The mode behind a character that is neither a quote nor a backslash. -/
def settle : Mode → Mode
  | hidden => inside
  | m => m

@[simp] theorem after_nil (m : Mode) : m.after [] = m := rfl

@[simp] theorem after_cons (m : Mode) (c : Char) (s : Text) : m.after (c :: s) = (m.next c).after s := rfl

@[simp] theorem after_append (m : Mode) (s t : Text) : m.after (s ++ t) = (m.after s).after t :=
  List.foldl_append

@[simp] theorem settle_settle (m : Mode) : m.settle.settle = m.settle := by cases m <;> rfl

/-- Neither a quote nor a backslash. -/
def Inert (c : Char) : Prop := c ≠ '"' ∧ c ≠ '\\'

instance (c : Char) : Decidable (Inert c) := inferInstanceAs (Decidable (_ ∧ _))

theorem next_inert {c : Char} (h : Inert c) (m : Mode) : m.next c = m.settle := by
  cases m <;> simp [next, settle, h.1, h.2]

theorem after_inert {s : Text} (h : ∀ c ∈ s, Inert c) (m : Mode) :
    m.settle.after s = m.settle := by
  induction s generalizing m with
  | nil => rfl
  | cons c s ih =>
    rw [after_cons, next_inert (h c (by simp)), settle_settle]
    exact ih (fun d hd => h d (by simp [hd])) m

theorem after_inert_of_ne {s : Text} (hs : s ≠ []) (h : ∀ c ∈ s, Inert c) (m : Mode) :
    m.after s = m.settle := by
  cases s with
  | nil => exact absurd rfl hs
  | cons c s =>
    rw [after_cons, next_inert (h c (by simp))]
    exact after_inert (fun d hd => h d (by simp [hd])) m

/-- Behind an inert character it does not matter which inert ones came before. -/
theorem after_inert_append {s : Text} (h : ∀ c ∈ s, Inert c) {c : Char} (hc : Inert c) (m : Mode)
    (t : Text) : m.after (s ++ c :: t) = m.after (c :: t) := by
  cases s with
  | nil => rfl
  | cons d s =>
    rw [List.cons_append, after_cons, next_inert (h d (by simp)), after_append,
      after_inert (fun e he => h e (by simp [he])), after_cons, after_cons, next_inert hc, next_inert hc,
      settle_settle]

theorem outside_after {s : Text} (h : '"' ∉ s) : outside.after s = outside := by
  induction s with
  | nil => rfl
  | cons c s ih =>
    simp only [List.mem_cons, not_or] at h
    rw [after_cons, next, if_neg (by simpa using Ne.symm h.1)]
    exact ih h.2

theorem after_lower (m : Mode) (s : Text) : m.after (Text.lower s) = m.after s := by
  induction s generalizing m with
  | nil => rfl
  | cons c s ih =>
    have quote : (c.toLower == '"') = (c == '"') := by
      rw [Bool.eq_iff_iff, beq_iff_eq, beq_iff_eq, Text.toLower_eq_iff (by decide)]
    have backslash : (c.toLower == '\\') = (c == '\\') := by
      rw [Bool.eq_iff_iff, beq_iff_eq, beq_iff_eq, Text.toLower_eq_iff (by decide)]
    have hn : m.next c.toLower = m.next c := by cases m <;> simp only [next, quote, backslash]
    show (m.next c.toLower).after (Text.lower s) = _
    rw [hn, ih]
    rfl

theorem settle_of_ne {m : Mode} (hm : m ≠ outside) : m.settle = inside := by
  cases m with
  | outside => exact absurd rfl hm
  | inside => rfl
  | hidden => rfl

theorem after_ne_outside {s : Text} (h : '"' ∉ s) {m : Mode} (hm : m ≠ outside) : m.after s ≠ outside := by
  induction s generalizing m with
  | nil => exact hm
  | cons c s ih =>
    simp only [List.mem_cons, not_or] at h
    refine ih h.2 ?_
    cases m with
    | outside => exact absurd rfl hm
    | inside =>
      simp only [next, beq_iff_eq, if_neg (Ne.symm h.1)]
      split <;> simp
    | hidden => simp [next]

/-- Between quotes an escaped text ends as it began. -/
theorem inside_after_encode (s : Text) : inside.after (Escape.encode s) = inside := by
  induction s with
  | nil => rfl
  | cons c s ih =>
    rw [Escape.encode]
    split
    · exact ih
    · rename_i hc
      simp only [Bool.or_eq_true, beq_iff_eq, not_or] at hc
      rw [after_cons, next_inert hc]
      exact ih

theorem outside_after_quote (s : Text) : outside.after (Escape.quote s) = outside := by
  rw [Escape.quote, List.cons_append, after_cons, after_append]
  simp only [next, beq_self_eq_true, if_true]
  rw [inside_after_encode]
  rfl

end Mode

/-! ## What stands outside quotes -/

/-- Read on from a mode, `s` has no character outside quotes that `stop`
holds of. -/
def Clear (stop : Char → Bool) : Mode → Text → Prop
  | _, [] => True
  | m, c :: s => (m = .outside → stop c = false) ∧ Clear stop (m.next c) s

/-- Read on from a mode, every character of `s` is inside quotes; the quote
that closes them counts as inside. -/
abbrev Within (m : Mode) (s : Text) : Prop := Clear (fun _ => true) m s

instance decidableClear (stop : Char → Bool) : ∀ (m : Mode) (s : Text), Decidable (Clear stop m s)
  | _, [] => isTrue trivial
  | m, c :: s =>
    have := decidableClear stop (m.next c) s
    inferInstanceAs (Decidable ((m = .outside → stop c = false) ∧ Clear stop (m.next c) s))

@[simp] theorem Clear.nil {stop : Char → Bool} {m : Mode} : Clear stop m [] := trivial

theorem Clear.append {stop : Char → Bool} {m : Mode} {s t : Text} :
    Clear stop m (s ++ t) ↔ Clear stop m s ∧ Clear stop (m.after s) t := by
  induction s generalizing m with
  | nil => simp
  | cons c s ih => simp only [List.cons_append, Clear, Mode.after_cons, ih, and_assoc]

theorem Clear.mono {stop stop' : Char → Bool} {s : Text} (h : ∀ c ∈ s, stop' c = true → stop c = true)
    {m : Mode} (hs : Clear stop m s) : Clear stop' m s := by
  induction s generalizing m with
  | nil => trivial
  | cons c s ih =>
    refine ⟨fun hm => ?_, ih (fun d hd => h d (by simp [hd])) hs.2⟩
    cases hc : stop' c with
    | false => rfl
    | true =>
      have := h c (by simp) hc
      rw [hs.1 hm] at this
      exact absurd this (by simp)

theorem Clear.of_not_stop {stop : Char → Bool} {s : Text} (h : ∀ c ∈ s, stop c = false) (m : Mode) :
    Clear stop m s := by
  induction s generalizing m with
  | nil => trivial
  | cons c s ih => exact ⟨fun _ => h c (by simp), ih (fun d hd => h d (by simp [hd])) _⟩

theorem Within.append {m : Mode} {s t : Text} : Within m (s ++ t) ↔ Within m s ∧ Within (m.after s) t :=
  Clear.append

theorem Within.cons {m : Mode} {c : Char} {s : Text} :
    Within m (c :: s) ↔ m ≠ .outside ∧ Within (m.next c) s := by
  show (m = .outside → true = false) ∧ Clear _ _ s ↔ _
  simp

theorem Within.of_not_mem {s : Text} (hs : '"' ∉ s) {m : Mode} (hm : m ≠ .outside) : Within m s := by
  induction s generalizing m with
  | nil => exact Clear.nil
  | cons c s ih =>
    refine Within.cons.2 ⟨hm, ih (fun h => hs (by simp [h])) ?_⟩
    have hc : '"' ∉ [c] := fun h => hs (List.mem_singleton.1 h ▸ List.mem_cons_self)
    exact Mode.after_ne_outside hc hm

theorem Within.of_inert_iff {s : Text} (hs : s ≠ []) (h : ∀ c ∈ s, Mode.Inert c) {m : Mode} :
    Within m s ↔ m ≠ .outside := by
  induction s generalizing m with
  | nil => exact absurd rfl hs
  | cons c s ih =>
    rw [Within.cons, Mode.next_inert (h c (by simp))]
    constructor
    · exact fun hm => hm.1
    · intro hm
      refine ⟨hm, ?_⟩
      by_cases hsn : s = []
      · rw [hsn]
        exact Clear.nil
      · refine (ih hsn fun d hd => h d (by simp [hd])).2 ?_
        rw [Mode.settle_of_ne hm]
        decide

/-- An escaped text never leaves the quotes around it. -/
theorem Within.encode (s : Text) : Within .inside (Escape.encode s) := by
  induction s with
  | nil => trivial
  | cons c s ih =>
    rw [Escape.encode]
    split
    · exact ⟨fun h => absurd h (by decide), fun h => absurd h (by decide), ih⟩
    · rename_i hc
      simp only [Bool.or_eq_true, beq_iff_eq, not_or] at hc
      refine ⟨fun h => absurd h (by decide), ?_⟩
      rw [Mode.next_inert hc]
      exact ih

/-- The quotes of `s` close, and nothing outside them is a stop. -/
structure Whole (stop : Char → Bool) (s : Text) : Prop where
  clear : Clear stop .outside s
  closed : Mode.outside.after s = .outside

instance (stop : Char → Bool) (s : Text) : Decidable (Whole stop s) :=
  decidable_of_iff (Clear stop .outside s ∧ Mode.outside.after s = .outside)
    ⟨fun h => ⟨h.1, h.2⟩, fun h => ⟨h.1, h.2⟩⟩

theorem Whole.nil {stop : Char → Bool} : Whole stop [] := ⟨trivial, rfl⟩

theorem Whole.mono {stop stop' : Char → Bool} {s : Text} (h : ∀ c, stop' c = true → stop c = true)
    (hs : Whole stop s) : Whole stop' s :=
  ⟨hs.clear.mono fun c _ => h c, hs.closed⟩

theorem Whole.append {stop : Char → Bool} {s t : Text} (hs : Whole stop s) (ht : Whole stop t) :
    Whole stop (s ++ t) :=
  ⟨Clear.append.2 ⟨hs.clear, by rw [hs.closed]; exact ht.clear⟩,
    by rw [Mode.after_append, hs.closed, ht.closed]⟩

theorem Whole.of_not_mem {stop : Char → Bool} {s : Text} (hq : '"' ∉ s) (h : ∀ c ∈ s, stop c = false) :
    Whole stop s := ⟨.of_not_stop h _, Mode.outside_after hq⟩

theorem Whole.tail {stop : Char → Bool} {c : Char} {s : Text} (hc : c ≠ '"') (h : Whole stop (c :: s)) :
    Whole stop s := by
  have hn : Mode.outside.next c = .outside := by simp [Mode.next, hc]
  have h1 := h.clear.2
  have h2 := h.closed
  rw [hn] at h1
  rw [Mode.after_cons, hn] at h2
  exact ⟨h1, h2⟩

theorem Whole.cons {stop : Char → Bool} {c : Char} {s : Text} (hc : c ≠ '"') (hs : stop c = false)
    (h : Whole stop s) : Whole stop (c :: s) := by
  have hn : Mode.outside.next c = .outside := by simp [Mode.next, hc]
  exact ⟨⟨fun _ => hs, by rw [hn]; exact h.clear⟩, by rw [Mode.after_cons, hn]; exact h.closed⟩

theorem Whole.quote {stop : Char → Bool} (hstop : stop '"' = false) (s : Text) :
    Whole stop (Escape.quote s) := by
  refine ⟨?_, Mode.outside_after_quote s⟩
  rw [Escape.quote, List.cons_append]
  refine ⟨fun _ => hstop, Clear.append.2 ⟨(Within.encode s).mono (by simp), ?_⟩⟩
  show Clear stop (Mode.inside.after _) _
  rw [Mode.inside_after_encode]
  exact ⟨fun h => absurd h (by decide), trivial⟩

/-- Blanks at the end of a whole text are no part of its quotes. -/
theorem Whole.of_append_blank {stop : Char → Bool} {s b : Text} (hb : Text.Blank b)
    (h : Whole stop (s ++ b)) : Whole stop s := by
  refine ⟨(Clear.append.1 h.clear).1, ?_⟩
  have hq : '"' ∉ b := fun hm => by
    have := hb _ hm
    exact absurd this (by decide)
  by_cases hs : Mode.outside.after s = .outside
  · exact hs
  · exact absurd h.closed (by rw [Mode.after_append]; exact Mode.after_ne_outside hq hs)

theorem Whole.of_blank_append {stop : Char → Bool} {a s : Text} (ha : Text.Blank a)
    (h : Whole stop (a ++ s)) : Whole stop s := by
  have hq : '"' ∉ a := fun hm => by
    have := ha _ hm
    exact absurd this (by decide)
  have ho := Mode.outside_after hq
  refine ⟨?_, ?_⟩
  · have := (Clear.append.1 h.clear).2
    rwa [ho] at this
  · have := h.closed
    rwa [Mode.after_append, ho] at this

theorem Whole.trim {stop : Char → Bool} {s : Text} (h : Whole stop s) : Whole stop (Text.trim s) := by
  obtain ⟨a, b, ha, hb, hs⟩ := Text.exists_trim s
  rw [hs] at h
  exact Whole.of_blank_append ha (Whole.of_append_blank hb h)

/-- Blanks around an inert character are no part of the quotes around it. -/
theorem Whole.around {stop : Char → Bool} {x a b y : Text} {c : Char} (ha : Text.Blank a) (hb : Text.Blank b)
    (hc : Mode.Inert c) (hs : stop c = false) (h : Whole stop (x ++ a ++ c :: (b ++ y))) :
    Whole stop (x ++ c :: y) := by
  have inert : ∀ {w : Text}, Text.Blank w → ∀ d ∈ w, Mode.Inert d := by
    intro w hw d hd
    refine ⟨?_, ?_⟩
    · rintro rfl
      exact absurd (hw _ hd) (by decide)
    · rintro rfl
      exact absurd (hw _ hd) (by decide)
  have skip : ∀ m : Mode, (m.after (a ++ [c])).after b = m.next c := by
    intro m
    rw [Mode.after_inert_append (inert ha) hc, Mode.after_cons, Mode.after_nil, Mode.next_inert hc]
    exact Mode.after_inert (inert hb) m
  have hsplit : x ++ a ++ c :: (b ++ y) = x ++ ((a ++ [c]) ++ b) ++ y := by simp
  rw [hsplit] at h
  refine ⟨?_, ?_⟩
  · obtain ⟨hx, hy⟩ := Clear.append.1 h.clear
    rw [Mode.after_append, Mode.after_append, skip] at hy
    exact Clear.append.2 ⟨(Clear.append.1 hx).1, fun _ => hs, hy⟩
  · have := h.closed
    rw [Mode.after_append, Mode.after_append, Mode.after_append, skip] at this
    rw [Mode.after_append, Mode.after_cons]
    exact this

end MessageHead.Quoted
