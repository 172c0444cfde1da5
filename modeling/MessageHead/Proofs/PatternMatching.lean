/-
What an expression matches, said of two positions of a text: `p.Spans input i j` when `p` matches
what lies from `i` to `j`. The matcher carries whole sets of positions along instead. It follows
that relation (`Expr.follows_advance`), so an expression matches somewhere exactly when it spans
two positions (`Expr.matchesIn_iff`).

The two differ most in a repetition. By the relation any number of rounds may follow each other;
the matcher stops when a round adds nothing, and at the latest behind as many rounds as the text
has characters. Those are enough, since a round that takes no character can be left out
(`Chain.shorten`).
-/
import MessageHead.Pattern.Matcher
import Mathlib.Logic.Function.Iterate

namespace MessageHead.Pattern

/-! ## Spans -/

/-- `n` steps of a relation, one after the other. -/
def Chain (R : Nat → Nat → Prop) : Nat → Nat → Nat → Prop
  | 0, i, j => i = j
  | n + 1, i, j => ∃ k, R i k ∧ Chain R n k j

/-- A position of a text with what is before and behind it. -/
def placeAt (input : Text) (i : Nat) : Place := ⟨(input.take i).getLast?, input[i]?⟩

/-- The expression matches what lies between two positions of the text. -/
def Expr.Spans (input : Text) : Expr → Nat → Nat → Prop
  | .empty, i, j => i = j
  | .literal s, i, j => s <+: input.drop i ∧ i + s.length = j
  | .chars set, i, j => (∃ c, input[i]? = some c ∧ set.contains c = true) ∧ i + 1 = j
  | .look a, i, j => a.holds (placeAt input i) = true ∧ i = j
  | .group p, i, j => p.Spans input i j
  | .seq p q, i, j => ∃ k, p.Spans input i k ∧ q.Spans input k j
  | .alt p q, i, j => p.Spans input i j ∨ q.Spans input i j
  | .times p least most _, i, j =>
    -- Of bounds that are out of order, which no pattern has, the first one counts.
    ∃ n, least ≤ n ∧ (∀ m ∈ most, n ≤ max least m) ∧ Chain (p.Spans input) n i j

variable {R S : Nat → Nat → Prop} {i j k m n : Nat}

/-! ## Chains -/

theorem chain_add : Chain R (m + n) i j ↔ ∃ k, Chain R m i k ∧ Chain R n k j := by
  induction m generalizing i with
  | zero => simp [Chain]
  | succ m ih =>
    rw [Nat.succ_add]
    simp only [Chain, ih]
    constructor
    · rintro ⟨a, ha, b, hb, hj⟩
      exact ⟨b, ⟨a, ha, hb⟩, hj⟩
    · rintro ⟨b, ⟨a, ha, hb⟩, hj⟩
      exact ⟨a, ha, b, hb, hj⟩

/-- Steps that may also stay where they are make any smaller number of steps. -/
theorem chain_reflexive : Chain (fun i j => i = j ∨ R i j) n i j ↔ ∃ m, m ≤ n ∧ Chain R m i j := by
  induction n generalizing i with
  | zero =>
    constructor
    · exact fun h => ⟨0, Nat.le_refl 0, h⟩
    · rintro ⟨m, hm, h⟩
      rwa [Nat.le_zero.1 hm] at h
  | succ n ih =>
    constructor
    · rintro ⟨k, rfl | hk, h⟩
      · obtain ⟨m, hm, h⟩ := ih.1 h
        exact ⟨m, Nat.le_succ_of_le hm, h⟩
      · obtain ⟨m, hm, h⟩ := ih.1 h
        exact ⟨m + 1, Nat.succ_le_succ hm, k, hk, h⟩
    · rintro ⟨m, hm, h⟩
      cases m with
      | zero => exact ⟨i, .inl rfl, ih.2 ⟨0, Nat.zero_le n, h⟩⟩
      | succ m =>
        obtain ⟨k, hk, h⟩ := h
        exact ⟨k, .inr hk, ih.2 ⟨m, Nat.le_of_succ_le_succ hm, h⟩⟩

theorem Chain.le (hR : ∀ i j, R i j → i ≤ j) (h : Chain R n i j) : i ≤ j := by
  induction n generalizing i with
  | zero => exact Nat.le_of_eq h
  | succ n ih =>
    obtain ⟨k, hk, h⟩ := h
    exact Nat.le_trans (hR i k hk) (ih h)

/-- **Steps that lead nowhere can be left out**: where none leads back, as many are enough as there
are positions to go. -/
theorem Chain.shorten (hR : ∀ i j, R i j → i ≤ j) (h : Chain R n i j) : ∃ m, m ≤ j - i ∧ Chain R m i j := by
  induction n generalizing i with
  | zero => exact ⟨0, Nat.zero_le _, h⟩
  | succ n ih =>
    obtain ⟨k, hk, h⟩ := h
    obtain ⟨m, hm, hchain⟩ := ih h
    rcases Nat.lt_or_eq_of_le (hR i k hk) with hlt | rfl
    · have hle : k ≤ j := h.le hR
      exact ⟨m + 1, by omega, k, hk, hchain⟩
    · exact ⟨m, hm, hchain⟩

/-! ## Sets of positions -/

namespace Positions

/-- The set has a position. -/
def Has (s : Positions) (i : Nat) : Prop := s[i]? = some true

/-- On sets of the positions below `n`, `f` goes where `R` leads, and nowhere else. -/
def Follows (n : Nat) (f : Positions → Positions) (R : Nat → Nat → Prop) : Prop :=
  ∀ s : Positions, s.length = n → (f s).length = n ∧ ∀ j, (f s).Has j ↔ ∃ i, s.Has i ∧ R i j

variable {f g : Positions → Positions} {s : Positions}

theorem Has.lt (h : s.Has i) : i < s.length := (List.getElem?_eq_some_iff.1 h).1

theorem Follows.lt (hf : Follows n f R) (hs : s.length = n) (hi : s.Has i) (hr : R i j) : j < n := by
  obtain ⟨hlen, hreach⟩ := hf s hs
  have hj : (f s).Has j := (hreach j).2 ⟨i, hi, hr⟩
  exact hlen ▸ hj.lt

theorem Follows.congr (hf : Follows n f R) (h : ∀ i j, R i j ↔ S i j) : Follows n f S := by
  have : R = S := funext fun i => funext fun j => propext (h i j)
  exact this ▸ hf

theorem follows_id : Follows n id Eq := by
  intro s hs
  exact ⟨hs, fun j => by simp⟩

theorem Follows.comp (hg : Follows n g S) (hf : Follows n f R) :
    Follows n (g ∘ f) fun i j => ∃ k, R i k ∧ S k j := by
  intro s hs
  obtain ⟨hlen, hfs⟩ := hf s hs
  obtain ⟨hlen', hgs⟩ := hg (f s) hlen
  refine ⟨hlen', fun j => (hgs j).trans ?_⟩
  constructor
  · rintro ⟨k, hk, hj⟩
    obtain ⟨i, hi, hik⟩ := (hfs k).1 hk
    exact ⟨i, hi, k, hik, hj⟩
  · rintro ⟨i, hi, k, hik, hj⟩
    exact ⟨k, (hfs k).2 ⟨i, hi, hik⟩, hj⟩

theorem has_union {a b : Positions} (h : a.length = b.length) : (union a b).Has i ↔ a.Has i ∨ b.Has i := by
  unfold Has union
  rw [List.getElem?_zipWith]
  by_cases hi : i < a.length
  · have hi' : i < b.length := h ▸ hi
    rw [List.getElem?_eq_getElem hi, List.getElem?_eq_getElem hi']
    simp
  · have hi' : ¬i < b.length := h ▸ hi
    rw [List.getElem?_eq_none (Nat.le_of_not_lt hi), List.getElem?_eq_none (Nat.le_of_not_lt hi')]
    simp

theorem Follows.union (hf : Follows n f R) (hg : Follows n g S) :
    Follows n (fun s => (f s).union (g s)) fun i j => R i j ∨ S i j := by
  intro s hs
  obtain ⟨hlen, hfs⟩ := hf s hs
  obtain ⟨hlen', hgs⟩ := hg s hs
  refine ⟨by simp [Positions.union, hlen, hlen'], fun j => ?_⟩
  rw [has_union (hlen.trans hlen'.symm), hfs, hgs]
  simp only [and_or_left, exists_or]

theorem follows_step (p : Char → Bool) (input : Text) :
    Follows (input.length + 1) (step p input)
      fun i j => (∃ c, input[i]? = some c ∧ p c = true) ∧ i + 1 = j := by
  intro s hs
  refine ⟨by simp [step, hs], fun j => ?_⟩
  cases j with
  | zero => simp [step, Has]
  | succ j =>
    unfold Has step
    rw [List.getElem?_cons_succ, List.getElem?_zipWith]
    cases hi : s[j]? <;> cases hc : input[j]? <;> simp_all

/-! ## Rounds -/

theorem iterate_eq (f : Positions → Positions) (n : Nat) (s : Positions) : iterate f n s = f^[n] s := by
  induction n generalizing s with
  | zero => rfl
  | succ n ih =>
    rw [iterate]
    split
    next same =>
      have hfix : f s = s := eq_of_beq same
      exact (Function.iterate_fixed hfix (n + 1)).symm
    next => rw [ih, Function.iterate_succ_apply]

theorem saturate_eq (f : Positions → Positions) (n : Nat) (s : Positions) :
    saturate f n s = (fun s => s.union (f s))^[n] s := by
  have hrounds : saturate f n s = iterate (fun s => s.union (f s)) n s := by
    induction n generalizing s with
    | zero => rfl
    | succ n ih => rw [saturate, iterate, ih]
  rw [hrounds, iterate_eq]

theorem Follows.iterated (hf : Follows n f R) (k : Nat) : Follows n f^[k] (Chain R k) := by
  induction k with
  | zero => exact follows_id
  | succ k ih => exact ih.comp hf

theorem Follows.iterate (hf : Follows n f R) (k : Nat) : Follows n (iterate f k) (Chain R k) := by
  rw [funext (iterate_eq f k)]
  exact hf.iterated k

/-- At most a number of rounds. -/
theorem Follows.saturate (hf : Follows n f R) (k : Nat) :
    Follows n (saturate f k) fun i j => ∃ m, m ≤ k ∧ Chain R m i j := by
  rw [funext (saturate_eq f k)]
  exact ((follows_id.union hf).iterated k).congr fun _ _ => chain_reflexive

/-- Any number of rounds, where none leads back. -/
theorem Follows.saturate_all (hf : Follows (n + 1) f R) (hR : ∀ i j, R i j → i ≤ j) :
    Follows (n + 1) (Positions.saturate f n) fun i j => ∃ m, Chain R m i j := by
  intro s hs
  obtain ⟨hlen, hreach⟩ := hf.saturate n s hs
  refine ⟨hlen, fun j => (hreach j).trans ?_⟩
  constructor
  · rintro ⟨i, hi, m, -, hm⟩
    exact ⟨i, hi, m, hm⟩
  · rintro ⟨i, hi, m, hm⟩
    obtain ⟨m', hle, hm'⟩ := hm.shorten hR
    have hj : j < n + 1 := (hf.iterate m).lt hs hi hm
    exact ⟨i, hi, m', by omega, hm'⟩

end Positions

/-! ## Neighbours -/

theorem getElem?_placesFrom (before : Option Char) (s : Text) {i : Nat} (hi : i ≤ s.length) :
    (placesFrom before s)[i]? = some ⟨((s.take i).getLast?).or before, s[i]?⟩ := by
  induction s generalizing before i with
  | nil =>
    obtain rfl : i = 0 := Nat.le_zero.1 hi
    rfl
  | cons c s ih =>
    cases i with
    | zero => rfl
    | succ i =>
      rw [placesFrom, List.getElem?_cons_succ, ih (some c) (Nat.le_of_succ_le_succ hi), List.take_succ_cons,
        List.getLast?_cons]
      cases (s.take i).getLast? <;> rfl

theorem getElem?_places {input : Text} (hi : i ≤ input.length) : (places input)[i]? = some (placeAt input i) := by
  rw [places, getElem?_placesFrom none input hi, Option.or_none]
  rfl

theorem length_placesFrom (before : Option Char) (s : Text) : (placesFrom before s).length = s.length + 1 := by
  induction s generalizing before with
  | nil => rfl
  | cons c s ih => rw [placesFrom, List.length_cons, ih, List.length_cons]

/-! ## Expressions -/

namespace Expr

open Positions (Follows)

theorem Spans.le {input : Text} {p : Expr} (h : p.Spans input i j) : i ≤ j := by
  induction p generalizing i j with
  | empty => exact Nat.le_of_eq h
  | literal s => exact h.2 ▸ Nat.le_add_right i _
  | chars set => exact h.2 ▸ Nat.le_succ i
  | look a => exact Nat.le_of_eq h.2
  | group p ih => exact ih h
  | seq p q ihp ihq =>
    obtain ⟨k, hp, hq⟩ := h
    exact Nat.le_trans (ihp hp) (ihq hq)
  | alt p q ihp ihq => exact h.elim ihp ihq
  | times p least most lazy ih =>
    obtain ⟨n, -, -, h⟩ := h
    exact h.le fun _ _ => ih

theorem follows_literal (input s : Text) :
    Follows (input.length + 1) (fun at? => s.foldl (fun at? c => at?.step (· == c) input) at?)
      ((literal s).Spans input) := by
  induction s with
  | nil => exact Positions.follows_id.congr fun i j => by simp [Spans]
  | cons c s ih =>
    refine (ih.comp (Positions.follows_step (· == c) input)).congr fun i j => ?_
    simp only [Spans, beq_iff_eq, exists_eq_right]
    constructor
    · rintro ⟨k, ⟨hc, rfl⟩, hs, rfl⟩
      obtain ⟨hi, rfl⟩ := List.getElem?_eq_some_iff.1 hc
      refine ⟨?_, by simp only [List.length_cons]; omega⟩
      rw [List.drop_eq_getElem_cons hi]
      exact List.cons_prefix_cons.2 ⟨rfl, hs⟩
    · rintro ⟨hs, rfl⟩
      have hi : i < input.length := by
        have := hs.length_le
        simp only [List.length_cons, List.length_drop] at this
        omega
      rw [List.drop_eq_getElem_cons hi, List.cons_prefix_cons] at hs
      obtain ⟨rfl, hs⟩ := hs
      exact ⟨i + 1, ⟨List.getElem?_eq_getElem hi, rfl⟩, hs, by simp only [List.length_cons]; omega⟩

theorem follows_look (input : Text) (a : Assertion) :
    Follows (input.length + 1) ((look a).advance input) ((look a).Spans input) := by
  intro s hs
  have hlen : (places input).length = input.length + 1 := length_placesFrom none input
  refine ⟨by simp [advance, hs, hlen], fun j => ?_⟩
  have has : ((look a).advance input s).Has j ↔ s.Has j ∧ a.holds (placeAt input j) = true := by
    unfold Positions.Has advance
    rw [List.getElem?_zipWith]
    cases hj : s[j]? with
    | none => simp
    | some here =>
      have hlt : j < s.length := (List.getElem?_eq_some_iff.1 hj).1
      rw [getElem?_places (by omega)]
      simp
  rw [has]
  constructor
  · rintro ⟨hj, ha⟩
    exact ⟨j, hj, ha, rfl⟩
  · rintro ⟨i, hi, ha, rfl⟩
    exact ⟨hi, ha⟩

theorem follows_times {input : Text} {p : Expr} (hp : Follows (input.length + 1) (p.advance input) (p.Spans input))
    (least : Nat) (most : Option Nat) (lazy : Bool) :
    Follows (input.length + 1) ((times p least most lazy).advance input)
      ((times p least most lazy).Spans input) := by
  have further : ∃ g, (times p least most lazy).advance input = g ∘ Positions.iterate (p.advance input) least ∧
      Follows (input.length + 1) g fun i j =>
        ∃ e, (∀ m ∈ most, e ≤ m - least) ∧ Chain (p.Spans input) e i j := by
    cases most with
    | none => exact ⟨_, rfl, (hp.saturate_all fun _ _ => Spans.le).congr (by simp)⟩
    | some m => exact ⟨_, rfl, (hp.saturate (m - least)).congr (by simp)⟩
  obtain ⟨g, heq, hg⟩ := further
  rw [heq]
  refine (hg.comp (hp.iterate least)).congr fun i j => ?_
  constructor
  · rintro ⟨k, hk, e, he, hj⟩
    refine ⟨least + e, Nat.le_add_right least e, fun m hm => ?_, chain_add.2 ⟨k, hk, hj⟩⟩
    have := he m hm
    omega
  · rintro ⟨n, hle, hmost, h⟩
    obtain ⟨e, rfl⟩ := Nat.exists_eq_add_of_le hle
    obtain ⟨k, hk, hj⟩ := chain_add.1 h
    refine ⟨k, hk, e, fun m hm => ?_, hj⟩
    have := hmost m hm
    omega

/-- **The matcher goes where the expression leads.** -/
theorem follows_advance (input : Text) (p : Expr) :
    Follows (input.length + 1) (p.advance input) (p.Spans input) := by
  induction p with
  | empty => exact Positions.follows_id
  | literal s => exact follows_literal input s
  | chars set => exact Positions.follows_step set.contains input
  | look a => exact follows_look input a
  | group p ih => exact ih
  | seq p q ihp ihq => exact ihq.comp ihp
  | alt p q ihp ihq => exact ihp.union ihq
  | times p least most lazy ih => exact follows_times ih least most lazy

/-- **An expression matches a text when it spans two of its positions.** -/
theorem matchesIn_iff {input : Text} {p : Expr} :
    p.matchesIn input = true ↔ ∃ i j, i ≤ input.length ∧ p.Spans input i j := by
  have start : ∀ i, Positions.Has (List.replicate (input.length + 1) true) i ↔ i ≤ input.length := by
    intro i
    unfold Positions.Has
    rw [List.getElem?_replicate, Option.ite_none_right_eq_some]
    exact (and_iff_left rfl).trans Nat.lt_succ_iff
  have some_has : ∀ s : Positions, s.any id = true ↔ ∃ j, s.Has j := by
    intro s
    simp only [List.any_eq_true, id, exists_eq_right]
    exact List.mem_iff_getElem?
  obtain ⟨-, hreach⟩ := follows_advance input p (List.replicate (input.length + 1) true) (by simp)
  rw [matchesIn, some_has]
  simp only [hreach, start]
  exact exists_comm.trans (by simp only [exists_and_left])

end Expr

end MessageHead.Pattern
