/-
Patterns that match no text in common, told by their edges.

An expression says of the first characters of what it matches in which ranges they lie, and of
the last characters likewise (`Expr.edge`, `Expr.fits_edge`). A pattern that is anchored at both
ends matches whole texts only, so two of them match no common text when at some place from the
front, or from the back, their ranges are apart (`Expr.not_both_of_apart`). That can be checked
without matching anything. It need not find every such pair: what a repetition matches is left
open.
-/
import MessageHead.MediaType.Patterns
import MessageHead.Proofs.PatternMatching

namespace MessageHead.Pattern

/-! ## Edges -/

/-- What is known of the first characters of a text. -/
structure Edge where
  /-- For each of the first characters, ranges of code points one of which has it. -/
  places : List (List (Nat × Nat))
  /-- The text has no other characters. -/
  whole : Bool

/-- One of the ranges has the character. -/
def Within (ranges : List (Nat × Nat)) (c : Char) : Prop := ∃ r ∈ ranges, r.1 ≤ c.toNat ∧ c.toNat ≤ r.2

/-- The text begins with characters in these ranges. -/
def Begins : List (List (Nat × Nat)) → Text → Prop
  | [], _ => True
  | _ :: _, [] => False
  | ranges :: more, c :: s => Within ranges c ∧ Begins more s

namespace Edge

/-- What is known of the text is so. -/
structure Fits (e : Edge) (s : Text) : Prop where
  begins : Begins e.places s
  ends : e.whole = true → s.length = e.places.length

/-- The edge of a text that goes on behind another one. -/
def followed (a b : Edge) : Edge := if a.whole then ⟨a.places ++ b.places, b.whole⟩ else a

/-- The edge of a text that has one edge or another. -/
def either (a b : Edge) : Edge :=
  ⟨List.zipWith (· ++ ·) a.places b.places, a.whole && b.whole && a.places.length == b.places.length⟩

/-- No character lies in a range of both. -/
def apartRanges (rs ss : List (Nat × Nat)) : Bool := rs.all fun r => ss.all fun s => r.2 < s.1 || s.2 < r.1

/-- At some place the ranges are apart. -/
def apart (a b : Edge) : Bool := (List.zipWith apartRanges a.places b.places).any id

variable {a b e : Edge} {s t : Text} {A B : List (List (Nat × Nat))}

theorem begins_append_right (h : Begins A s) (t : Text) : Begins A (s ++ t) := by
  fun_induction Begins A s with
  | case1 => trivial
  | case2 => exact h.elim
  | case3 ranges more c s ih => exact ⟨h.1, ih h.2⟩

theorem begins_append (hs : Begins A s) (hlen : s.length = A.length) (ht : Begins B t) :
    Begins (A ++ B) (s ++ t) := by
  fun_induction Begins A s with
  | case1 s =>
    obtain rfl := List.length_eq_zero_iff.1 hlen
    exact ht
  | case2 => exact hs.elim
  | case3 ranges more c s ih => exact ⟨hs.1, ih hs.2 (Nat.succ.inj hlen)⟩

theorem Fits.followed (ha : a.Fits s) (hb : b.Fits t) : (a.followed b).Fits (s ++ t) := by
  unfold Edge.followed
  split
  · rename_i hw
    have hlen := ha.ends hw
    refine ⟨begins_append ha.begins hlen hb.begins, fun hwb => ?_⟩
    rw [List.length_append, List.length_append, hlen, hb.ends hwb]
  · rename_i hw
    exact ⟨begins_append_right ha.begins t, fun h => absurd h hw⟩

/-- Ranges that are joined with others, in any way that keeps their characters. -/
theorem begins_zipWith {f : List (Nat × Nat) → List (Nat × Nat) → List (Nat × Nat)}
    (hf : ∀ rs ss c, Within rs c → Within (f rs ss) c) (h : Begins A s) (B : List (List (Nat × Nat))) :
    Begins (List.zipWith f A B) s := by
  fun_induction Begins A s generalizing B with
  | case1 => trivial
  | case2 => exact h.elim
  | case3 ranges more c s ih =>
    cases B with
    | nil => trivial
    | cons others B => exact ⟨hf ranges others c h.1, ih h.2 B⟩

theorem within_append {rs ss : List (Nat × Nat)} {c : Char} :
    Within (rs ++ ss) c ↔ Within rs c ∨ Within ss c := by
  simp only [Within, List.mem_append, or_and_right, exists_or]

theorem Fits.either (h : a.Fits s ∨ b.Fits s) : (a.either b).Fits s := by
  refine ⟨?_, fun hw => ?_⟩
  · rcases h with ha | hb
    · exact begins_zipWith (fun _ _ _ hc => within_append.2 (.inl hc)) ha.begins b.places
    · unfold Edge.either
      rw [List.zipWith_comm]
      exact begins_zipWith (fun _ _ _ hc => within_append.2 (.inr hc)) hb.begins a.places
  · simp only [Edge.either, Bool.and_eq_true, beq_iff_eq] at hw
    obtain ⟨⟨hwa, hwb⟩, hlen⟩ := hw
    have hends : s.length = a.places.length := h.elim (·.ends hwa) fun hb => (hb.ends hwb).trans hlen.symm
    rw [hends, Edge.either, List.length_zipWith, ← hlen, Nat.min_self]

theorem not_within_both {rs ss : List (Nat × Nat)} {c : Char} (h : apartRanges rs ss = true) (hr : Within rs c)
    (hs : Within ss c) : False := by
  obtain ⟨r, hr, hlo, hhi⟩ := hr
  obtain ⟨s, hs, hlo', hhi'⟩ := hs
  have := List.all_eq_true.1 (List.all_eq_true.1 h r hr) s hs
  simp only [Bool.or_eq_true, decide_eq_true_eq] at this
  omega

/-- **No text has two edges that are apart.** -/
theorem not_fits_both (h : a.apart b = true) (ha : a.Fits s) (hb : b.Fits s) : False := by
  obtain ⟨A, _⟩ := a
  obtain ⟨B, _⟩ := b
  have hA := ha.begins
  have hB := hb.begins
  simp only [apart] at h hA hB
  clear ha hb
  induction A generalizing B s with
  | nil => simp at h
  | cons rs A ih =>
    cases B with
    | nil => simp at h
    | cons ss B =>
      cases s with
      | nil => exact hA
      | cons c s =>
        simp only [List.zipWith_cons_cons, List.any_cons, id, Bool.or_eq_true] at h
        rcases h with h | h
        · exact not_within_both h hA.1 hB.1
        · exact ih B h hA.2 hB.2

end Edge

/-! ## Edges of expressions -/

/-- The text, or the text read backward. -/
def turned (back : Bool) (s : Text) : Text := if back then s.reverse else s

theorem turned_append (back : Bool) (s t : Text) :
    turned back (s ++ t) = if back then turned back t ++ turned back s else turned back s ++ turned back t := by
  cases back
  · rfl
  · exact List.reverse_append

/-- What lies between two positions. -/
def slice (input : Text) (i j : Nat) : Text := (input.take j).drop i

namespace Expr

/-- The ranges of the first characters of what the expression matches, or of the last ones. -/
def edge (back : Bool) : Expr → Edge
  | empty | look _ => ⟨[], true⟩
  | literal s => ⟨(turned back s).map fun c => [(c.toNat, c.toNat)], true⟩
  | chars set => ⟨[set.ranges], true⟩
  | group p => p.edge back
  | seq p q => if back then (q.edge back).followed (p.edge back) else (p.edge back).followed (q.edge back)
  | alt p q => (p.edge back).either (q.edge back)
  | times _ _ _ _ => ⟨[], false⟩

/-- The expression matches from the beginning of the text only. -/
def opens : Expr → Bool
  | look .textStart => true
  | group p => p.opens
  | seq p _ => p.opens
  | alt p q => p.opens && q.opens
  | _ => false

/-- The expression matches up to the end of the text only. -/
def closes : Expr → Bool
  | look .textEnd => true
  | group p => p.closes
  | seq _ q => q.closes
  | alt p q => p.closes && q.closes
  | _ => false

/-- Both expressions match whole texts only, and at some place from the front or from the back
they ask for different characters. -/
def apart (p q : Expr) : Bool :=
  p.opens && p.closes && q.opens && q.closes &&
    ((p.edge false).apart (q.edge false) || (p.edge true).apart (q.edge true))

variable {input : Text} {p q : Expr} {i j k : Nat}

/-! ## What lies between two positions -/

theorem Spans.le_length (hi : i ≤ input.length) (h : p.Spans input i j) : j ≤ input.length := by
  have hhas : Positions.Has (List.replicate (input.length + 1) true) i := by
    rw [Positions.Has, List.getElem?_replicate, if_pos (Nat.lt_succ_of_le hi)]
  exact Nat.le_of_lt_succ ((follows_advance input p).lt List.length_replicate hhas h)

theorem slice_self (input : Text) (i : Nat) : slice input i i = [] := by
  rw [slice, List.drop_eq_nil_iff, List.length_take]
  omega

theorem slice_append (hi : i ≤ input.length) (hik : i ≤ k) (hkj : k ≤ j) :
    slice input i k ++ slice input k j = slice input i j := by
  have hcut := List.take_append_drop k (input.take j)
  rw [List.take_take, Nat.min_eq_left hkj] at hcut
  simp only [slice]
  conv => rhs; rw [← hcut]
  rw [List.drop_append_of_le_length]
  rw [List.length_take]
  omega

theorem begins_singles (s : Text) : Begins (s.map fun c => [(c.toNat, c.toNat)]) s := by
  induction s with
  | nil => trivial
  | cons c s ih => exact ⟨⟨_, List.mem_singleton_self _, Nat.le_refl _, Nat.le_refl _⟩, ih⟩

theorem within_of_covers {n : Nat} {rs : List (Nat × Nat)} (h : RangeSet.covers n rs = true) :
    ∃ r ∈ rs, r.1 ≤ n ∧ n ≤ r.2 := by
  induction rs with
  | nil => simp [RangeSet.covers] at h
  | cons r rs ih =>
    rw [RangeSet.covers] at h
    split at h
    · simp at h
    · rename_i hlo
      rcases Bool.or_eq_true_iff.1 h with hhi | h
      · exact ⟨r, List.mem_cons_self, Nat.le_of_not_lt hlo, of_decide_eq_true hhi⟩
      · obtain ⟨s, hs, hn⟩ := ih h
        exact ⟨s, List.mem_cons_of_mem _ hs, hn⟩

theorem fits_nothing (back : Bool) : Edge.Fits ⟨[], true⟩ (turned back (slice input i i)) := by
  rw [slice_self]
  cases back <;> exact ⟨trivial, fun _ => rfl⟩

/-- **The edges of an expression are those of what it matches.** -/
theorem fits_edge (back : Bool) (hi : i ≤ input.length) (h : p.Spans input i j) :
    (p.edge back).Fits (turned back (slice input i j)) := by
  induction p generalizing i j with
  | empty =>
    obtain rfl : i = j := h
    exact fits_nothing back
  | literal s =>
    obtain ⟨hs, rfl⟩ := h
    have hslice : slice input i (i + s.length) = s := by
      rw [slice, List.drop_take, Nat.add_sub_cancel_left]
      exact (List.prefix_iff_eq_take.1 hs).symm
    rw [hslice]
    exact ⟨begins_singles _, fun _ => by simp [edge]⟩
  | chars set =>
    obtain ⟨⟨c, hc, hset⟩, rfl⟩ := h
    obtain ⟨hlt, rfl⟩ := List.getElem?_eq_some_iff.1 hc
    have hslice : slice input i (i + 1) = [input[i]] := by
      rw [slice, List.drop_take, Nat.add_sub_cancel_left, List.drop_eq_getElem_cons hlt]
      rfl
    have hone : turned back [input[i]] = [input[i]] := by cases back <;> rfl
    rw [hslice, hone]
    exact ⟨⟨within_of_covers hset, trivial⟩, fun _ => rfl⟩
  | look a =>
    obtain ⟨-, rfl⟩ := h
    exact fits_nothing back
  | group p ih => exact ih hi h
  | seq p q ihp ihq =>
    obtain ⟨k, hp, hq⟩ := h
    have hfirst := ihp hi hp
    have hsecond := ihq (hp.le_length hi) hq
    rw [← slice_append hi hp.le hq.le, turned_append, edge]
    cases back
    · exact hfirst.followed hsecond
    · exact hsecond.followed hfirst
  | alt p q ihp ihq => exact .either (h.imp (ihp hi) (ihq hi))
  | times p least most lazy ih => exact ⟨trivial, fun hw => absurd hw Bool.false_ne_true⟩

/-! ## Anchored expressions -/

theorem eq_zero_of_opens (hi : i ≤ input.length) (ho : p.opens = true) (h : p.Spans input i j) : i = 0 := by
  induction p generalizing i j with
  | empty | literal | chars | times => simp [opens] at ho
  | look a =>
    cases a with
    | textStart =>
      have hnone : (input.take i).getLast? = none := Option.isNone_iff_eq_none.1 h.1
      rw [List.getLast?_eq_none_iff, List.take_eq_nil_iff] at hnone
      rcases hnone with hzero | hnil
      · exact hzero
      · rw [hnil] at hi
        exact Nat.le_zero.1 hi
    | _ => simp [opens] at ho
  | group p ih => exact ih hi ho h
  | seq p q ihp _ =>
    obtain ⟨k, hp, -⟩ := h
    exact ihp hi ho hp
  | alt p q ihp ihq =>
    obtain ⟨hop, hoq⟩ := Bool.and_eq_true_iff.1 ho
    exact h.elim (ihp hi hop) (ihq hi hoq)

theorem length_le_of_closes (hc : p.closes = true) (h : p.Spans input i j) : input.length ≤ j := by
  induction p generalizing i j with
  | empty | literal | chars | times => simp [closes] at hc
  | look a =>
    cases a with
    | textEnd =>
      obtain ⟨hnone, rfl⟩ := h
      exact List.getElem?_eq_none_iff.1 (Option.isNone_iff_eq_none.1 hnone)
    | _ => simp [closes] at hc
  | group p ih => exact ih hc h
  | seq p q _ ihq =>
    obtain ⟨k, -, hq⟩ := h
    exact ihq hc hq
  | alt p q ihp ihq =>
    obtain ⟨hcp, hcq⟩ := Bool.and_eq_true_iff.1 hc
    exact h.elim (ihp hcp) (ihq hcq)

/-- A text that an anchored expression matches has the edges of the expression. -/
theorem fits_of_matchesIn (ho : p.opens = true) (hc : p.closes = true) (h : p.matchesIn input = true) (back : Bool) :
    (p.edge back).Fits (turned back input) := by
  obtain ⟨i, j, hi, hspan⟩ := matchesIn_iff.1 h
  have hfits := fits_edge back hi hspan
  rw [eq_zero_of_opens hi ho hspan, slice, List.drop_zero,
    List.take_of_length_le (length_le_of_closes hc hspan)] at hfits
  exact hfits

/-- **Expressions that are apart match no common text.** -/
theorem not_both_of_apart (h : p.apart q = true) (hp : p.matchesIn input = true) (hq : q.matchesIn input = true) :
    False := by
  simp only [apart, Bool.and_eq_true, Bool.or_eq_true] at h
  obtain ⟨⟨⟨⟨hpo, hpc⟩, hqo⟩, hqc⟩, hedge⟩ := h
  rcases hedge with hedge | hedge
  · exact Edge.not_fits_both hedge (fits_of_matchesIn hpo hpc hp false) (fits_of_matchesIn hqo hqc hq false)
  · exact Edge.not_fits_both hedge (fits_of_matchesIn hpo hpc hp true) (fits_of_matchesIn hqo hqc hq true)

end Expr

end MessageHead.Pattern

namespace MessageHead.NamePatterns

/-- Each of the patterns is apart from each of the others. -/
def apart (ps qs : NamePatterns) : Bool := ps.exprs.all fun p => qs.exprs.all fun q => p.apart q

theorem not_both_of_apart {ps qs : NamePatterns} (h : ps.apart qs = true) (name : Text) :
    ¬(ps.matchesName name = true ∧ qs.matchesName name = true) := by
  rintro ⟨hp, hq⟩
  obtain ⟨p, hmem, hp⟩ := List.any_eq_true.1 hp
  obtain ⟨q, hmem', hq⟩ := List.any_eq_true.1 hq
  exact Pattern.Expr.not_both_of_apart (List.all_eq_true.1 (List.all_eq_true.1 h p hmem) q hmem') hp hq

/-- The patterns of texts begin or end with another letter than those of other bytes. -/
theorem textual_apart_binary : textual.apart binary = true := by decide +kernel

end MessageHead.NamePatterns
