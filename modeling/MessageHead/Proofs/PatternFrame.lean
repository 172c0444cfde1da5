/-
What the frame around a pattern does to it.

A pattern is written between `(?i)^(?:` and `)$` and what comes out is read as one pattern. A
pattern that is well formed by itself becomes the group of the frame: it is then matched against
whole names, and case does not count (`NamePatterns.matchesWhole_iff`). A pattern whose own
parenthesis closes that group can be accepted too. It is not well formed by itself, and what stands
behind the parenthesis is no longer anchored at the front, nor what stands before it at the end.
-/
import MessageHead.Proofs.PatternCase
import MessageHead.Proofs.PatternEdges
import MessageHead.Proofs.PatternPrefix

namespace MessageHead.Pattern

variable {input s r u : Text} {p q : Expr} {ps qs : List Expr} {i j k : Nat}

/-! ## Sequences -/

namespace Expr

/-- Expressions match one after the other. -/
def Through (input : Text) : List Expr → Nat → Nat → Prop
  | [], i, j => i = j
  | p :: ps, i, j => ∃ k, p.Spans input i k ∧ Through input ps k j

theorem steps_assoc {R S T : Nat → Nat → Prop} :
    (∃ b, (∃ a, R i a ∧ S a b) ∧ T b j) ↔ ∃ a, R i a ∧ ∃ b, S a b ∧ T b j := by
  constructor
  · rintro ⟨b, ⟨a, ha, hb⟩, hj⟩
    exact ⟨a, ha, b, hb, hj⟩
  · rintro ⟨a, ha, b, hb, hj⟩
    exact ⟨b, ⟨a, ha, hb⟩, hj⟩

theorem through_append : Through input (ps ++ qs) i j ↔ ∃ k, Through input ps i k ∧ Through input qs k j := by
  induction ps generalizing i with
  | nil => simp [Through]
  | cons p ps ih =>
    simp only [List.cons_append, Through, ih]
    exact steps_assoc.symm

theorem through_singleton : Through input [p] i j ↔ p.Spans input i j := by
  simp [Through]

theorem through_parts (p : Expr) : Through input p.parts i j ↔ p.Spans input i j := by
  fun_induction parts p generalizing i with
  | case1 => rfl
  | case2 p q ih => simp only [Through, Spans, ih]
  | case3 p => exact through_singleton

theorem through_flatMap_parts (ps : List Expr) : Through input (ps.flatMap parts) i j ↔ Through input ps i j := by
  induction ps generalizing i with
  | nil => rfl
  | cons p ps ih => simp only [List.flatMap_cons, through_append, through_parts, Through, ih]

theorem spans_literal_append (s t : Text) :
    (literal (s ++ t)).Spans input i j ↔ ∃ k, (literal s).Spans input i k ∧ (literal t).Spans input k j := by
  have cut : s <+: input.drop i → (s ++ t <+: input.drop i ↔ t <+: input.drop (i + s.length)) := by
    intro hs
    conv => lhs; rw [← List.prefix_iff_eq_append.1 hs]
    rw [List.prefix_append_right_inj, List.drop_drop]
  simp only [Spans, List.length_append, ← Nat.add_assoc]
  constructor
  · rintro ⟨hst, hj⟩
    have hs := (List.prefix_append s t).trans hst
    exact ⟨_, ⟨hs, rfl⟩, (cut hs).1 hst, hj⟩
  · rintro ⟨k, ⟨hs, rfl⟩, ht, hj⟩
    exact ⟨(cut hs).2 ht, hj⟩

theorem through_joinLiterals (ps : List Expr) : Through input (joinLiterals ps) i j ↔ Through input ps i j := by
  fun_induction joinLiterals ps generalizing i with
  | case1 => rfl
  | case2 s ps t rest heq ih =>
    simp only [Through, spans_literal_append, ← ih, heq]
    exact steps_assoc
  | case3 s ps _ ih => simp only [Through, ih]
  | case4 p ps _ ih => simp only [Through, ih]

theorem spans_chain (ps : List Expr) : (chain ps).Spans input i j ↔ Through input ps i j := by
  fun_induction chain ps generalizing i with
  | case1 => rfl
  | case2 p => exact through_singleton.symm
  | case3 p ps _ ih => simp only [Spans, Through, ih]

/-- **A sequence matches what its parts match one after the other.** -/
theorem spans_sequence : (sequence ps).Spans input i j ↔ Through input ps i j := by
  rw [sequence, spans_chain, through_joinLiterals, through_flatMap_parts]

/-! ## Patterns by themselves -/

/-- The expression that a pattern is by itself under these switches, however much room an automaton for it takes. -/
def readAlone (f : Flags) (s : Text) : Except Malformed Expr := do
  let (sc, rest) ← readScope (s.length + 1) { flags := f } s
  if !rest.isEmpty then .error .unopenedGroup
  else if sc.whole.depth > depthLimit then .error .tooDeep
  else return sc.whole.expr

/-- Only the room can keep a pattern that is read from being one. -/
theorem parse_eq (s : Text) :
    Expr.parse s = readAlone {} s >>= fun e => if !e.fits then .error .tooLarge else pure e := by
  unfold Expr.parse readAlone
  cases readScope (s.length + 1) { flags := {} } s with
  | error e => rfl
  | ok x =>
    obtain ⟨sc, rest⟩ := x
    simp only [ok_bind]
    by_cases hrest : (!rest.isEmpty) = true
    · simp only [if_pos hrest]
      rfl
    by_cases hdepth : sc.whole.depth > depthLimit
    · simp only [if_neg hrest, if_pos hdepth]
      rfl
    · simp only [if_neg hrest, if_neg hdepth, pure_bind]

theorem readAlone_of_parse (h : Expr.parse s = .ok p) : readAlone {} s = .ok p := by
  rw [parse_eq] at h
  obtain ⟨e, he, h⟩ := bind_eq_ok.1 h
  split at h
  · cases h
  · rw [he, pure_eq_ok.1 h]

variable {f : Flags} {sc : Scope}

theorem readAlone_eq_ok : readAlone f s = .ok p ↔
    ∃ sc, ReadsScope { flags := f } s sc [] ∧ sc.whole.depth ≤ depthLimit ∧ sc.whole.expr = p := by
  constructor
  · intro h
    obtain ⟨⟨sc, rest⟩, hread, h⟩ := bind_eq_ok.1 h
    simp only at h
    split at h
    · cases h
    · rename_i hrest
      split at h
      · cases h
      · rename_i hdepth
        obtain rfl : rest = [] := by simpa using hrest
        exact ⟨sc, (readScope_eq_ok (Nat.lt_succ_self _)).1 hread, Nat.le_of_not_lt hdepth, pure_eq_ok.1 h⟩
  · rintro ⟨sc, h, hd, rfl⟩
    rw [readAlone, (readScope_eq_ok (Nat.lt_succ_self _)).2 h, ok_bind]
    simp [Nat.not_lt.2 hd, pure, Except.pure]

theorem readAlone_of_rest {c : Char} (h : ReadsScope { flags := f } s sc (c :: r)) :
    readAlone f s = .error .unopenedGroup := by
  rw [readAlone, (readScope_eq_ok (Nat.lt_succ_self _)).2 h, ok_bind]
  rfl

end Expr

/-! ## The frame -/

theorem Expr.matchesIn_anchored (p : Expr) :
    (Expr.sequence [.empty, .look .textStart, p, .look .textEnd]).matchesIn input = true ↔
      p.Spans input 0 input.length := by
  simp only [Expr.matchesIn_iff, Expr.spans_sequence]
  constructor
  · rintro ⟨i, j, hi, i, rfl, a, hstart, b, hp, c, hend, rfl⟩
    obtain rfl : i = 0 := Expr.eq_zero_of_opens hi rfl hstart
    obtain rfl : 0 = a := hstart.2
    obtain rfl : b = input.length :=
      Nat.le_antisymm (hp.le_length (Nat.zero_le _)) (hend.2 ▸ Expr.length_le_of_closes rfl hend)
    exact hp
  · intro hp
    refine ⟨0, input.length, Nat.zero_le _, 0, rfl, 0, ⟨rfl, rfl⟩, input.length, hp, input.length, ⟨?_, rfl⟩, rfl⟩
    simp [Assertion.holds, placeAt]

/-- The switches in the frame. -/
def framing : Flags := { ignoreCase := true }

/-- What the frame puts in front of the end of the name. -/
def Scope.framed (inner : Scope) : Scope :=
  { flags := framing, names := inner.names,
    parts := [inner.whole.group false, { expr := .look .textStart }, .settings] }

theorem Scope.depth_framed (inner : Scope) :
    (inner.framed.add { expr := .look .textEnd }).whole.depth = 2 + inner.whole.depth := by
  have hparts : (inner.framed.add { expr := .look .textEnd }).whole.depth =
      1 + max (max (max (max 0 0) 0) (1 + inner.whole.depth)) 0 := rfl
  omega

theorem readScope_framed (n : Nat) (p : Text) : readScope (n + 3) { flags := {} } (NamePatterns.framed p) = (do
    let (inner, s) ← readScope n { flags := framing } (p ++ [')', '$'])
    match s with
    | ')' :: s => readScope n inner.framed s
    | _ => .error .unclosedGroup) := rfl

theorem length_framed (p : Text) : (NamePatterns.framed p).length = p.length + 10 := by
  have hframed : NamePatterns.framed p = ['(', '?', 'i', ')', '^', '(', '?', ':'] ++ p ++ [')', '$'] := rfl
  rw [hframed, List.length_append, List.length_append, Nat.add_right_comm]
  exact Nat.add_comm 10 p.length

/-- What is left behind a pattern by its frame, from a parenthesis on. -/
theorem exists_rest_of_suffix {p v : Text} (h : ')' :: v <:+ p ++ [')', '$']) : ∃ r, ')' :: v = r ++ [')', '$'] := by
  obtain ⟨a, ha⟩ := h
  rcases List.append_eq_append_iff.1 ha with ⟨b, -, hv⟩ | ⟨b, -, hv⟩
  · exact ⟨b, hv⟩
  · rcases b with _ | ⟨c, _ | ⟨d, b⟩⟩
    · exact ⟨[], hv.symm⟩
    · cases hv
    · simp at hv

/-- **A pattern in its frame** is anchored as a whole, or has a parenthesis that closes no group of its own. -/
theorem framed_cases {p : Text} {e : Expr} (h : Expr.parse (NamePatterns.framed p) = .ok e) :
    Expr.readAlone {} p = .error .unopenedGroup ∨
      ∃ plain alone, Expr.readAlone {} p = .ok plain ∧ Expr.readAlone framing p = .ok alone ∧
        e = .sequence [.empty, .look .textStart, alone, .look .textEnd] := by
  obtain ⟨sc, hsc, hdepth, rfl⟩ := Expr.readAlone_eq_ok.1 (Expr.readAlone_of_parse h)
  have hread := (readScope_eq_ok (n := p.length + 11 + 3) (by simp [length_framed])).2 hsc
  rw [readScope_framed] at hread
  obtain ⟨⟨inner, w⟩, hinner, hread⟩ := bind_eq_ok.1 hread
  simp only at hread
  split at hread
  · rename_i v
    have hinner := readsScope_of_eq_ok hinner
    -- The group ends at a parenthesis that has `r` of the pattern behind it, or is the frame's own.
    obtain ⟨r, hr⟩ := exists_rest_of_suffix hinner.suffix
    rw [hr] at hinner
    have halone := readsScope_of_append hinner
    obtain ⟨inner', hplain, halike⟩ := halone.alike (.opened ⟨false, rfl⟩ [])
    cases r with
    | nil =>
      -- It is the frame's: the pattern has been read to its end.
      obtain rfl : v = ['$'] := (List.cons.inj hr).2
      obtain rfl : inner.framed.add { expr := .look .textEnd } = sc := by
        cases hread
        rfl
      have hinside : inner.whole.depth ≤ depthLimit := by
        rw [Scope.depth_framed] at hdepth
        omega
      have hsame : inner'.whole.depth = inner.whole.depth := congrArg Prod.fst halike.outline_whole
      exact .inr ⟨_, _, Expr.readAlone_eq_ok.2 ⟨inner', hplain, hsame ▸ hinside, rfl⟩,
        Expr.readAlone_eq_ok.2 ⟨inner, halone, hinside, rfl⟩, rfl⟩
    | cons c r =>
      -- It is the pattern's, and the pattern by itself stops there too.
      exact .inl (Expr.readAlone_of_rest hplain)
  · cases hread

end MessageHead.Pattern

/-! ## Names -/

namespace MessageHead.NamePatterns

open Pattern

variable {p name : Text} {ps : NamePatterns}

/-- A pattern is well formed by itself, and the patterns match exactly the names that it spans as a
whole when case does not count. -/
def MatchesWhole (p : Text) (ps : NamePatterns) : Prop :=
  (∃ e, Expr.readAlone {} p = .ok e) ∧
    ∃ e, Expr.readAlone framing p = .ok e ∧ ∀ name, ps.matchesName name = true ↔ e.Spans name 0 name.length

theorem exists_of_parse_singleton (h : parse [p] = .ok ps) : ∃ e, Expr.parse (framed p) = .ok e ∧ ps = ⟨[e]⟩ := by
  obtain ⟨es, hes, rfl⟩ := Element.map_eq_ok.1 h
  simp only [List.mapM_cons, List.mapM_nil] at hes
  obtain ⟨e, he, hes⟩ := bind_eq_ok.1 hes
  exact ⟨e, he, by cases hes; rfl⟩

theorem not_matchesWhole_of_unopened (h : Expr.parse p = .error .unopenedGroup) : ¬MatchesWhole p ps := by
  rintro ⟨⟨e, he⟩, -⟩
  rw [Expr.parse_eq, he, ok_bind] at h
  split at h <;> cases h

/-- **A pattern that is accepted is matched against whole names** exactly when none of its parentheses
closes the group of the frame, that is, when it is not refused for such a parenthesis by itself. -/
theorem matchesWhole_iff (h : parse [p] = .ok ps) : MatchesWhole p ps ↔ Expr.parse p ≠ .error .unopenedGroup := by
  constructor
  · intro hwhole hopen
    exact not_matchesWhole_of_unopened hopen hwhole
  · intro hopen
    obtain ⟨e, he, rfl⟩ := exists_of_parse_singleton h
    rcases framed_cases he with hstray | ⟨plain, alone, hplain, halone, rfl⟩
    · rw [Expr.parse_eq, hstray] at hopen
      exact absurd rfl hopen
    · refine ⟨⟨plain, hplain⟩, alone, halone, fun name => ?_⟩
      rw [matchesName, List.any_cons, List.any_nil, Bool.or_false]
      exact alone.matchesIn_anchored

/-- A pattern with branches, a group and switches of its own. -/
theorem matchesWhole_branches : ∃ ps, parse ["image/(.+-)?x|(?-i)Font".toList] = .ok ps ∧
    MatchesWhole "image/(.+-)?x|(?-i)Font".toList ps := by
  have hframed : (parse ["image/(.+-)?x|(?-i)Font".toList]).isOk = true := by decide +kernel
  have halone : (Expr.parse "image/(.+-)?x|(?-i)Font".toList).isOk = true := by decide +kernel
  cases h : parse ["image/(.+-)?x|(?-i)Font".toList] with
  | error e =>
    rw [h] at hframed
    cases hframed
  | ok ps =>
    refine ⟨ps, rfl, (matchesWhole_iff h).2 fun hopen => ?_⟩
    rw [hopen] at halone
    cases halone

/-- The parenthesis behind `a` closes the group of the frame. What is left is an alternative between names that
begin with `a` and names that end with `b`. -/
theorem matchesWhole_unopened : Expr.parse "a)|(?:b".toList = .error .unopenedGroup ∧
    ∃ ps, parse ["a)|(?:b".toList] = .ok ps ∧ ps.matchesName "ax".toList = true ∧ ps.matchesName "xb".toList = true ∧
      ¬MatchesWhole "a)|(?:b".toList ps := by
  have hopen : Expr.parse "a)|(?:b".toList = .error .unopenedGroup := rfl
  have hmatches : (parse ["a)|(?:b".toList]).toOption.any
      (fun ps => ps.matchesName "ax".toList && ps.matchesName "xb".toList) = true := by decide +kernel
  cases h : parse ["a)|(?:b".toList] with
  | error e =>
    rw [h] at hmatches
    cases hmatches
  | ok ps =>
    rw [h] at hmatches
    obtain ⟨hfront, hback⟩ := Bool.and_eq_true_iff.1 hmatches
    exact ⟨hopen, ps, rfl, hfront, hback, not_matchesWhole_of_unopened hopen⟩

end MessageHead.NamePatterns
