/-
What it is to read a set in brackets and a whole group, as relations with one rule for each kind of
round (`ReadsBracket`, `ReadsScope`). The loops that read them count their rounds and give up when
the count runs out. A count greater than the length of the text never does, since each round takes
a character, so the loops read what the relations say (`readBracket_eq_ok`, `readScope_eq_ok`).
-/
import MessageHead.Proofs.PatternReaders

namespace MessageHead.Pattern

variable {f : Flags} {s r w : Text} {b : Bracket} {part : SetPart} {sc sc' : Scope} {c : Char} {n : Nat}

theorem Flags.length_lt_of_skip (h : f.skip s = c :: w) : w.length < s.length :=
  Nat.lt_of_succ_le (h ▸ f.skip_suffix s).length_le

/-! ## Brackets -/

/-- The operator between sets that a character stands for when it is doubled. -/
def setOperator? : Char → Option SetOperator
  | '&' => some .inter
  | '-' => some .diff
  | '~' => some .symmDiff
  | _ => none

/-- What stands in brackets goes on with an item, if it goes on. -/
def beginsItem : Text → Bool
  | [] | ']' :: _ | '[' :: _ | '&' :: '&' :: _ | '-' :: '-' :: _ | '~' :: '~' :: _ => false
  | _ => true

/-- A bracket of which `b` has been read makes a set of the text and leaves the rest. -/
inductive ReadsBracket (f : Flags) : Bracket → Text → SetPart → Text → Prop where
  /-- The bracket closes. -/
  | close {b : Bracket} {s r : Text} {part : SetPart} (hs : f.skip s = ']' :: r)
      (hclose : b.close f = .ok part) : ReadsBracket f b s part r
  /-- An operator. -/
  | operator {b : Bracket} {s r w : Text} {part : SetPart} {c : Char} {op : SetOperator}
      (hs : f.skip s = c :: c :: w) (hop : setOperator? c = some op)
      (h : ReadsBracket f (b.operate f op) w part r) : ReadsBracket f b s part r
  /-- A class between colons. -/
  | named {b : Bracket} {s r w v : Text} {part : SetPart} {negated : Bool} {cs set : RangeSet}
      (hs : f.skip s = '[' :: w) (hnamed : readNamedClass? w = some (negated, cs, v))
      (hset : f.negate negated (f.fold cs) = .ok set)
      (h : ReadsBracket f (b.add ⟨set, 0⟩) v part r) : ReadsBracket f b s part r
  /-- A bracket inside. -/
  | nested {b inner : Bracket} {s r w v u : Text} {part item : SetPart} (hs : f.skip s = '[' :: w)
      (hnamed : readNamedClass? w = none) (hopen : openBracket f w = (inner, v))
      (hinner : ReadsBracket f inner v item u)
      (h : ReadsBracket f (b.add item) u part r) : ReadsBracket f b s part r
  /-- An item or a range. -/
  | item {b : Bracket} {s r v : Text} {part item : SetPart} (hs : beginsItem (f.skip s) = true)
      (hitem : readSetItem f (f.skip s) = .ok (item, v))
      (h : ReadsBracket f (b.add item) v part r) : ReadsBracket f b s part r

theorem readNamedClass?_suffix {negated : Bool} {set : RangeSet} (h : readNamedClass? s = some (negated, set, r)) :
    r <:+ s := by
  obtain ⟨front, rfl, -⟩ := readNamedClass?_eq_some h
  exact List.suffix_append front r

theorem ReadsBracket.behind (h : ReadsBracket f b s part r) : Behind r s := by
  induction h with
  | close hs _ => exact ⟨_, _, hs ▸ f.skip_suffix _, List.suffix_rfl⟩
  | operator hs _ _ ih => exact ⟨_, _, hs ▸ f.skip_suffix _, ih.suffix.trans (List.suffix_cons _ _)⟩
  | named hs hnamed _ _ ih => exact ⟨_, _, hs ▸ f.skip_suffix _, ih.suffix.trans (readNamedClass?_suffix hnamed)⟩
  | nested hs _ hopen _ _ ihinner ih =>
    exact ⟨_, _, hs ▸ f.skip_suffix _, (ih.suffix.trans ihinner.suffix).trans (openBracket_suffix hopen)⟩
  | item _ hitem _ ih => exact (readSetItem_behind hitem).of_suffix ih.suffix (f.skip_suffix _)

theorem readsBracket_of_eq_ok (h : readBracketFrom n f b s = .ok (part, r)) : ReadsBracket f b s part r := by
  induction n generalizing b s part r with
  | zero => cases h
  | succ n ih =>
    rw [readBracketFrom] at h
    split at h
    · cases h
    · rename_i hs
      obtain ⟨closed, hclose, he⟩ := bind_eq_ok.1 h
      cases he
      exact .close hs hclose
    · exact .operator ‹_› rfl (ih h)
    · exact .operator ‹_› rfl (ih h)
    · exact .operator ‹_› rfl (ih h)
    · split at h
      · rename_i hnamed
        obtain ⟨set, hset, h⟩ := bind_eq_ok.1 h
        exact .named ‹_› hnamed hset (ih h)
      · rename_i hnamed
        obtain ⟨⟨item, v⟩, hitem, h⟩ := bind_eq_ok.1 h
        exact .nested ‹_› hnamed rfl (ih hitem) (ih h)
    · obtain ⟨⟨item, v⟩, hitem, h⟩ := bind_eq_ok.1 h
      refine .item ?_ hitem (ih h)
      unfold beginsItem
      split <;> simp_all

theorem ReadsBracket.eq_ok (h : ReadsBracket f b s part r) (hn : s.length < n) :
    readBracketFrom n f b s = .ok (part, r) := by
  -- Each round takes a character at least, so what it leaves is shorter than the rounds that are left.
  induction h generalizing n with obtain ⟨n, rfl⟩ := Nat.exists_eq_add_one_of_ne_zero (Nat.ne_zero_of_lt hn)
  | close hs hclose =>
    simp only [readBracketFrom, hs, hclose]
    rfl
  | @operator b s r w part c op hs hop _ ih =>
    have hlen := f.length_lt_of_skip hs
    have h := ih (n := n) (by rw [List.length_cons] at hlen; omega)
    unfold setOperator? at hop
    split at hop <;> cases hop <;> simp only [readBracketFrom, hs] <;> exact h
  | @named b s r w v part negated cs set hs hnamed hset _ ih =>
    have hlen := f.length_lt_of_skip hs
    have hv := (readNamedClass?_suffix hnamed).length_le
    simp only [readBracketFrom, hs, hnamed, hset, ok_bind]
    exact ih (by omega)
  | @nested b inner s r w v u part item hs hnamed hopen hinner _ ihinner ih =>
    have hlen := f.length_lt_of_skip hs
    have hv := (openBracket_suffix hopen).length_le
    have hu := hinner.behind.suffix.length_le
    simp only [readBracketFrom, hs, hnamed, hopen, ihinner (n := n) (by omega), ok_bind]
    exact ih (by omega)
  | @item b s r v part item hs hitem _ ih =>
    have hlen := (readSetItem_behind hitem).length_lt
    have hskip := (f.skip_suffix s).length_le
    have h := ih (n := n) (by omega)
    rw [readBracketFrom]
    split
    all_goals first
      | rw [‹f.skip s = _›] at hs
        exact absurd hs Bool.false_ne_true
      | rw [hitem]
        exact h

theorem readBracket_eq_ok : readBracket f s = .ok (part, r) ↔
    ∃ b w, openBracket f s = (b, w) ∧ ReadsBracket f b w part r := by
  constructor
  · exact fun h => ⟨_, _, rfl, readsBracket_of_eq_ok h⟩
  · rintro ⟨b, w, hopen, h⟩
    have hw := (openBracket_suffix hopen).length_le
    rw [readBracket, hopen]
    exact h.eq_ok (Nat.lt_succ_of_le hw)

theorem readBracket_suffix (h : readBracket f s = .ok (part, r)) : r <:+ s := by
  obtain ⟨b, w, hopen, h⟩ := readBracket_eq_ok.1 h
  exact h.behind.suffix.trans (openBracket_suffix hopen)

/-! ## Groups -/

/-- The bounds of a repetition that is written with one character. -/
def repetition? : Char → Option (Nat × Option Nat)
  | '?' => some (0, some 1)
  | '*' => some (0, none)
  | '+' => some (1, none)
  | _ => none

/-- A group goes on with an atom, if it goes on. -/
def beginsAtom : Text → Bool
  | [] | ')' :: _ | '|' :: _ | '(' :: _ | '[' :: _ | '?' :: _ | '*' :: _ | '+' :: _ | '\x7b' :: _ => false
  | _ => true

/-- A group of which `sc` has been read becomes another scope at its end, with the rest of the text left. -/
inductive ReadsScope : Scope → Text → Scope → Text → Prop where
  /-- The group or the pattern ends. -/
  | ends {sc : Scope} {s r : Text} (hs : sc.flags.skip s = r) (hr : r = [] ∨ ∃ v, r = ')' :: v) :
      ReadsScope sc s sc r
  /-- The next branch begins. -/
  | branch {sc sc' : Scope} {s r w : Text} (hs : sc.flags.skip s = '|' :: w)
      (h : ReadsScope sc.nextBranch w sc' r) : ReadsScope sc s sc' r
  /-- Switches change. -/
  | settings {sc sc' : Scope} {s r w v : Text} {g : Flags} (hs : sc.flags.skip s = '(' :: w)
      (hopen : readOpening sc.flags w = .ok (.settings g, v))
      (h : ReadsScope { sc.add .settings with flags := g } v sc' r) : ReadsScope sc s sc' r
  /-- A group inside. -/
  | group {sc sc' inner : Scope} {s r w v u : Text} {g : Flags} {captures : Bool} {name : Option Text}
      (hs : sc.flags.skip s = '(' :: w) (hopen : readOpening sc.flags w = .ok (.group g captures name, v))
      (hname : name.any sc.names.contains = false)
      (hinner : ReadsScope { flags := g, names := name.toList ++ sc.names } v inner (')' :: u))
      (h : ReadsScope { sc.add (inner.whole.group captures) with names := inner.names } u sc' r) :
      ReadsScope sc s sc' r
  /-- A set in brackets. -/
  | set {sc sc' : Scope} {s r w v : Text} {part : SetPart} (hs : sc.flags.skip s = '[' :: w)
      (hset : readBracket sc.flags w = .ok (part, v))
      (h : ReadsScope (sc.add { expr := .ofSet part.set, depth := part.depth }) v sc' r) : ReadsScope sc s sc' r
  /-- A repetition written with one character. -/
  | sign {sc sc₁ sc' : Scope} {s r w v : Text} {c : Char} {lo : Nat} {hi : Option Nat}
      (hs : sc.flags.skip s = c :: w) (hc : repetition? c = some (lo, hi))
      (hrep : sc.repeatLast lo hi w = .ok (sc₁, v)) (h : ReadsScope sc₁ v sc' r) : ReadsScope sc s sc' r
  /-- A repetition with bounds in braces. -/
  | bounds {sc sc₁ sc' : Scope} {s r w v u : Text} {lo : Nat} {hi : Option Nat}
      (hs : sc.flags.skip s = '\x7b' :: w) (hbounds : readBounds sc.flags w = .ok ((lo, hi), v))
      (hrep : sc.repeatLast lo hi (sc.flags.skip v) = .ok (sc₁, u)) (h : ReadsScope sc₁ u sc' r) :
      ReadsScope sc s sc' r
  /-- An atom. -/
  | atom {sc sc' : Scope} {s r v : Text} {e : Expr} (hs : beginsAtom (sc.flags.skip s) = true)
      (hatom : readAtom sc.flags (sc.flags.skip s) = .ok (e, v)) (h : ReadsScope (sc.add { expr := e }) v sc' r) :
      ReadsScope sc s sc' r

theorem ReadsScope.suffix (h : ReadsScope sc s sc' r) : r <:+ s := by
  induction h with
  | @ends sc s r hs _ => exact hs ▸ sc.flags.skip_suffix s
  | branch hs _ ih => exact ih.trans (Flags.suffix_of_skip hs)
  | settings hs hopen _ ih => exact (ih.trans (readOpening_suffix hopen)).trans (Flags.suffix_of_skip hs)
  | group hs hopen _ _ _ ihinner ih =>
    have hu := (ih.trans (List.suffix_cons _ _)).trans ihinner
    exact (hu.trans (readOpening_suffix hopen)).trans (Flags.suffix_of_skip hs)
  | set hs hset _ ih => exact (ih.trans (readBracket_suffix hset)).trans (Flags.suffix_of_skip hs)
  | sign hs _ hrep _ ih => exact (ih.trans (repeatLast_suffix hrep)).trans (Flags.suffix_of_skip hs)
  | @bounds sc sc₁ sc' s r w v u lo hi hs hbounds hrep _ ih =>
    have hv := (ih.trans (repeatLast_suffix hrep)).trans (sc.flags.skip_suffix v)
    exact (hv.trans (readBounds_suffix hbounds)).trans (Flags.suffix_of_skip hs)
  | @atom sc sc' s r v e _ hatom _ ih =>
    exact (ih.trans (readAtom_behind hatom).suffix).trans (sc.flags.skip_suffix s)

theorem readsScope_of_eq_ok (h : readScope n sc s = .ok (sc', r)) : ReadsScope sc s sc' r := by
  induction n generalizing sc s sc' r with
  | zero => cases h
  | succ n ih =>
    rw [readScope] at h
    split at h
    · cases h
      exact .ends ‹_› (.inl rfl)
    · cases h
      exact .ends ‹_› (.inr ⟨_, rfl⟩)
    · exact .branch ‹_› (ih h)
    · obtain ⟨⟨o, v⟩, ho, h⟩ := bind_eq_ok.1 h
      simp only at h
      split at h
      · rename_i he
        cases he
        exact .settings ‹_› ho (ih h)
      · rename_i he
        cases he
        split at h
        · cases h
        · rename_i hname
          obtain ⟨⟨inner, u⟩, hinner, h⟩ := bind_eq_ok.1 h
          simp only at h
          split at h
          · exact .group ‹_› ho (Bool.eq_false_iff.2 hname) (ih hinner) (ih h)
          · cases h
    · obtain ⟨⟨part, v⟩, hpart, h⟩ := bind_eq_ok.1 h
      exact .set ‹_› hpart (ih h)
    · obtain ⟨⟨sc₁, v⟩, hrep, h⟩ := bind_eq_ok.1 h
      exact .sign ‹_› rfl hrep (ih h)
    · obtain ⟨⟨sc₁, v⟩, hrep, h⟩ := bind_eq_ok.1 h
      exact .sign ‹_› rfl hrep (ih h)
    · obtain ⟨⟨sc₁, v⟩, hrep, h⟩ := bind_eq_ok.1 h
      exact .sign ‹_› rfl hrep (ih h)
    · obtain ⟨⟨⟨lo, hi⟩, v⟩, hbounds, h⟩ := bind_eq_ok.1 h
      obtain ⟨⟨sc₁, u⟩, hrep, h⟩ := bind_eq_ok.1 h
      exact .bounds ‹_› hbounds hrep (ih h)
    · obtain ⟨⟨e, v⟩, he, h⟩ := bind_eq_ok.1 h
      refine .atom ?_ he (ih h)
      unfold beginsAtom
      split <;> simp_all

theorem ReadsScope.eq_ok (h : ReadsScope sc s sc' r) (hn : s.length < n) : readScope n sc s = .ok (sc', r) := by
  induction h generalizing n with obtain ⟨n, rfl⟩ := Nat.exists_eq_add_one_of_ne_zero (Nat.ne_zero_of_lt hn)
  | ends hs hr =>
    rcases hr with rfl | ⟨v, rfl⟩ <;> simp only [readScope, hs] <;> rfl
  | branch hs _ ih =>
    have hlen := Flags.length_lt_of_skip hs
    simp only [readScope, hs]
    exact ih (by omega)
  | settings hs hopen _ ih =>
    have hlen := Flags.length_lt_of_skip hs
    have hv := (readOpening_suffix hopen).length_le
    simp only [readScope, hs, hopen, ok_bind]
    exact ih (by omega)
  | group hs hopen hname hinner _ ihinner ih =>
    have hlen := Flags.length_lt_of_skip hs
    have hv := (readOpening_suffix hopen).length_le
    have hu := hinner.suffix.length_le
    rw [List.length_cons] at hu
    simp only [readScope, hs, hopen, ok_bind, hname, ihinner (n := n) (by omega), Bool.false_eq_true, if_false]
    exact ih (by omega)
  | set hs hset _ ih =>
    have hlen := Flags.length_lt_of_skip hs
    have hv := (readBracket_suffix hset).length_le
    simp only [readScope, hs, hset, ok_bind]
    exact ih (by omega)
  | sign hs hc hrep _ ih =>
    have hlen := Flags.length_lt_of_skip hs
    have hv := (repeatLast_suffix hrep).length_le
    have h := ih (n := n) (by omega)
    unfold repetition? at hc
    split at hc <;> cases hc <;> simp only [readScope, hs, hrep, ok_bind] <;> exact h
  | @bounds sc sc₁ sc' s r w v u lo hi hs hbounds hrep _ ih =>
    have hlen := Flags.length_lt_of_skip hs
    have hv := (readBounds_suffix hbounds).length_le
    have hu := ((repeatLast_suffix hrep).trans (sc.flags.skip_suffix v)).length_le
    simp only [readScope, hs, hbounds, hrep, ok_bind]
    exact ih (by omega)
  | @atom sc sc' s r v e hs hatom _ ih =>
    have hlen := (readAtom_behind hatom).length_lt
    have hskip := (sc.flags.skip_suffix s).length_le
    have h := ih (n := n) (by omega)
    rw [readScope]
    split
    all_goals first
      | rw [‹sc.flags.skip s = _›] at hs
        exact absurd hs Bool.false_ne_true
      | rw [hatom]
        exact h

/-- **The loop reads what the rules say**, if it may take more rounds than the text has characters. -/
theorem readScope_eq_ok (hn : s.length < n) : readScope n sc s = .ok (sc', r) ↔ ReadsScope sc s sc' r :=
  ⟨readsScope_of_eq_ok, fun h => h.eq_ok hn⟩

end MessageHead.Pattern
