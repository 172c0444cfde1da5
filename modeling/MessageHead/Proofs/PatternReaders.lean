/-
What the readers of the parts of a pattern read, when they succeed: escapes, items of sets, bounds,
groups and atoms.

For each reader one equivalence says where in the text its answer comes from and what it leaves,
and a lemma beside it that what it leaves is a suffix of the text. What is proved of patterns later
goes through these and not through the readers.
-/
import MessageHead.Element.Parser
import MessageHead.Pattern.Parser
import MessageHead.Proofs.TextFacts

namespace MessageHead.Pattern

variable {f g : Flags} {s r w digits name : Text}

theorem bind_eq_ok {ε α β : Type} {x : Except ε α} {k : α → Except ε β} {b : β} :
    (x >>= k) = .ok b ↔ ∃ a, x = .ok a ∧ k a = .ok b := by
  cases x with
  | error e => exact ⟨nofun, nofun⟩
  | ok a => exact ⟨fun h => ⟨a, rfl, h⟩, fun ⟨_, h, h'⟩ => Except.ok.inj h ▸ h'⟩

theorem pure_eq_ok {ε α : Type} {a b : α} : (pure a : Except ε α) = .ok b ↔ a = b :=
  ⟨Except.ok.inj, fun h => h ▸ rfl⟩

theorem ok_bind {ε α β : Type} (a : α) (k : α → Except ε β) : (Except.ok a >>= k) = k a := rfl

/-- A text stands behind some character of another one, to its end. -/
def Behind (r s : Text) : Prop := ∃ c w, c :: w <:+ s ∧ r <:+ w

namespace Behind

theorem suffix (h : Behind r s) : r <:+ s := by
  obtain ⟨c, w, hs, hr⟩ := h
  exact (hr.trans (List.suffix_cons c w)).trans hs

theorem length_lt (h : Behind r s) : r.length < s.length := by
  obtain ⟨c, w, hs, hr⟩ := h
  exact Nat.lt_of_le_of_lt hr.length_le (Nat.lt_of_succ_le hs.length_le)

theorem of_suffix {r' s' : Text} (h : Behind r s) (hr : r' <:+ r) (hs : s <:+ s') : Behind r' s' := by
  obtain ⟨c, w, hw, hrw⟩ := h
  exact ⟨c, w, hw.trans hs, hr.trans hrw⟩

end Behind

/-! ## What does not count -/

namespace Flags

theorem spread_outside (f : Flags) (p : Char → Bool) (limit : Nat) (c : Char) (s : Text) :
    f.spread p limit false (c :: s) =
      if f.extended && isBlank c then f.spread p limit false s
      else if f.extended && c == '#' then f.spread p limit true s
      else match limit with
        | 0 => ([], c :: s)
        | limit + 1 =>
          if p c then (c :: (f.spread p limit false s).1, (f.spread p limit false s).2) else ([], c :: s) := by
  cases limit <;> rfl

theorem spread_suffix (f : Flags) (p : Char → Bool) (limit : Nat) (inside : Bool) (s : Text) :
    (f.spread p limit inside s).2 <:+ s := by
  fun_induction spread f p limit inside s with
  | case1 => exact List.suffix_rfl
  | case2 limit c s ih => exact ih.trans (List.suffix_cons _ _)
  | case3 limit c s _ ih => exact ih.trans (List.suffix_cons _ _)
  | case4 limit c s _ _ ih => exact ih.trans (List.suffix_cons _ _)
  | case5 => exact List.suffix_rfl
  | case6 c s _ _ limit _ more ih => exact ih.trans (List.suffix_cons _ _)
  | case7 => exact List.suffix_rfl

theorem skip_suffix (f : Flags) (s : Text) : f.skip s <:+ s := f.spread_suffix _ _ _ s

theorem suffix_of_skip {c : Char} (h : f.skip s = c :: w) : w <:+ s :=
  (List.suffix_cons c w).trans (h ▸ f.skip_suffix s)

theorem suffix_of_spread {p : Char → Bool} {limit : Nat} {inside : Bool} {a : Text}
    (h : f.spread p limit inside s = (a, r)) : r <:+ s := by
  have := f.spread_suffix p limit inside s
  rwa [h] at this

theorem suffix_of_take {p : Char → Bool} {a : Text} (h : f.take p s = (a, r)) : r <:+ s :=
  suffix_of_spread h

end Flags

/-! ## Escapes -/

theorem eq_of_checkLiteral {c d : Char} (h : f.checkLiteral c = .ok d) : c = d := by
  unfold Flags.checkLiteral at h
  split at h
  · exact Except.ok.inj h
  · cases h

/-- The character that so many digits make, if it can stand here. -/
theorem readCodePoint_eq_ok {count : Nat} {x : Char} : readCodePoint f count s = .ok (x, r) ↔
    (∃ w digits, f.skip s = '\x7b' :: w ∧ f.take (· != '\x7d') w = (digits, '\x7d' :: r) ∧
      charOfHex digits = .ok x) ∨
    (∃ digits, (∀ w, f.skip s ≠ '\x7b' :: w) ∧
      f.spread (fun c => (hexDigit? c).isSome) count false (f.skip s) = (digits, r) ∧ digits.length = count ∧
      charOfHex digits = .ok x ∧ (count = 2 → f.checkLiteral x = .ok x)) := by
  constructor
  · intro h
    unfold readCodePoint at h
    generalize (fun c : Char => c != '\x7d') = inBraces at h ⊢
    split at h <;> split at h <;> grind [bind_eq_ok, pure_eq_ok, eq_of_checkLiteral]
  · rintro (⟨w, digits, hs, ht, hx⟩ | ⟨digits, hs, ht, rfl, hx, hcheck⟩)
    · simp only [readCodePoint, hs, ht, hx]
      rfl
    · unfold readCodePoint
      split
      · exact absurd ‹_› (hs _)
      · rw [ht]
        by_cases hlen : digits.length = 2
        · simp [-bind_pure_comp, hlen, hx, ok_bind, hcheck hlen, pure_eq_ok]
        · simp [-bind_pure_comp, hlen, hx, ok_bind, pure_eq_ok]

theorem readCodePoint_suffix {count : Nat} {x : Char} (h : readCodePoint f count s = .ok (x, r)) : r <:+ s := by
  rcases readCodePoint_eq_ok.1 h with ⟨w, digits, hs, ht, -⟩ | ⟨digits, -, ht, -⟩
  · exact ((List.suffix_cons _ r).trans (Flags.suffix_of_take ht)).trans (Flags.suffix_of_skip hs)
  · exact (Flags.suffix_of_spread ht).trans (f.skip_suffix s)

theorem readPropertyName_eq_ok : readPropertyName f s = .ok (name, r) ↔
    (∃ w, f.skip s = '\x7b' :: w ∧ f.take (· != '\x7d') w = (name, '\x7d' :: r)) ∨
    (∃ c, f.skip s = c :: r ∧ c ≠ '\\' ∧ c ≠ '\x7b' ∧ name = [c]) := by
  constructor
  · intro h
    unfold readPropertyName at h
    generalize (fun c : Char => c != '\x7d') = inBraces at h ⊢
    split at h
    · cases h
    · cases h
    · split at h <;> grind
    · grind
  · rintro (⟨w, hs, ht⟩ | ⟨c, hs, hb, hc, rfl⟩)
    · simp only [readPropertyName, hs, ht]
    · unfold readPropertyName
      split <;> grind

theorem readPropertyName_suffix (h : readPropertyName f s = .ok (name, r)) : r <:+ s := by
  rcases readPropertyName_eq_ok.1 h with ⟨w, hs, ht⟩ | ⟨c, hs, -⟩
  · exact ((List.suffix_cons _ r).trans (Flags.suffix_of_take ht)).trans (Flags.suffix_of_skip hs)
  · exact Flags.suffix_of_skip hs

theorem readProperty_eq_ok {negated : Bool} {set : RangeSet} : readProperty f negated s = .ok (set, r) ↔
    ∃ name lacking named, readPropertyName f s = .ok (name, r) ∧ f.unicode = true ∧
      propertyNamed? name = some (lacking, named) ∧ f.negate (negated != lacking) (f.fold named) = .ok set := by
  constructor
  · intro h
    obtain ⟨⟨name, w⟩, hn, h⟩ := bind_eq_ok.1 h
    simp only at h
    split at h
    · cases h
    · rename_i hu
      split at h
      · rename_i lacking named hnamed
        obtain ⟨negated, hneg, h⟩ := bind_eq_ok.1 h
        cases h
        exact ⟨name, lacking, named, hn, by simpa using hu, hnamed, hneg⟩
      · cases h
  · rintro ⟨name, lacking, named, hn, hu, hnamed, hneg⟩
    simp [-bind_pure_comp, readProperty, hn, ok_bind, hu, hnamed, hneg, pure_eq_ok]

theorem readProperty_suffix {negated : Bool} {set : RangeSet} (h : readProperty f negated s = .ok (set, r)) :
    r <:+ s := by
  obtain ⟨name, -, -, hname, -⟩ := readProperty_eq_ok.1 h
  exact readPropertyName_suffix hname

theorem readWordEdge_eq_ok {a : Assertion} : readWordEdge f s = .ok (a, r) ↔
    (∃ w c v name, s = '\x7b' :: w ∧ f.skip w = c :: v ∧ isNameChar c = true ∧
      f.take isNameChar (c :: v) = (name, '\x7d' :: r) ∧ wordAssertion? f name = some a) ∨
    (r = s ∧ a = .wordEdge !f.unicode ∧
      ∀ w, s = '\x7b' :: w → ∃ c v, f.skip w = c :: v ∧ isNameChar c = false) := by
  constructor
  · intro h
    unfold readWordEdge at h
    split at h
    · rename_i w
      split at h
      · cases h
      · rename_i c v hs
        split at h
        · rename_i hc
          split at h
          · rename_i name rest ht
            split at h <;> grind
          · cases h
        · grind
    · grind
  · rintro (⟨w, c, v, name, rfl, hs, hc, ht, ha⟩ | ⟨rfl, rfl, hw⟩)
    · simp only [readWordEdge, hs, hc, if_true, ht, ha]
    · unfold readWordEdge
      split
      · rename_i w
        obtain ⟨c, v, hs, hc⟩ := hw w rfl
        simp [hs, hc]
      · rfl

theorem readWordEdge_suffix {a : Assertion} (h : readWordEdge f s = .ok (a, r)) : r <:+ s := by
  rcases readWordEdge_eq_ok.1 h with ⟨w, c, v, name, rfl, hs, -, ht, -⟩ | ⟨rfl, -, -⟩
  · have hr : r <:+ f.skip w := hs ▸ (List.suffix_cons _ r).trans (Flags.suffix_of_take ht)
    exact (hr.trans (f.skip_suffix w)).trans (List.suffix_cons _ w)
  · exact List.suffix_rfl

theorem letterClass?_congr (h : f.unicode = g.unicode) (c : Char) : f.letterClass? c = g.letterClass? c := by
  simp only [Flags.letterClass?, Flags.negate, h]

/-- **What an escape is**: a number, a property, an edge of a word, or what its letter alone says. The
letter says the same whether case counts or not. -/
theorem readEscape_cases (c : Char) :
    (∃ count, ∀ f s, readEscape f (c :: s) = (readCodePoint f count s).map fun (c, s) => (.literal c, s)) ∨
    (∃ negated, ∀ f s, readEscape f (c :: s) = (readProperty f negated s).map fun (cs, s) => (.set cs, s)) ∨
    (∀ f s, readEscape f (c :: s) = (readWordEdge f s).map fun (a, s) => (.look a, s)) ∨
    (∃ plain : Flags → Except Malformed Atom, (∀ f s, readEscape f (c :: s) = (plain f).map fun a => (a, s)) ∧
      ∀ f g : Flags, f.unicode = g.unicode → plain f = plain g) := by
  by_cases hx : c = 'x'
  · exact .inl ⟨2, fun f s => by rw [hx, readEscape]⟩
  by_cases hu : c = 'u'
  · exact .inl ⟨4, fun f s => by rw [hu, readEscape]⟩
  by_cases hU : c = 'U'
  · exact .inl ⟨8, fun f s => by rw [hU, readEscape]⟩
  by_cases hp : c = 'p'
  · exact .inr (.inl ⟨false, fun f s => by rw [hp, readEscape]⟩)
  by_cases hP : c = 'P'
  · exact .inr (.inl ⟨true, fun f s => by rw [hP, readEscape]⟩)
  by_cases hb : c = 'b'
  · exact .inr (.inr (.inl fun f s => by rw [hb, readEscape]))
  refine .inr (.inr (.inr ?_))
  by_cases hB : c = 'B'
  · exact ⟨fun f => .ok (.look (.noWordEdge !f.unicode)), fun f s => by rw [hB]; rfl, fun f g h => by simp only [h]⟩
  by_cases hlt : c = '<'
  · exact ⟨fun f => .ok (.look (.wordStart !f.unicode)), fun f s => by rw [hlt]; rfl, fun f g h => by simp only [h]⟩
  by_cases hgt : c = '>'
  · exact ⟨fun f => .ok (.look (.wordEnd !f.unicode)), fun f s => by rw [hgt]; rfl, fun f g h => by simp only [h]⟩
  by_cases hA : c = 'A'
  · exact ⟨fun _ => .ok (.look .textStart), fun f s => by rw [hA]; rfl, fun f g h => rfl⟩
  by_cases hz : c = 'z'
  · exact ⟨fun _ => .ok (.look .textEnd), fun f s => by rw [hz]; rfl, fun f g h => rfl⟩
  refine ⟨fun f => if escapesItself c then .ok (.literal c) else
    (controlEscape? c).elim ((f.letterClass? c).elim (.error .escape) (·.map .set)) fun c => .ok (.literal c),
    fun f s => ?_, fun f g h => by simp only [letterClass?_congr h]⟩
  rw [readEscape]
  · cases escapesItself c with
    | true => rfl
    | false =>
      simp only [Bool.false_eq_true, if_false]
      cases controlEscape? c with
      | some d => rfl
      | none =>
        cases f.letterClass? c with
        | none => rfl
        | some cs => cases cs <;> rfl
  all_goals assumption

theorem readEscape_behind {a : Atom} (h : readEscape f s = .ok (a, r)) : Behind r s := by
  cases s with
  | nil => cases h
  | cons c s =>
    refine ⟨c, s, List.suffix_rfl, ?_⟩
    rcases readEscape_cases c with ⟨count, hread⟩ | ⟨negated, hread⟩ | hread | ⟨plain, hread, -⟩
    all_goals
      rw [hread] at h
      obtain ⟨x, hx, he⟩ := Element.map_eq_ok.1 h
    · cases he
      exact readCodePoint_suffix hx
    · cases he
      exact readProperty_suffix hx
    · cases he
      exact readWordEdge_suffix hx
    · cases he
      exact List.suffix_rfl

/-! ## Sets -/

theorem readSetAtom_eq_ok {a : Atom} : readSetAtom f s = .ok (a, r) ↔
    (∃ w, s = '\\' :: w ∧ readEscape f w = .ok (a, r)) ∨ ∃ c, s = c :: r ∧ c ≠ '\\' ∧ a = .literal c := by
  unfold readSetAtom
  split <;> grind

theorem readSetAtom_behind {a : Atom} (h : readSetAtom f s = .ok (a, r)) : Behind r s := by
  rcases readSetAtom_eq_ok.1 h with ⟨w, rfl, hesc⟩ | ⟨c, rfl, -⟩
  · exact ⟨_, w, List.suffix_rfl, (readEscape_behind hesc).suffix⟩
  · exact ⟨c, r, List.suffix_rfl, List.suffix_rfl⟩

/-- A hyphen with this behind it is no part of a range. -/
def loneHyphen (f : Flags) (s : Text) : Bool := behindHyphen? f s == some ']' || behindHyphen? f s == some '-'

/-- An item, or a range between two of them. -/
theorem readSetItem_eq_ok {part : SetPart} : readSetItem f s = .ok (part, r) ↔
    ∃ first w, readSetAtom f s = .ok (first, w) ∧
      ((first.item f = .ok part ∧ f.skip w = r ∧ ∀ v, r = '-' :: v → loneHyphen f v = true) ∨
        ∃ v last lo hi, f.skip w = '-' :: v ∧ loneHyphen f v = false ∧ readSetAtom f (f.skip v) = .ok (last, r) ∧
          first.rangeEnd f = .ok lo ∧ last.rangeEnd f = .ok hi ∧ ¬hi < lo ∧ part = ⟨.between lo hi, 0⟩) := by
  constructor
  · intro h
    obtain ⟨⟨first, w⟩, hfirst, h⟩ := bind_eq_ok.1 h
    refine ⟨first, w, hfirst, ?_⟩
    simp only at h
    split at h
    · rename_i v hs
      split at h
      · rename_i hlone
        obtain ⟨item, hitem, h⟩ := bind_eq_ok.1 h
        cases h
        exact .inl ⟨hitem, hs, fun v' hv => by cases hv; exact hlone⟩
      · rename_i hlone
        obtain ⟨⟨last, w'⟩, hlast, h⟩ := bind_eq_ok.1 h
        obtain ⟨lo, hlo, h⟩ := bind_eq_ok.1 h
        obtain ⟨hi, hhi, h⟩ := bind_eq_ok.1 h
        split at h
        · cases h
        · rename_i hle
          cases h
          exact .inr ⟨v, last, lo, hi, hs, Bool.eq_false_iff.2 hlone, hlast, hlo, hhi, hle, rfl⟩
    · rename_i hs
      obtain ⟨item, hitem, h⟩ := bind_eq_ok.1 h
      cases h
      exact .inl ⟨hitem, rfl, fun v hv => absurd hv (hs v)⟩
  · rintro ⟨first, w, hfirst, ⟨hitem, hs, hlone⟩ | ⟨v, last, lo, hi, hs, hlone, hlast, hlo, hhi, hle, rfl⟩⟩
    · rw [readSetItem, hfirst, ok_bind]
      simp only [hs]
      split
      · rename_i v
        rw [← loneHyphen, if_pos (hlone v rfl), hitem]
        rfl
      · rw [hitem]
        rfl
    · rw [readSetItem, hfirst, ok_bind]
      simp only [hs]
      rw [← loneHyphen, hlone, if_neg Bool.false_ne_true, hlast, ok_bind]
      simp only [hlo, hhi, ok_bind, hle, if_false]
      rfl

theorem readSetItem_behind {part : SetPart} (h : readSetItem f s = .ok (part, r)) : Behind r s := by
  obtain ⟨first, w, hfirst, ⟨-, rfl, -⟩ | ⟨v, last, lo, hi, hs, -, hlast, -⟩⟩ := readSetItem_eq_ok.1 h
  · exact (readSetAtom_behind hfirst).of_suffix (f.skip_suffix w) List.suffix_rfl
  · have hr : r <:+ w := ((readSetAtom_behind hlast).suffix.trans (f.skip_suffix v)).trans (Flags.suffix_of_skip hs)
    exact (readSetAtom_behind hfirst).of_suffix hr List.suffix_rfl

/-- The class between colons is told by what stands there alone. -/
theorem readNamedClass?_eq_some {negated : Bool} {set : RangeSet} (h : readNamedClass? s = some (negated, set, r)) :
    ∃ front, s = front ++ r ∧ ∀ r', readNamedClass? (front ++ r') = some (negated, set, r') := by
  unfold readNamedClass? at h
  split at h
  · rename_i v
    split at h
    rename_i sign v' hsign
    split at h
    · rename_i name rest hcut
      obtain ⟨cs, hcs, he⟩ := Option.map_eq_some_iff.1 h
      cases he
      obtain ⟨rfl, hname⟩ := Text.cut_eq_some_iff.1 hcut
      split at hsign
      · cases hsign
        refine ⟨':' :: '^' :: (name ++ [':', ']']), by simp, fun r' => ?_⟩
        simp [readNamedClass?, Text.cut_append hname, hcs]
      · rename_i hno
        cases hsign
        refine ⟨':' :: (name ++ [':', ']']), by simp, fun r' => ?_⟩
        have hfront : ∀ x, name ++ [':', ']'] ++ r' ≠ '^' :: x := by
          intro x hx
          cases name with
          | nil => cases hx
          | cons d name => exact hno _ (by rw [List.cons_append, (List.cons.inj hx).1])
        have hcut' : Text.cut ':' (name ++ [':', ']'] ++ r') = some (name, ']' :: r') := by
          simpa using Text.cut_append hname (']' :: r')
        rw [List.cons_append, readNamedClass?]
        · simp only [hcut', hcs]
          rfl
        · exact hfront
    · cases h
  · cases h

theorem openBracket_eq_iff {b : Bracket} : openBracket f s = (b, r) ↔
    ∃ negated w hyphens v, (f.skip s = '^' :: w ∧ negated = true ∨ f.skip s = w ∧ negated = false ∧ ∀ x, w ≠ '^' :: x) ∧
      f.take (· == '-') w = (hyphens, v) ∧
      (hyphens = [] ∧ v = ']' :: r ∧ b = { negated, items := [⟨.single ']', 0⟩] } ∨
        (hyphens = [] → ∀ x, v ≠ ']' :: x) ∧ v = r ∧ b = { negated, items := hyphens.map fun c => ⟨.single c, 0⟩ }) := by
  constructor
  · intro h
    unfold openBracket at h
    split at h
    rename_i negated w hsign
    refine ⟨negated, w, (f.take (· == '-') w).1, (f.take (· == '-') w).2, ?_, rfl, ?_⟩
    · split at hsign <;> grind
    · split at h
      · rename_i v ht
        rw [ht]
        grind
      · rename_i hyphens v hne ht
        rw [ht]
        cases h
        refine .inr ⟨?_, rfl, rfl⟩
        rintro rfl x rfl
        exact hne _ rfl rfl
  · rintro ⟨negated, w, hyphens, v, hsign, ht, hv⟩
    unfold openBracket
    split
    rename_i hsign'
    split at hsign' <;> grind

theorem openBracket_suffix {b : Bracket} (h : openBracket f s = (b, r)) : r <:+ s := by
  obtain ⟨negated, w, hyphens, v, hsign, ht, hv⟩ := openBracket_eq_iff.1 h
  have hw : w <:+ s := by
    rcases hsign with ⟨hs, -⟩ | ⟨hs, -⟩
    · exact Flags.suffix_of_skip hs
    · exact hs ▸ f.skip_suffix s
  have hr : r <:+ v := by
    rcases hv with ⟨-, rfl, -⟩ | ⟨-, rfl, -⟩
    · exact List.suffix_cons _ _
    · exact List.suffix_rfl
  exact (hr.trans (Flags.suffix_of_take ht)).trans hw

/-! ## Bounds -/

theorem takeDigits_eq_iff : takeDigits f s = (digits, r) ↔
    ∃ w, f.take Char.isDigit (Text.trimStart s) = (digits, w) ∧ Text.trimStart w = r := by
  unfold takeDigits
  grind

theorem takeDigits_suffix (h : takeDigits f s = (digits, r)) : r <:+ s := by
  obtain ⟨w, ht, rfl⟩ := takeDigits_eq_iff.1 h
  exact ((List.dropWhile_suffix isBlank).trans (Flags.suffix_of_take ht)).trans (List.dropWhile_suffix isBlank)

theorem readBounds_eq_ok {lo : Nat} {hi : Option Nat} : readBounds f s = .ok ((lo, hi), r) ↔
    ∃ digits w, takeDigits f (f.skip s) = (digits, w) ∧ bound digits = .ok lo ∧
      (w = '\x7d' :: r ∧ hi = some lo ∨
        ∃ v, w = ',' :: v ∧ (f.skip v = '\x7d' :: r ∧ hi = none ∨
          ∃ digits' n, (∀ x, f.skip v ≠ '\x7d' :: x) ∧ takeDigits f (f.skip v) = (digits', '\x7d' :: r) ∧
            bound digits' = .ok n ∧ ¬n < lo ∧ hi = some n)) := by
  constructor
  · intro h
    unfold readBounds at h
    split at h
    rename_i digits w ht
    obtain ⟨n, hn, h⟩ := bind_eq_ok.1 h
    refine ⟨digits, w, ht, ?_⟩
    split at h
    · grind [pure_eq_ok]
    · rename_i v _
      split at h
      · grind [pure_eq_ok]
      · rename_i hv
        split at h
        rename_i digits' w' ht'
        obtain ⟨m, hm, h⟩ := bind_eq_ok.1 h
        split at h
        · split at h
          · cases h
          · rename_i hle
            cases h
            exact ⟨hn, .inr ⟨v, rfl, .inr ⟨digits', m, hv, ht', hm, hle, rfl⟩⟩⟩
        · cases h
    · cases h
  · rintro ⟨digits, w, ht, hlo, ⟨rfl, rfl⟩ | ⟨v, rfl, ⟨hv, rfl⟩ | ⟨digits', n, hv, ht', hn, hle, rfl⟩⟩⟩
    · simp only [readBounds, ht, hlo, ok_bind]
      rfl
    · simp only [readBounds, ht, hlo, ok_bind, hv]
      rfl
    · simp only [readBounds, ht, hlo, ok_bind]
      simp only [ht', hn, ok_bind, hle, if_false]
      rfl

theorem readBounds_suffix {lo : Nat} {hi : Option Nat} (h : readBounds f s = .ok ((lo, hi), r)) : r <:+ s := by
  obtain ⟨digits, w, ht, -, hw⟩ := readBounds_eq_ok.1 h
  have hr : r <:+ w := by
    rcases hw with ⟨rfl, -⟩ | ⟨v, rfl, ⟨hv, -⟩ | ⟨digits', n, -, ht', -⟩⟩
    · exact List.suffix_cons _ r
    · exact (Flags.suffix_of_skip hv).trans (List.suffix_cons _ v)
    · have hv : r <:+ f.skip v := (List.suffix_cons _ r).trans (takeDigits_suffix ht')
      exact (hv.trans (f.skip_suffix v)).trans (List.suffix_cons _ v)
  exact (hr.trans (takeDigits_suffix ht)).trans (f.skip_suffix s)

/-! ## Groups -/

/-- The name of a group is told by what stands there alone. -/
theorem readGroupName_eq_ok {o : Opening} : readGroupName f s = .ok (o, r) ↔
    ∃ name, s = name ++ '>' :: r ∧ '>' ∉ name ∧ isGroupName name = true ∧ o = .group f true (some name) := by
  unfold readGroupName
  constructor
  · intro h
    split at h
    · rename_i name rest hcut
      obtain ⟨rfl, hname⟩ := Text.cut_eq_some_iff.1 hcut
      split at h
      · cases h
        exact ⟨name, rfl, hname, ‹_›, rfl⟩
      · cases h
    · cases h
  · rintro ⟨name, rfl, hname, hgroup, rfl⟩
    rw [Text.cut_append hname]
    simp only [hgroup, if_true]

theorem readGroupName_suffix {o : Opening} (h : readGroupName f s = .ok (o, r)) : r <:+ s := by
  obtain ⟨name, rfl, -⟩ := readGroupName_eq_ok.1 h
  exact (List.suffix_cons _ r).trans (List.suffix_append name _)

/-- One more switch, or the end of the switches. -/
theorem Flags.read_cons_eq_ok {on : Bool} {seen : List Char} {c : Char} : f.read on seen (c :: s) = .ok (g, r) ↔
    ((c == ')' || c == ':') = true ∧ (seen.head? == some '-') = false ∧ f = g ∧ c :: s = r) ∨
    ((c == ')' || c == ':') = false ∧ seen.contains c = false ∧
      (c = '-' ∧ f.read false ('-' :: seen) s = .ok (g, r) ∨
        c ≠ '-' ∧ ∃ f', f.set? c on = some f' ∧ f'.read on (c :: seen) s = .ok (g, r))) := by
  rw [Flags.read]
  cases (c == ')' || c == ':') with
  | true => cases (seen.head? == some '-') <;> simp
  | false =>
    cases seen.contains c with
    | true => simp
    | false =>
      by_cases hc : c = '-'
      · simp [hc]
      · cases f.set? c on <;> simp [hc]

theorem Flags.read_suffix {on : Bool} {seen : List Char} (h : f.read on seen s = .ok (g, r)) : r <:+ s := by
  fun_induction Flags.read f on seen s with
  | case1 => cases h
  | case2 => cases h
  | case3 => cases h; exact List.suffix_rfl
  | case4 => cases h
  | case5 f on seen c s _ _ _ ih => exact (ih h).trans (List.suffix_cons _ _)
  | case6 f on seen c s _ _ _ f' _ ih => exact (ih h).trans (List.suffix_cons _ _)
  | case7 => cases h

/-- Switches are read up to a parenthesis or a colon. -/
theorem Flags.exists_of_read {on : Bool} {seen : List Char} (h : f.read on seen s = .ok (g, w)) :
    ∃ c r, w = c :: r ∧ (c = ')' ∨ c = ':') := by
  fun_induction Flags.read f on seen s with
  | case1 => cases h
  | case2 => cases h
  | case3 _ _ _ c s hc =>
    cases h
    exact ⟨c, s, rfl, by simpa using hc⟩
  | case4 => cases h
  | case5 f on seen d s _ _ _ ih => exact ih h
  | case6 f on seen d s _ _ _ f' _ ih => exact ih h
  | case7 => cases h

/-- Switches do not begin with what begins the name of a group or looks around. -/
theorem Flags.ne_of_read {on : Bool} {seen : List Char} (h : f.read on seen s = .ok (g, w)) :
    ∀ c ∈ ['P', '<', '=', '!'], ∀ x, s ≠ c :: x := by
  rintro c hc x rfl
  simp only [List.mem_cons, List.not_mem_nil, or_false] at hc
  rcases hc with rfl | rfl | rfl | rfl <;> simp [Flags.read, Flags.set?] at h

/-- A group with a name, switches with or without a group, or a group that captures. -/
theorem readOpening_eq_ok {o : Opening} : readOpening f s = .ok (o, r) ↔
    (∃ w, (f.skip s = '?' :: 'P' :: '<' :: w ∨ f.skip s = '?' :: '<' :: w ∧ (∀ x, w ≠ '=' :: x) ∧ ∀ x, w ≠ '!' :: x) ∧
      readGroupName f w = .ok (o, r)) ∨
    (∃ w g c, f.skip s = '?' :: w ∧ (∀ x, w ≠ ')' :: x) ∧ f.read true [] w = .ok (g, c :: r) ∧
      o = if c = ')' then .settings g else .group g false none) ∨
    ((∀ w, f.skip s ≠ '?' :: w) ∧ f.skip s = r ∧ o = .group f true none) := by
  constructor
  · intro h
    unfold readOpening at h
    split at h
    · rename_i w hs
      exact .inl ⟨w, .inl hs, h⟩
    · cases h
    · cases h
    · cases h
    · cases h
    · exact .inl ⟨_, .inr ⟨by assumption, by grind, by grind⟩, h⟩
    · cases h
    · obtain ⟨⟨g, v⟩, hread, he⟩ := Element.map_eq_ok.1 h
      obtain ⟨c, v, rfl, -⟩ := Flags.exists_of_read hread
      refine .inr (.inl ⟨_, g, c, by assumption, by grind, ?_⟩)
      by_cases hc : c = ')'
      · subst hc
        cases he
        exact ⟨hread, rfl⟩
      · rw [if_neg hc]
        simp only at he
        split at he
        · rename_i heq
          exact absurd (List.cons.inj heq).1 hc
        · cases he
          exact ⟨hread, rfl⟩
    · grind
  · rintro (⟨w, hs | ⟨hs, hne, hni⟩, hname⟩ | ⟨w, g, c, hs, hclose, hread, rfl⟩ | ⟨hs, rfl, rfl⟩)
    · simp only [readOpening, hs]
      exact hname
    · unfold readOpening
      split <;> grind
    · have hflag := Flags.ne_of_read hread
      unfold readOpening
      split <;> try grind
      rename_i heq
      rw [hs] at heq
      cases heq
      rw [hread]
      by_cases hc : c = ')'
      · simp [Except.map, hc]
      · simp only [Except.map, if_neg hc]
        split <;> grind
    · unfold readOpening
      split <;> grind

theorem readOpening_suffix {o : Opening} (h : readOpening f s = .ok (o, r)) : r <:+ s := by
  rcases readOpening_eq_ok.1 h with ⟨w, hs, hname⟩ | ⟨w, g, c, hs, -, hread, -⟩ | ⟨-, hs, -⟩
  · have hw : w <:+ s := by
      rcases hs with hs | ⟨hs, -⟩
      · exact ((List.suffix_cons _ w).trans (List.suffix_cons _ _)).trans (Flags.suffix_of_skip hs)
      · exact (List.suffix_cons _ w).trans (Flags.suffix_of_skip hs)
    exact (readGroupName_suffix hname).trans hw
  · exact ((List.suffix_cons c r).trans (Flags.read_suffix hread)).trans (Flags.suffix_of_skip hs)
  · exact hs ▸ f.skip_suffix s

/-! ## Parts -/

theorem repeatLast_eq_ok {sc sc' : Scope} {lo : Nat} {hi : Option Nat} : sc.repeatLast lo hi s = .ok (sc', r) ↔
    ∃ part parts reversed, sc.parts = part :: parts ∧ part.repeatable = true ∧
      (s = '?' :: r ∧ reversed = true ∨ s = r ∧ (∀ x, s ≠ '?' :: x) ∧ reversed = false) ∧
      sc' = { sc with parts := part.repeated lo hi (sc.flags.lazy != reversed) :: parts } := by
  unfold Scope.repeatLast
  constructor
  · intro h
    split at h
    · cases h
    · rename_i part parts hparts
      split at h
      · cases h
      · split at h
        rename_i hsign
        cases h
        refine ⟨part, parts, _, hparts, by simp_all, ?_, rfl⟩
        split at hsign <;> grind
  · rintro ⟨part, parts, reversed, hparts, hrep, ⟨rfl, rfl⟩ | ⟨rfl, hne, rfl⟩, rfl⟩
    · simp only [hparts, hrep]
      rfl
    · simp only [hparts, hrep, Bool.not_true, Bool.false_eq_true, if_false]

theorem repeatLast_suffix {sc sc' : Scope} {lo : Nat} {hi : Option Nat} (h : sc.repeatLast lo hi s = .ok (sc', r)) :
    r <:+ s := by
  obtain ⟨_, _, _, -, -, ⟨rfl, -⟩ | ⟨rfl, -⟩, -⟩ := repeatLast_eq_ok.1 h
  · exact List.suffix_cons _ r
  · exact List.suffix_rfl

/-- The character stands for itself in a pattern, or is an anchor or a dot. -/
def plainAtom? (f : Flags) (c : Char) : Except Malformed Expr :=
  match c with
  | '.' => f.dot.map .ofSet
  | '^' => .ok (.look f.start)
  | '$' => .ok (.look f.stop)
  | c => .ok (f.literal c)

theorem readAtom_eq_ok {e : Expr} : readAtom f s = .ok (e, r) ↔
    (∃ w a, s = '\\' :: w ∧ readEscape f w = .ok (a, r) ∧ e = a.expr f) ∨
    (∃ c, s = c :: r ∧ c ≠ '\\' ∧ plainAtom? f c = .ok e) := by
  constructor
  · intro h
    unfold readAtom at h
    split at h
    · cases h
    · obtain ⟨⟨a, w⟩, ha, he⟩ := Element.map_eq_ok.1 h
      cases he
      exact .inl ⟨_, a, rfl, ha, rfl⟩
    · obtain ⟨set, hset, he⟩ := Element.map_eq_ok.1 h
      cases he
      exact .inr ⟨'.', rfl, by decide, by simp [plainAtom?, hset, Except.map]⟩
    · cases h
      exact .inr ⟨'^', rfl, by decide, rfl⟩
    · cases h
      exact .inr ⟨'$', rfl, by decide, rfl⟩
    · rename_i c w hb hdot hstart hstop
      cases h
      refine .inr ⟨c, rfl, by grind, ?_⟩
      unfold plainAtom?
      grind
  · rintro (⟨w, a, rfl, ha, rfl⟩ | ⟨c, rfl, hb, he⟩)
    · simp only [readAtom, ha]
      rfl
    · unfold plainAtom? at he
      split at he
      · obtain ⟨set, hset, rfl⟩ := Element.map_eq_ok.1 he
        simp only [readAtom, hset]
        rfl
      · cases he
        rfl
      · cases he
        rfl
      · cases he
        rw [readAtom] <;> grind

theorem readAtom_behind {e : Expr} (h : readAtom f s = .ok (e, r)) : Behind r s := by
  rcases readAtom_eq_ok.1 h with ⟨w, a, rfl, hesc, -⟩ | ⟨c, rfl, -⟩
  · exact ⟨_, w, List.suffix_rfl, (readEscape_behind hesc).suffix⟩
  · exact ⟨c, r, List.suffix_rfl, List.suffix_rfl⟩

end MessageHead.Pattern
