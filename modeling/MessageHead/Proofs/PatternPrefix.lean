/-
What is read in front of a parenthesis, when reading leaves the parenthesis and all behind it: it is
read from what stands in front alone, with the same answer (`readsScope_of_append`).

The parenthesis stops a reader or is swallowed by it: by a comment, a name, a set in brackets, a
group. Where it is swallowed it is not left. Only an escape for the edge of a word looks at it
without taking it, when a brace behind the escape is followed by nothing else that counts
(`Dangles`). Such a brace is then read as the bounds of a repetition, which it is not.
-/
import MessageHead.Proofs.PatternGrammar

namespace MessageHead.Pattern

variable {f g : Flags} {s r w u digits name : Text} {c : Char}

theorem exists_of_suffix {t : Text} (h : r ++ t <:+ w) : ∃ w', w = w' ++ t ∧ r <:+ w' := by
  obtain ⟨a, rfl⟩ := h
  exact ⟨a ++ r, (List.append_assoc a r t).symm, List.suffix_append a r⟩

theorem not_suffix_behind : ¬ r ++ c :: u <:+ u := by
  intro h
  have := h.length_le
  simp only [List.length_append, List.length_cons] at this
  omega

/-- Something stands in front of what is left, if a character was taken. -/
theorem exists_cons_of_behind {t : Text} (h : Behind (r ++ t) (s ++ t)) : ∃ c s', s = c :: s' := by
  cases s with
  | nil =>
    have := h.length_lt
    simp only [List.length_append, List.length_nil] at this
    omega
  | cons c s => exact ⟨c, s, rfl⟩

/-- What the whole text does not begin with, its front does not begin with. -/
theorem not_cons_of_append {t : Text} (h : ∀ x, s ++ t ≠ c :: x) (x : Text) : s ≠ c :: x :=
  fun hx => h (x ++ t) (by rw [hx, List.cons_append])

/-! ## What does not count -/

namespace Flags

theorem spread_limit (f : Flags) (p : Char → Bool) {m n : Nat} {inside : Bool} (hm : s.length ≤ m)
    (hn : s.length ≤ n) : f.spread p m inside s = f.spread p n inside s := by
  induction s generalizing m n inside with
  | nil => rw [spread, spread]
  | cons c s ih =>
    obtain ⟨m, rfl⟩ : ∃ k, m = k + 1 := Nat.exists_eq_add_one_of_ne_zero (Nat.ne_zero_of_lt hm)
    obtain ⟨n, rfl⟩ : ∃ k, n = k + 1 := Nat.exists_eq_add_one_of_ne_zero (Nat.ne_zero_of_lt hn)
    have hm := Nat.le_of_succ_le_succ hm
    have hn := Nat.le_of_succ_le_succ hn
    have same : ∀ inside, f.spread p (m + 1) inside s = f.spread p (n + 1) inside s :=
      fun inside => ih (Nat.le_succ_of_le hm) (Nat.le_succ_of_le hn)
    have fewer : f.spread p m false s = f.spread p n false s := ih hm hn
    cases inside with
    | true => rw [spread, spread, same]
    | false =>
      rw [spread_outside, spread_outside, same, same]
      simp only [fewer]

/-- The next character is passed over, or it counts: it is taken if it may be, and else nothing is. -/
theorem spread_step (f : Flags) (c : Char) :
    (∃ inside, ∀ p limit s, f.spread p limit false (c :: s) = f.spread p limit inside s) ∨
    (∀ p s, f.spread p 0 false (c :: s) = ([], c :: s)) ∧ ∀ p limit s, f.spread p (limit + 1) false (c :: s) =
      if p c then (c :: (f.spread p limit false s).1, (f.spread p limit false s).2) else ([], c :: s) := by
  simp only [spread_outside]
  by_cases hb : (f.extended && isBlank c) = true
  · exact .inl ⟨false, fun p limit s => if_pos hb⟩
  by_cases hm : (f.extended && c == '#') = true
  · exact .inl ⟨true, fun p limit s => by rw [if_neg hb, if_pos hm]⟩
  · exact .inr ⟨fun p s => by rw [if_neg hb, if_neg hm], fun p limit s => by rw [if_neg hb, if_neg hm]⟩

/-- **What is taken in front of a parenthesis** is taken from what stands in front of it alone. A
comment that is open there would take the parenthesis too. -/
theorem spread_of_append {p : Char → Bool} {limit : Nat} {inside : Bool} {a : Text}
    (h : f.spread p limit inside (s ++ ')' :: u) = (a, r ++ ')' :: u)) :
    f.spread p limit inside s = (a, r) := by
  have stopped : ∀ {s a : Text}, ([], s ++ ')' :: u) = (a, r ++ ')' :: u) → ([], s) = (a, r) := by
    intro s a h
    obtain ⟨rfl, hr⟩ := Prod.mk.inj h
    rw [List.append_cancel_right hr]
  induction s generalizing limit inside a with
  | nil =>
    -- What goes on behind the parenthesis does not leave it.
    have kept : ∀ limit inside a, f.spread p limit inside u ≠ (a, r ++ ')' :: u) := by
      intro limit inside a h
      exact not_suffix_behind (suffix_of_spread h)
    rw [spread]
    cases inside with
    | true => exact absurd h (kept _ _ _)
    | false =>
      rcases f.spread_step ')' with ⟨inside, pass⟩ | ⟨hzero, hsucc⟩
      · exact absurd ((pass p limit u).symm.trans h) (kept _ _ _)
      · cases limit with
        | zero => exact stopped ((hzero p u).symm.trans h)
        | succ limit =>
          rw [List.nil_append, hsucc] at h
          split at h
          · exact (kept limit false _ (Prod.ext rfl (Prod.mk.inj h).2)).elim
          · exact stopped h
  | cons c s ih =>
    cases inside with
    | true =>
      rw [List.cons_append, spread] at h
      rw [spread]
      exact ih h
    | false =>
      rw [List.cons_append] at h
      rcases f.spread_step c with ⟨inside, pass⟩ | ⟨hzero, hsucc⟩
      · rw [pass] at h ⊢
        exact ih h
      · cases limit with
        | zero =>
          rw [hzero] at h ⊢
          exact stopped h
        | succ limit =>
          rw [hsucc] at h ⊢
          split at h
          · rename_i hp
            obtain ⟨rfl, hr⟩ := Prod.mk.inj h
            have hs := ih (Prod.ext rfl hr)
            rw [if_pos hp, hs]
          · rename_i hp
            rw [if_neg hp]
            exact stopped h

theorem skip_of_append (h : f.skip (s ++ ')' :: u) = w ++ ')' :: u) : f.skip s = w :=
  congrArg Prod.snd (spread_of_append (Prod.ext rfl h))

theorem take_of_append {p : Char → Bool} {a : Text} (h : f.take p (s ++ ')' :: u) = (a, r ++ ')' :: u)) :
    f.take p s = (a, r) := by
  rw [take, spread_limit f p (Nat.le_refl _) (by simp : s.length ≤ (s ++ ')' :: u).length)]
  exact spread_of_append h

/-- What counts next in front of a parenthesis, if reading on leaves the parenthesis. -/
theorem skip_append_of_suffix (h : r ++ ')' :: u <:+ f.skip (s ++ ')' :: u)) :
    f.skip (s ++ ')' :: u) = f.skip s ++ ')' :: u ∧ r <:+ f.skip s := by
  obtain ⟨w, hs, hr⟩ := exists_of_suffix h
  obtain rfl := skip_of_append hs
  exact ⟨hs, hr⟩

theorem skip_cons_of_append (h : f.skip (s ++ ')' :: u) = c :: w) (hr : r ++ ')' :: u <:+ w) :
    ∃ w', w = w' ++ ')' :: u ∧ f.skip s = c :: w' := by
  obtain ⟨w', rfl, -⟩ := exists_of_suffix hr
  exact ⟨w', rfl, skip_of_append (w := c :: w') h⟩

theorem skip_append (h : f.skip s = c :: w) (t : Text) : f.skip (s ++ t) = c :: w ++ t := by
  have next : ∀ inside, (f.spread (fun _ => false) 0 inside s).2 = c :: w →
      (f.spread (fun _ => false) 0 inside (s ++ t)).2 = c :: w ++ t := by
    clear h
    intro inside h
    induction s generalizing inside with
    | nil =>
      rw [spread] at h
      cases h
    | cons d s ih =>
      rw [List.cons_append]
      cases inside with
      | true =>
        rw [spread] at h ⊢
        exact ih _ h
      | false =>
        rcases f.spread_step d with ⟨inside, pass⟩ | ⟨hzero, -⟩
        · rw [pass] at h ⊢
          exact ih _ h
        · rw [hzero] at h ⊢
          exact congrArg (· ++ t) h
  exact next false h

end Flags

/-! ## Escapes -/

theorem readCodePoint_of_append {count : Nat} {x : Char}
    (h : readCodePoint f count (s ++ ')' :: u) = .ok (x, r ++ ')' :: u)) : readCodePoint f count s = .ok (x, r) := by
  rcases readCodePoint_eq_ok.1 h with ⟨w, digits, hs, ht, hx⟩ | ⟨digits, hs, ht, hlen, hx, hcheck⟩
  · obtain ⟨w, rfl, hfront⟩ := Flags.skip_cons_of_append hs ((List.suffix_cons _ _).trans (Flags.suffix_of_take ht))
    exact readCodePoint_eq_ok.2 (.inl ⟨w, digits, hfront, Flags.take_of_append (r := '\x7d' :: r) ht, hx⟩)
  · obtain ⟨heq, -⟩ := Flags.skip_append_of_suffix (Flags.suffix_of_spread ht)
    rw [heq] at hs ht
    exact readCodePoint_eq_ok.2 (.inr ⟨digits, not_cons_of_append hs, Flags.spread_of_append ht, hlen, hx, hcheck⟩)

theorem readPropertyName_of_append (h : readPropertyName f (s ++ ')' :: u) = .ok (name, r ++ ')' :: u)) :
    readPropertyName f s = .ok (name, r) := by
  rcases readPropertyName_eq_ok.1 h with ⟨w, hs, ht⟩ | ⟨c, hs, hb, hc, hname⟩
  · obtain ⟨w, rfl, hfront⟩ := Flags.skip_cons_of_append hs ((List.suffix_cons _ _).trans (Flags.suffix_of_take ht))
    exact readPropertyName_eq_ok.2 (.inl ⟨w, hfront, Flags.take_of_append (r := '\x7d' :: r) ht⟩)
  · exact readPropertyName_eq_ok.2 (.inr ⟨c, Flags.skip_of_append (w := c :: r) hs, hb, hc, hname⟩)

theorem readProperty_of_append {negated : Bool} {set : RangeSet}
    (h : readProperty f negated (s ++ ')' :: u) = .ok (set, r ++ ')' :: u)) :
    readProperty f negated s = .ok (set, r) := by
  obtain ⟨name, lacking, named, hname, h⟩ := readProperty_eq_ok.1 h
  exact readProperty_eq_ok.2 ⟨name, lacking, named, readPropertyName_of_append hname, h⟩

/-- A brace stands in front, with nothing behind it that counts. -/
def Dangles (f : Flags) (s : Text) : Prop := ∃ w, s = '\x7b' :: w ∧ f.skip w = []

theorem readWordEdge_of_append {a : Assertion} (h : readWordEdge f (s ++ ')' :: u) = .ok (a, r ++ ')' :: u)) :
    readWordEdge f s = .ok (a, r) ∨ Dangles f r := by
  rcases readWordEdge_eq_ok.1 h with ⟨w, c, v, name, hs, hskip, hc, ht, ha⟩ | ⟨hr, ha, hw⟩
  · have hr : '\x7d' :: r ++ ')' :: u <:+ f.skip w := hskip ▸ Flags.suffix_of_take ht
    obtain ⟨w, rfl, -⟩ := exists_of_suffix (hr.trans (f.skip_suffix w))
    obtain rfl : s = '\x7b' :: w := List.append_cancel_right hs
    obtain ⟨heq, hr⟩ := Flags.skip_append_of_suffix hr
    cases hskip' : f.skip w with
    | nil => simp [hskip'] at hr
    | cons d v' =>
      rw [hskip, hskip'] at heq
      obtain ⟨rfl, rfl⟩ := List.cons.inj heq
      exact .inl (readWordEdge_eq_ok.2 (.inl ⟨w, c, v', name, rfl, hskip', hc,
        Flags.take_of_append (s := c :: v') (r := '\x7d' :: r) ht, ha⟩))
  · obtain rfl := List.append_cancel_right hr
    by_cases hd : Dangles f r
    · exact .inr hd
    · refine .inl (readWordEdge_eq_ok.2 (.inr ⟨rfl, ha, fun w hrw => ?_⟩))
      subst hrw
      obtain ⟨c, v, hskip, hc⟩ := hw (w ++ ')' :: u) rfl
      cases hskip' : f.skip w with
      | nil => exact absurd ⟨w, rfl, hskip'⟩ hd
      | cons d v' =>
        rw [Flags.skip_append hskip'] at hskip
        exact ⟨d, v', rfl, (List.cons.inj hskip).1 ▸ hc⟩

/-- An escape looks at what is behind it only where it is for the edge of a word. -/
theorem readEscape_of_append {a : Atom} (h : readEscape f (s ++ ')' :: u) = .ok (a, r ++ ')' :: u)) :
    readEscape f s = .ok (a, r) ∨ Dangles f r ∧ ∃ x, a = .look x := by
  obtain ⟨c, s, rfl⟩ := exists_cons_of_behind (readEscape_behind h)
  rw [List.cons_append] at h
  rcases readEscape_cases c with ⟨count, hread⟩ | ⟨negated, hread⟩ | hread | ⟨plain, hread, -⟩ <;> rw [hread] at h ⊢
  · obtain ⟨⟨x, w⟩, hx, he⟩ := Element.map_eq_ok.1 h
    obtain ⟨rfl, rfl⟩ := Prod.mk.inj he
    exact .inl (by rw [readCodePoint_of_append hx]; rfl)
  · obtain ⟨⟨cs, w⟩, hx, he⟩ := Element.map_eq_ok.1 h
    obtain ⟨rfl, rfl⟩ := Prod.mk.inj he
    exact .inl (by rw [readProperty_of_append hx]; rfl)
  · obtain ⟨⟨x, w⟩, hx, he⟩ := Element.map_eq_ok.1 h
    obtain ⟨rfl, rfl⟩ := Prod.mk.inj he
    rcases readWordEdge_of_append hx with hs | hd
    · exact .inl (by rw [hs]; rfl)
    · exact .inr ⟨hd, x, rfl⟩
  · obtain ⟨x, hx, he⟩ := Element.map_eq_ok.1 h
    obtain ⟨rfl, hr⟩ := Prod.mk.inj he
    obtain rfl := List.append_cancel_right hr
    exact .inl (by rw [hx]; rfl)

/-! ## Sets -/

theorem readSetAtom_of_append {a : Atom} (h : readSetAtom f (s ++ ')' :: u) = .ok (a, r ++ ')' :: u)) :
    readSetAtom f s = .ok (a, r) ∨ ∃ x, a = .look x := by
  obtain ⟨c, s, rfl⟩ := exists_cons_of_behind (readSetAtom_behind h)
  rcases readSetAtom_eq_ok.1 h with ⟨w, hs, hesc⟩ | ⟨d, hs, hd, rfl⟩
  · obtain ⟨rfl, rfl⟩ := List.cons.inj hs
    rcases readEscape_of_append hesc with hesc | ⟨-, hlook⟩
    · exact .inl (readSetAtom_eq_ok.2 (.inl ⟨s, rfl, hesc⟩))
    · exact .inr hlook
  · obtain ⟨rfl, hr⟩ := List.cons.inj hs
    obtain rfl := List.append_cancel_right hr
    exact .inl (readSetAtom_eq_ok.2 (.inr ⟨c, rfl, hd, rfl⟩))

theorem trimStart_append (s u : Text) : Text.trimStart (s ++ ')' :: u) = Text.trimStart s ++ ')' :: u := by
  have hparen : isBlank ')' = false := by decide
  unfold Text.trimStart
  induction s with
  | nil => rw [List.nil_append, List.dropWhile_cons_of_neg (by simp [hparen])]; rfl
  | cons c s ih =>
    by_cases hc : isBlank c = true
    · rw [List.cons_append, List.dropWhile_cons_of_pos hc, List.dropWhile_cons_of_pos hc, ih]
    · rw [List.cons_append, List.dropWhile_cons_of_neg hc, List.dropWhile_cons_of_neg hc]
      rfl

theorem behindHyphen?_append (f : Flags) (s u : Text) :
    behindHyphen? f (s ++ ')' :: u) = some ((behindHyphen? f s).getD ')') := by
  have head : ∀ w : Text, (w ++ ')' :: u).head? = some (w.head?.getD ')') := by
    intro w
    cases w <;> rfl
  fun_cases behindHyphen? f s with
  | case1 hext w hs =>
    rw [behindHyphen?, if_pos hext, trimStart_append, hs]
    simp only [List.cons_append, trimStart_append, head]
  | case2 hext hs =>
    rw [behindHyphen?, if_pos hext, trimStart_append]
    split
    · rename_i w heq
      cases htrim : Text.trimStart s with
      | nil => cases htrim ▸ heq
      | cons c v => exact absurd ((List.cons.inj (htrim ▸ heq)).1 ▸ htrim) (hs v)
    · exact head _
  | case3 hext => rw [behindHyphen?, if_neg hext, head]

theorem loneHyphen_append (f : Flags) (s u : Text) : loneHyphen f (s ++ ')' :: u) = loneHyphen f s := by
  unfold loneHyphen
  rw [behindHyphen?_append]
  cases behindHyphen? f s <;> rfl

/-- An item is no assertion, so nothing can dangle behind it. -/
theorem readSetItem_of_append {part : SetPart} (h : readSetItem f (s ++ ')' :: u) = .ok (part, r ++ ')' :: u)) :
    readSetItem f s = .ok (part, r) := by
  obtain ⟨first, w, hfirst, h⟩ := readSetItem_eq_ok.1 h
  have cut : ∀ {a : Atom} {s w' : Text}, (∀ x, a ≠ .look x) → readSetAtom f (s ++ ')' :: u) = .ok (a, w' ++ ')' :: u) →
      readSetAtom f s = .ok (a, w') := by
    intro a s w' ha h
    exact (readSetAtom_of_append h).resolve_right fun ⟨x, hx⟩ => ha x hx
  rcases h with ⟨hitem, hs, hlone⟩ | ⟨v, last, lo, hi, hs, hlone, hlast, hlo, hhi, hle, rfl⟩
  · obtain ⟨w, rfl, -⟩ := exists_of_suffix (hs ▸ f.skip_suffix w)
    have hfirst := cut (fun x hx => by rw [hx] at hitem; cases hitem) hfirst
    refine readSetItem_eq_ok.2 ⟨first, w, hfirst, .inl ⟨hitem, Flags.skip_of_append hs, ?_⟩⟩
    rintro v rfl
    rw [← loneHyphen_append f v u]
    exact hlone _ rfl
  · have hr := (readSetAtom_behind hlast).suffix
    obtain ⟨v, rfl, -, -⟩ := exists_of_suffix (hr.trans (f.skip_suffix v))
    obtain ⟨heq, -⟩ := Flags.skip_append_of_suffix hr
    obtain ⟨w, rfl, -⟩ := exists_of_suffix (Flags.suffix_of_skip hs)
    rw [heq] at hlast
    rw [loneHyphen_append] at hlone
    refine readSetItem_eq_ok.2 ⟨first, w, cut (fun x hx => by rw [hx] at hlo; cases hlo) hfirst,
      .inr ⟨v, last, lo, hi, Flags.skip_of_append (w := '-' :: v) hs, hlone, ?_, hlo, hhi, hle, rfl⟩⟩
    exact cut (fun x hx => by rw [hx] at hhi; cases hhi) hlast

theorem readNamedClass?_of_append {negated : Bool} {set : RangeSet} {t : Text}
    (h : readNamedClass? (s ++ t) = some (negated, set, r ++ t)) : readNamedClass? s = some (negated, set, r) := by
  obtain ⟨front, hs, hfront⟩ := readNamedClass?_eq_some h
  obtain rfl : s = front ++ r := List.append_cancel_right (hs.trans (List.append_assoc front r t).symm)
  exact hfront r

theorem readNamedClass?_none_of_append {t : Text} (h : readNamedClass? (s ++ t) = none) : readNamedClass? s = none := by
  cases hs : readNamedClass? s with
  | none => rfl
  | some x =>
    obtain ⟨front, rfl, hfront⟩ := readNamedClass?_eq_some hs
    rw [List.append_assoc, hfront] at h
    cases h

theorem openBracket_of_append {b : Bracket} (h : openBracket f (s ++ ')' :: u) = (b, r ++ ')' :: u)) :
    openBracket f s = (b, r) := by
  obtain ⟨negated, w, hyphens, v, hsign, ht, hv⟩ := openBracket_eq_iff.1 h
  have hr : r ++ ')' :: u <:+ v := by
    rcases hv with ⟨-, rfl, -⟩ | ⟨-, rfl, -⟩
    · exact List.suffix_cons _ _
    · exact List.suffix_rfl
  obtain ⟨v, rfl, -⟩ := exists_of_suffix hr
  obtain ⟨w, rfl, -⟩ := exists_of_suffix (Flags.suffix_of_take ht)
  refine openBracket_eq_iff.2 ⟨negated, w, hyphens, v, ?_, Flags.take_of_append ht, ?_⟩
  · rcases hsign with ⟨hs, hneg⟩ | ⟨hs, hneg, hne⟩
    · exact .inl ⟨Flags.skip_of_append (w := '^' :: w) hs, hneg⟩
    · exact .inr ⟨Flags.skip_of_append hs, hneg, not_cons_of_append hne⟩
  · rcases hv with ⟨hh, hs, hb⟩ | ⟨hne, hs, hb⟩
    · exact .inl ⟨hh, List.append_cancel_right (show v ++ ')' :: u = ']' :: r ++ ')' :: u from hs), hb⟩
    · exact .inr ⟨fun hh => not_cons_of_append (hne hh), List.append_cancel_right hs, hb⟩

theorem beginsItem_of_append (h : beginsItem (s ++ u) = true) (hs : s ≠ []) : beginsItem s = true := by
  unfold beginsItem
  split <;> simp_all [beginsItem]

/-- **A set in brackets** that is read in front of a parenthesis. -/
theorem readsBracket_of_append {b : Bracket} {part : SetPart}
    (h : ReadsBracket f b (s ++ ')' :: u) part (r ++ ')' :: u)) : ReadsBracket f b s part r := by
  -- What is left ends with the parenthesis and what is behind it, so whatever a round leaves does,
  -- and what the round has read can be cut.
  generalize hs : s ++ ')' :: u = s' at h
  generalize hr : r ++ ')' :: u = r' at h
  induction h generalizing s r with subst hs hr
  | close hskip hclose =>
    exact .close (Flags.skip_of_append (w := ']' :: r) hskip) hclose
  | @operator _ _ _ _ _ c op hskip hop h ih =>
    obtain ⟨w, rfl, -⟩ := exists_of_suffix h.behind.suffix
    exact .operator (Flags.skip_of_append (w := c :: c :: w) hskip) hop (ih rfl rfl)
  | named hskip hnamed hset h ih =>
    obtain ⟨v, rfl, -⟩ := exists_of_suffix h.behind.suffix
    obtain ⟨w, rfl, hfront⟩ := Flags.skip_cons_of_append hskip (readNamedClass?_suffix hnamed)
    exact .named hfront (readNamedClass?_of_append hnamed) hset (ih rfl rfl)
  | nested hskip hnamed hopen hinner h ihinner ih =>
    obtain ⟨x, rfl, -⟩ := exists_of_suffix h.behind.suffix
    obtain ⟨v, rfl, -⟩ := exists_of_suffix hinner.behind.suffix
    obtain ⟨w, rfl, hfront⟩ := Flags.skip_cons_of_append hskip (openBracket_suffix hopen)
    exact .nested hfront (readNamedClass?_none_of_append hnamed) (openBracket_of_append hopen) (ihinner rfl rfl) (ih rfl rfl)
  | item hskip hitem h ih =>
    obtain ⟨v, rfl, -⟩ := exists_of_suffix h.behind.suffix
    obtain ⟨heq, -⟩ := Flags.skip_append_of_suffix (readSetItem_behind hitem).suffix
    rw [heq] at hskip hitem
    obtain ⟨c, w, hw⟩ := exists_cons_of_behind (readSetItem_behind hitem)
    exact .item (beginsItem_of_append hskip (by simp [hw])) (readSetItem_of_append hitem) (ih rfl rfl)

theorem readBracket_of_append {part : SetPart} (h : readBracket f (s ++ ')' :: u) = .ok (part, r ++ ')' :: u)) :
    readBracket f s = .ok (part, r) := by
  obtain ⟨b, w, hopen, h⟩ := readBracket_eq_ok.1 h
  obtain ⟨w, rfl, -⟩ := exists_of_suffix h.behind.suffix
  exact readBracket_eq_ok.2 ⟨b, w, openBracket_of_append hopen, readsBracket_of_append h⟩

/-! ## Bounds -/

theorem takeDigits_of_append (h : takeDigits f (s ++ ')' :: u) = (digits, r ++ ')' :: u)) :
    takeDigits f s = (digits, r) := by
  obtain ⟨w, ht, hw⟩ := takeDigits_eq_iff.1 h
  have hr : r ++ ')' :: u <:+ w := hw ▸ List.dropWhile_suffix isBlank
  obtain ⟨w, rfl, -⟩ := exists_of_suffix hr
  rw [trimStart_append] at ht hw
  exact takeDigits_eq_iff.2 ⟨w, Flags.take_of_append ht, List.append_cancel_right hw⟩

theorem takeDigits_skip_of_append (h : takeDigits f (f.skip (s ++ ')' :: u)) = (digits, r ++ ')' :: u)) :
    takeDigits f (f.skip s) = (digits, r) := by
  obtain ⟨heq, -⟩ := Flags.skip_append_of_suffix (takeDigits_suffix h)
  rw [heq] at h
  exact takeDigits_of_append h

theorem readBounds_of_append {lo : Nat} {hi : Option Nat}
    (h : readBounds f (s ++ ')' :: u) = .ok ((lo, hi), r ++ ')' :: u)) : readBounds f s = .ok ((lo, hi), r) := by
  obtain ⟨digits, w, ht, hlo, ⟨rfl, rfl⟩ | ⟨v, rfl, ⟨hv, rfl⟩ | ⟨digits', n, hne, ht', hn, hle, rfl⟩⟩⟩ :=
    readBounds_eq_ok.1 h
  · exact readBounds_eq_ok.2 ⟨digits, _, takeDigits_skip_of_append (r := '\x7d' :: r) ht, hlo, .inl ⟨rfl, rfl⟩⟩
  · obtain ⟨v, rfl, -⟩ := exists_of_suffix (Flags.suffix_of_skip hv)
    exact readBounds_eq_ok.2 ⟨digits, _, takeDigits_skip_of_append (r := ',' :: v) ht, hlo,
      .inr ⟨v, rfl, .inl ⟨Flags.skip_of_append (w := '\x7d' :: r) hv, rfl⟩⟩⟩
  · have hr : '\x7d' :: r ++ ')' :: u <:+ v := (takeDigits_suffix ht').trans (f.skip_suffix v)
    obtain ⟨v, rfl, -⟩ := exists_of_suffix hr
    exact readBounds_eq_ok.2 ⟨digits, _, takeDigits_skip_of_append (r := ',' :: v) ht, hlo,
      .inr ⟨v, rfl, .inr ⟨digits', n, fun x hx => hne _ (Flags.skip_append hx _),
        takeDigits_skip_of_append (r := '\x7d' :: r) ht', hn, hle, rfl⟩⟩⟩

theorem not_readBounds_of_skip_eq_nil {bounds : (Nat × Option Nat) × Text} (hs : f.skip s = []) :
    readBounds f s ≠ .ok bounds := by
  intro h
  obtain ⟨digits, w, ht, hlo, -⟩ := readBounds_eq_ok.1 h
  rw [hs] at ht
  cases ht
  cases hlo

/-! ## Groups -/

theorem readGroupName_of_append {o : Opening} {t : Text} (h : readGroupName f (s ++ t) = .ok (o, r ++ t)) :
    readGroupName f s = .ok (o, r) := by
  obtain ⟨name, hs, hname, hgroup, ho⟩ := readGroupName_eq_ok.1 h
  obtain rfl : s = name ++ '>' :: r := List.append_cancel_right (hs.trans (List.append_assoc name ('>' :: r) t).symm)
  exact readGroupName_eq_ok.2 ⟨name, rfl, hname, hgroup, ho⟩

theorem Flags.read_of_append {on : Bool} {seen : List Char} (h : f.read on seen (s ++ u) = .ok (g, c :: r ++ u)) :
    f.read on seen s = .ok (g, c :: r) := by
  induction s generalizing f on seen with
  | nil =>
    have := (Flags.read_suffix h).length_le
    simp only [List.length_append, List.length_cons, List.length_nil] at this
    omega
  | cons d s ih =>
    rw [List.cons_append, Flags.read_cons_eq_ok] at h
    refine Flags.read_cons_eq_ok.2 ?_
    rcases h with ⟨hend, hsign, hf, hs⟩ | ⟨hend, hseen, ⟨hd, h⟩ | ⟨hd, f', hset, h⟩⟩
    · exact .inl ⟨hend, hsign, hf, List.append_cancel_right (show d :: s ++ u = c :: r ++ u from hs)⟩
    · exact .inr ⟨hend, hseen, .inl ⟨hd, ih h⟩⟩
    · exact .inr ⟨hend, hseen, .inr ⟨hd, f', hset, ih h⟩⟩

theorem readOpening_of_append {o : Opening} (h : readOpening f (s ++ ')' :: u) = .ok (o, r ++ ')' :: u)) :
    readOpening f s = .ok (o, r) := by
  rcases readOpening_eq_ok.1 h with ⟨w, hs, hname⟩ | ⟨w, g, c, hs, hclose, hread, ho⟩ | ⟨hne, hs, ho⟩
  · obtain ⟨w, rfl, -⟩ := exists_of_suffix (readGroupName_suffix hname)
    refine readOpening_eq_ok.2 (.inl ⟨w, ?_, readGroupName_of_append hname⟩)
    rcases hs with hs | ⟨hs, hne, hni⟩
    · exact .inl (Flags.skip_of_append (w := '?' :: 'P' :: '<' :: w) hs)
    · exact .inr ⟨Flags.skip_of_append (w := '?' :: '<' :: w) hs, not_cons_of_append hne, not_cons_of_append hni⟩
  · have hr : c :: r ++ ')' :: u <:+ w := Flags.read_suffix hread
    obtain ⟨w, rfl, -⟩ := exists_of_suffix hr
    exact readOpening_eq_ok.2 (.inr (.inl ⟨w, g, c, Flags.skip_of_append (w := '?' :: w) hs,
      not_cons_of_append hclose, Flags.read_of_append hread, ho⟩))
  · have hskip := Flags.skip_of_append hs
    exact readOpening_eq_ok.2 (.inr (.inr ⟨fun x hx => hne _ (Flags.skip_append hx _), hskip, ho⟩))

/-! ## Parts -/

variable {sc sc' : Scope}

theorem repeatLast_of_append {lo : Nat} {hi : Option Nat}
    (h : sc.repeatLast lo hi (s ++ ')' :: u) = .ok (sc', r ++ ')' :: u)) : sc.repeatLast lo hi s = .ok (sc', r) := by
  obtain ⟨part, parts, reversed, hparts, hrep, hs, hsc⟩ := repeatLast_eq_ok.1 h
  refine repeatLast_eq_ok.2 ⟨part, parts, reversed, hparts, hrep, ?_, hsc⟩
  rcases hs with ⟨hs, hrev⟩ | ⟨hs, hne, hrev⟩
  · exact .inl ⟨List.append_cancel_right (show s ++ ')' :: u = '?' :: r ++ ')' :: u from hs), hrev⟩
  · exact .inr ⟨List.append_cancel_right hs, not_cons_of_append hne, hrev⟩

theorem readAtom_of_append {e : Expr} (h : readAtom f (s ++ ')' :: u) = .ok (e, r ++ ')' :: u)) :
    readAtom f s = .ok (e, r) ∨ Dangles f r := by
  obtain ⟨c, s, rfl⟩ := exists_cons_of_behind (readAtom_behind h)
  rcases readAtom_eq_ok.1 h with ⟨w, a, hs, hesc, he⟩ | ⟨d, hs, hd, he⟩
  · obtain ⟨rfl, rfl⟩ := List.cons.inj hs
    rcases readEscape_of_append hesc with hesc | ⟨hdangles, -⟩
    · exact .inl (readAtom_eq_ok.2 (.inl ⟨s, a, rfl, hesc, he⟩))
    · exact .inr hdangles
  · obtain ⟨rfl, hr⟩ := List.cons.inj hs
    obtain rfl := List.append_cancel_right hr
    exact .inl (readAtom_eq_ok.2 (.inr ⟨c, rfl, hd, he⟩))

theorem beginsAtom_of_append (h : beginsAtom (s ++ u) = true) (hs : s ≠ []) : beginsAtom s = true := by
  unfold beginsAtom
  split <;> simp_all [beginsAtom]

/-- A group does not go on with a brace that is followed by nothing. -/
theorem not_readsScope_of_dangles (hd : Dangles sc.flags s) : ¬ReadsScope sc (s ++ ')' :: u) sc' (r ++ ')' :: u) := by
  obtain ⟨w, rfl, hw⟩ := hd
  have brace : ∀ x, sc.flags.skip ('\x7b' :: x) = '\x7b' :: x := fun x => by
    have hblank : isBlank '\x7b' = false := by decide
    simp [Flags.skip, Flags.spread_outside, hblank]
  intro h
  cases h with
  | ends hs hr =>
    rw [List.cons_append, brace] at hs
    rcases hr with hr | ⟨v, hr⟩ <;> cases hs.trans hr
  | branch hs _ => cases (brace _).symm.trans hs
  | settings hs _ _ => cases (brace _).symm.trans hs
  | group hs _ _ _ _ => cases (brace _).symm.trans hs
  | set hs _ _ => cases (brace _).symm.trans hs
  | sign hs hc _ _ =>
    obtain ⟨rfl, -⟩ := List.cons.inj ((brace _).symm.trans hs)
    cases hc
  | bounds hs hbounds hrep h =>
    obtain ⟨-, rfl⟩ := List.cons.inj ((brace _).symm.trans hs)
    obtain ⟨v, rfl, -⟩ := exists_of_suffix ((h.suffix.trans (repeatLast_suffix hrep)).trans (Flags.skip_suffix _ _))
    exact not_readBounds_of_skip_eq_nil hw (readBounds_of_append hbounds)
  | atom hs _ _ =>
    rw [List.cons_append, brace] at hs
    cases hs

/-- **A group** that is read in front of a parenthesis. -/
theorem readsScope_of_append (h : ReadsScope sc (s ++ ')' :: u) sc' (r ++ ')' :: u)) : ReadsScope sc s sc' r := by
  generalize hs : s ++ ')' :: u = s' at h
  generalize hr : r ++ ')' :: u = r' at h
  induction h generalizing s r with subst hs hr
  | ends hskip hend =>
    refine .ends (Flags.skip_of_append hskip) ?_
    cases r with
    | nil => exact .inl rfl
    | cons c r =>
      rcases hend with hend | ⟨v, hend⟩
      · cases hend
      · exact .inr ⟨r, by rw [(List.cons.inj hend).1]⟩
  | branch hskip h ih =>
    obtain ⟨w, rfl, hfront⟩ := Flags.skip_cons_of_append hskip h.suffix
    exact .branch hfront (ih rfl rfl)
  | settings hskip hopen h ih =>
    obtain ⟨v, rfl, -⟩ := exists_of_suffix h.suffix
    obtain ⟨w, rfl, hfront⟩ := Flags.skip_cons_of_append hskip (readOpening_suffix hopen)
    exact .settings hfront (readOpening_of_append hopen) (ih rfl rfl)
  | group hskip hopen hname hinner h ihinner ih =>
    obtain ⟨x, rfl, -⟩ := exists_of_suffix h.suffix
    obtain ⟨v, rfl, -⟩ := exists_of_suffix (r := ')' :: x) hinner.suffix
    obtain ⟨w, rfl, hfront⟩ := Flags.skip_cons_of_append hskip (readOpening_suffix hopen)
    exact .group hfront (readOpening_of_append hopen) hname (ihinner (r := ')' :: x) rfl rfl) (ih rfl rfl)
  | set hskip hset h ih =>
    obtain ⟨v, rfl, -⟩ := exists_of_suffix h.suffix
    obtain ⟨w, rfl, hfront⟩ := Flags.skip_cons_of_append hskip (readBracket_suffix hset)
    exact .set hfront (readBracket_of_append hset) (ih rfl rfl)
  | sign hskip hc hrep h ih =>
    obtain ⟨v, rfl, -⟩ := exists_of_suffix h.suffix
    obtain ⟨w, rfl, hfront⟩ := Flags.skip_cons_of_append hskip (repeatLast_suffix hrep)
    exact .sign hfront hc (repeatLast_of_append hrep) (ih rfl rfl)
  | @bounds sc sc₁ sc' s' r' w v v' lo hi hskip hbounds hrep h ih =>
    obtain ⟨x, rfl, -⟩ := exists_of_suffix h.suffix
    have hx := repeatLast_suffix hrep
    obtain ⟨v, rfl, -⟩ := exists_of_suffix (hx.trans (sc.flags.skip_suffix v))
    obtain ⟨heq, -⟩ := Flags.skip_append_of_suffix hx
    rw [heq] at hrep
    obtain ⟨w, rfl, hfront⟩ := Flags.skip_cons_of_append hskip (readBounds_suffix hbounds)
    exact .bounds hfront (readBounds_of_append hbounds) (repeatLast_of_append hrep) (ih rfl rfl)
  | atom hskip hatom h ih =>
    obtain ⟨v, rfl, -⟩ := exists_of_suffix h.suffix
    obtain ⟨heq, -⟩ := Flags.skip_append_of_suffix (readAtom_behind hatom).suffix
    rw [heq] at hskip hatom
    obtain ⟨c, w, hw⟩ := exists_cons_of_behind (readAtom_behind hatom)
    -- An escape that looked at the parenthesis is followed by a brace, which the next round cannot read.
    rcases readAtom_of_append hatom with hatom | hd
    · exact .atom (beginsAtom_of_append hskip (by simp [hw])) hatom (ih rfl rfl)
    · exact absurd h (not_readsScope_of_dangles hd)

end MessageHead.Pattern
