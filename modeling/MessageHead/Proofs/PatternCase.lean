/-
Whether a text is read as a pattern does not depend on whether case counts.

The switch for case decides which characters a set has and what a character stands for. It decides
neither what is read where, nor what is refused, nor how deep parts are nested. So of two readers
whose switches differ in that one alone (`Flags.Alike`), the second reads what the first reads and
leaves what the first leaves (`ReadsScope.alike`). What they make of it differs in sets and
expressions only.
-/
import MessageHead.Proofs.PatternGrammar

namespace MessageHead.Pattern

variable {f g : Flags} {s r : Text} {c : Char}

/-- The switches differ in the one for case at most. -/
def Flags.Alike (f g : Flags) : Prop := ∃ on, g = { f with ignoreCase := on }

/-! ## What does not count -/

namespace Flags.Alike

theorem spread_eq (h : f.Alike g) (p : Char → Bool) (limit : Nat) (inside : Bool) (s : Text) :
    g.spread p limit inside s = f.spread p limit inside s := by
  obtain ⟨on, rfl⟩ := h
  induction s generalizing limit inside with
  | nil => rw [spread, spread]
  | cons c s ih =>
    cases inside with
    | true => rw [spread, spread, ih]
    | false =>
      rw [spread_outside, spread_outside]
      simp only [ih]

theorem take_eq (h : f.Alike g) (p : Char → Bool) (s : Text) : g.take p s = f.take p s := h.spread_eq ..

theorem skip_eq (h : f.Alike g) (s : Text) : g.skip s = f.skip s := congrArg Prod.snd (h.spread_eq ..)

theorem unicode_eq (h : f.Alike g) : g.unicode = f.unicode := by
  obtain ⟨on, rfl⟩ := h
  rfl

theorem checkLiteral_eq (h : f.Alike g) (c : Char) : g.checkLiteral c = f.checkLiteral c := by
  simp only [checkLiteral, h.unicode_eq]

/-- A set can be negated or not, whatever is in it. -/
theorem negate (h : f.Alike g) {negated : Bool} {a set : RangeSet} (hf : f.negate negated a = .ok set)
    (b : RangeSet) : ∃ set', g.negate negated b = .ok set' := by
  unfold Flags.negate at hf ⊢
  rw [h.unicode_eq]
  cases negated with
  | false => exact ⟨b, rfl⟩
  | true =>
    cases hu : f.unicode with
    | true => exact ⟨b.compl, rfl⟩
    | false =>
      rw [hu] at hf
      cases hf

end Flags.Alike

/-! ## Escapes -/

/-- The same character or assertion, or two sets. -/
inductive Atom.Alike : Atom → Atom → Prop where
  | literal (c : Char) : Alike (.literal c) (.literal c)
  | set (cs ds : RangeSet) : Alike (.set cs) (.set ds)
  | look (a : Assertion) : Alike (.look a) (.look a)

theorem Atom.Alike.refl (a : Atom) : a.Alike a := by
  cases a <;> constructor

theorem Flags.Alike.readCodePoint_eq (h : f.Alike g) (count : Nat) (s : Text) :
    readCodePoint g count s = readCodePoint f count s := by
  simp only [readCodePoint, h.skip_eq, h.take_eq, h.spread_eq, h.checkLiteral_eq]

theorem Flags.Alike.readPropertyName_eq (h : f.Alike g) (s : Text) : readPropertyName g s = readPropertyName f s := by
  simp only [readPropertyName, h.skip_eq, h.take_eq]

theorem Flags.Alike.readWordEdge_eq (h : f.Alike g) (s : Text) : readWordEdge g s = readWordEdge f s := by
  simp only [readWordEdge, wordAssertion?, h.skip_eq, h.take_eq, h.unicode_eq]

theorem readProperty_alike (h : f.Alike g) {negated : Bool} {set : RangeSet}
    (hf : readProperty f negated s = .ok (set, r)) : ∃ set', readProperty g negated s = .ok (set', r) := by
  obtain ⟨name, lacking, named, hname, hu, hnamed, hneg⟩ := readProperty_eq_ok.1 hf
  obtain ⟨set', hneg'⟩ := h.negate hneg (g.fold named)
  rw [← h.readPropertyName_eq] at hname
  exact ⟨set', readProperty_eq_ok.2 ⟨name, lacking, named, hname, h.unicode_eq.trans hu, hnamed, hneg'⟩⟩

theorem readEscape_alike (h : f.Alike g) {a : Atom} (hf : readEscape f s = .ok (a, r)) :
    ∃ b, readEscape g s = .ok (b, r) ∧ a.Alike b := by
  cases s with
  | nil => cases hf
  | cons c s =>
    rcases readEscape_cases c with ⟨count, hread⟩ | ⟨negated, hread⟩ | hread | ⟨plain, hread, hsame⟩ <;>
      rw [hread] at hf ⊢
    · rw [h.readCodePoint_eq]
      exact ⟨a, hf, .refl a⟩
    · obtain ⟨⟨cs, w⟩, hx, he⟩ := Element.map_eq_ok.1 hf
      obtain ⟨ds, hx'⟩ := readProperty_alike h hx
      cases he
      exact ⟨.set ds, by rw [hx']; rfl, .set cs ds⟩
    · rw [h.readWordEdge_eq]
      exact ⟨a, hf, .refl a⟩
    · rw [hsame g f h.unicode_eq]
      exact ⟨a, hf, .refl a⟩

/-! ## Sets -/

theorem readSetAtom_alike (h : f.Alike g) {a : Atom} (hf : readSetAtom f s = .ok (a, r)) :
    ∃ b, readSetAtom g s = .ok (b, r) ∧ a.Alike b := by
  rcases readSetAtom_eq_ok.1 hf with ⟨w, rfl, hesc⟩ | ⟨c, rfl, hc, rfl⟩
  · obtain ⟨b, hesc', hab⟩ := readEscape_alike h hesc
    exact ⟨b, readSetAtom_eq_ok.2 (.inl ⟨w, rfl, hesc'⟩), hab⟩
  · exact ⟨.literal c, readSetAtom_eq_ok.2 (.inr ⟨c, rfl, hc, rfl⟩), .refl _⟩

theorem Atom.Alike.item {a b : Atom} (hab : a.Alike b) (h : f.Alike g) {part : SetPart} (hf : a.item f = .ok part) :
    ∃ part', b.item g = .ok part' ∧ part'.depth = part.depth := by
  cases hab with
  | literal c => exact ⟨part, by rw [← hf, Atom.item, Atom.item, h.checkLiteral_eq], rfl⟩
  | set cs ds =>
    cases hf
    exact ⟨⟨ds, 0⟩, rfl, rfl⟩
  | look a => cases hf

theorem Atom.Alike.rangeEnd_eq {a b : Atom} (hab : a.Alike b) (h : f.Alike g) : b.rangeEnd g = a.rangeEnd f := by
  cases hab with
  | literal c => exact h.checkLiteral_eq c
  | set cs ds => rfl
  | look a => rfl

theorem Flags.Alike.loneHyphen_eq (h : f.Alike g) (s : Text) : loneHyphen g s = loneHyphen f s := by
  obtain ⟨on, rfl⟩ := h
  rfl

theorem readSetItem_alike (h : f.Alike g) {part : SetPart} (hf : readSetItem f s = .ok (part, r)) :
    ∃ part', readSetItem g s = .ok (part', r) ∧ part'.depth = part.depth := by
  obtain ⟨first, w, hfirst, hf⟩ := readSetItem_eq_ok.1 hf
  obtain ⟨first', hfirst', hff⟩ := readSetAtom_alike h hfirst
  rcases hf with ⟨hitem, hs, hlone⟩ | ⟨v, last, lo, hi, hs, hlone, hlast, hlo, hhi, hle, rfl⟩
  · obtain ⟨part', hitem', hdepth⟩ := hff.item h hitem
    rw [← h.skip_eq] at hs
    refine ⟨part', readSetItem_eq_ok.2 ⟨first', w, hfirst', .inl ⟨hitem', hs, fun v hv => ?_⟩⟩, hdepth⟩
    rw [h.loneHyphen_eq]
    exact hlone v hv
  · obtain ⟨last', hlast', hll⟩ := readSetAtom_alike h hlast
    rw [← h.skip_eq] at hs hlast'
    rw [← h.loneHyphen_eq] at hlone
    rw [← hff.rangeEnd_eq h] at hlo
    rw [← hll.rangeEnd_eq h] at hhi
    exact ⟨⟨.between lo hi, 0⟩, readSetItem_eq_ok.2 ⟨first', w, hfirst',
      .inr ⟨v, last', lo, hi, hs, hlone, hlast', hlo, hhi, hle, rfl⟩⟩, rfl⟩

/-- What has been read of two sets differs in the characters at most. -/
structure Bracket.Alike (b b' : Bracket) : Prop where
  negated : b'.negated = b.negated
  left : b'.left.map (·.1.depth) = b.left.map (·.1.depth)
  items : b'.items.map SetPart.depth = b.items.map SetPart.depth

namespace Bracket.Alike

variable {b b' : Bracket}

theorem refl (b : Bracket) : b.Alike b := ⟨rfl, rfl, rfl⟩

theorem add (hb : b.Alike b') {item item' : SetPart} (hitem : item'.depth = item.depth) :
    (b.add item).Alike (b'.add item') := by
  refine ⟨hb.negated, hb.left, ?_⟩
  simp only [Bracket.add, List.map_cons, hitem, hb.items]

theorem depth_right (hb : b.Alike b') : b'.right.depth = b.right.depth := by
  obtain ⟨-, -, hitems⟩ := hb
  unfold Bracket.right
  revert hitems
  rcases b.items with _ | ⟨x, _ | ⟨y, items⟩⟩ <;> rcases b'.items with _ | ⟨x', _ | ⟨y', items'⟩⟩ <;> intro hitems <;>
    simp_all

theorem depth_value (hb : b.Alike b') : (b'.value g).depth = (b.value f).depth := by
  have hleft := hb.left
  have hright := hb.depth_right
  unfold Bracket.value
  split <;> split <;> simp_all

theorem operate (hb : b.Alike b') (op : SetOperator) : (b.operate f op).Alike (b'.operate g op) := by
  exact ⟨hb.negated, congrArg some hb.depth_value, rfl⟩

theorem close (hb : b.Alike b') (h : f.Alike g) {part : SetPart} (hf : b.close f = .ok part) :
    ∃ part', b'.close g = .ok part' ∧ part'.depth = part.depth := by
  obtain ⟨set, hset, rfl⟩ := Element.map_eq_ok.1 hf
  obtain ⟨set', hset'⟩ := h.negate hset (g.fold (b'.value g).set)
  refine ⟨⟨set', 1 + (b'.value g).depth⟩, ?_, ?_⟩
  · rw [Bracket.close, hb.negated, hset']
    rfl
  · exact congrArg (1 + ·) hb.depth_value

end Bracket.Alike

theorem Flags.Alike.openBracket_eq (h : f.Alike g) (s : Text) : openBracket g s = openBracket f s := by
  simp only [openBracket, h.skip_eq, h.take_eq]

theorem ReadsBracket.alike {b b' : Bracket} {part : SetPart} (hf : ReadsBracket f b s part r) (h : f.Alike g)
    (hb : b.Alike b') : ∃ part', ReadsBracket g b' s part' r ∧ part'.depth = part.depth := by
  induction hf generalizing b' with
  | close hs hclose =>
    obtain ⟨part', hclose', hdepth⟩ := hb.close h hclose
    rw [← h.skip_eq] at hs
    exact ⟨part', .close hs hclose', hdepth⟩
  | operator hs hop _ ih =>
    obtain ⟨part', hread, hdepth⟩ := ih (hb.operate _)
    rw [← h.skip_eq] at hs
    exact ⟨part', .operator hs hop hread, hdepth⟩
  | named hs hnamed hset _ ih =>
    obtain ⟨set', hset'⟩ := h.negate hset (g.fold _)
    obtain ⟨part', hread, hdepth⟩ := @ih (b'.add ⟨set', 0⟩) (hb.add rfl)
    rw [← h.skip_eq] at hs
    exact ⟨part', .named hs hnamed hset' hread, hdepth⟩
  | nested hs hnamed hopen _ _ ihinner ih =>
    obtain ⟨item', hinner, hitem⟩ := ihinner (.refl _)
    obtain ⟨part', hread, hdepth⟩ := ih (hb.add hitem)
    rw [← h.skip_eq] at hs
    rw [← h.openBracket_eq] at hopen
    exact ⟨part', .nested hs hnamed hopen hinner hread, hdepth⟩
  | item hs hitem _ ih =>
    obtain ⟨item', hitem', hd⟩ := readSetItem_alike h hitem
    obtain ⟨part', hread, hdepth⟩ := ih (hb.add hd)
    rw [← h.skip_eq] at hs hitem'
    exact ⟨part', .item hs hitem' hread, hdepth⟩

theorem readBracket_alike (h : f.Alike g) {part : SetPart} (hf : readBracket f s = .ok (part, r)) :
    ∃ part', readBracket g s = .ok (part', r) ∧ part'.depth = part.depth := by
  obtain ⟨b, w, hopen, hf⟩ := readBracket_eq_ok.1 hf
  obtain ⟨part', hread, hdepth⟩ := hf.alike h (.refl b)
  rw [← h.openBracket_eq] at hopen
  exact ⟨part', readBracket_eq_ok.2 ⟨b, w, hopen, hread⟩, hdepth⟩

/-! ## Groups -/

theorem Flags.Alike.readBounds_eq (h : f.Alike g) (s : Text) : readBounds g s = readBounds f s := by
  simp only [readBounds, takeDigits, h.skip_eq, h.take_eq]

/-- What a parenthesis opens differs in switches that are alike. -/
inductive Opening.Alike : Opening → Opening → Prop where
  | settings {f g : Flags} (h : f.Alike g) : Alike (.settings f) (.settings g)
  | group {f g : Flags} (h : f.Alike g) (captures : Bool) (name : Option Text) :
    Alike (.group f captures name) (.group g captures name)

theorem Flags.Alike.set? (h : f.Alike g) {on : Bool} {f' : Flags} (hf : f.set? c on = some f') :
    ∃ g', g.set? c on = some g' ∧ f'.Alike g' := by
  obtain ⟨v, rfl⟩ := h
  unfold Flags.set? at hf ⊢
  split at hf <;> cases hf
  · exact ⟨_, rfl, on, rfl⟩
  all_goals exact ⟨_, rfl, v, rfl⟩

theorem Flags.Alike.read {on : Bool} {seen : List Char} (h : f.Alike g) {f' : Flags}
    (hf : f.read on seen s = .ok (f', r)) : ∃ g', g.read on seen s = .ok (g', r) ∧ f'.Alike g' := by
  induction s generalizing f g on seen with
  | nil => cases hf
  | cons c s ih =>
    rcases Flags.read_cons_eq_ok.1 hf with ⟨hend, hsign, rfl, hs⟩ | ⟨hend, hseen, ⟨hc, hf⟩ | ⟨hc, f₁, hset, hf⟩⟩
    · exact ⟨g, Flags.read_cons_eq_ok.2 (.inl ⟨hend, hsign, rfl, hs⟩), h⟩
    · obtain ⟨g', hg, h'⟩ := ih h hf
      exact ⟨g', Flags.read_cons_eq_ok.2 (.inr ⟨hend, hseen, .inl ⟨hc, hg⟩⟩), h'⟩
    · obtain ⟨g₁, hset', h₁⟩ := h.set? hset
      obtain ⟨g', hg, h'⟩ := ih h₁ hf
      exact ⟨g', Flags.read_cons_eq_ok.2 (.inr ⟨hend, hseen, .inr ⟨hc, g₁, hset', hg⟩⟩), h'⟩

theorem readGroupName_alike (h : f.Alike g) {o : Opening} (hf : readGroupName f s = .ok (o, r)) :
    ∃ o', readGroupName g s = .ok (o', r) ∧ o.Alike o' := by
  obtain ⟨name, hs, hname, hgroup, rfl⟩ := readGroupName_eq_ok.1 hf
  exact ⟨.group g true (some name), readGroupName_eq_ok.2 ⟨name, hs, hname, hgroup, rfl⟩, .group h true _⟩

theorem readOpening_alike (h : f.Alike g) {o : Opening} (hf : readOpening f s = .ok (o, r)) :
    ∃ o', readOpening g s = .ok (o', r) ∧ o.Alike o' := by
  rcases readOpening_eq_ok.1 hf with ⟨w, hs, hname⟩ | ⟨w, f', c, hs, hclose, hread, rfl⟩ | ⟨hne, hs, rfl⟩
  · obtain ⟨o', hname', ho⟩ := readGroupName_alike h hname
    rw [← h.skip_eq] at hs
    exact ⟨o', readOpening_eq_ok.2 (.inl ⟨w, hs, hname'⟩), ho⟩
  · obtain ⟨g', hread', h'⟩ := h.read hread
    rw [← h.skip_eq] at hs
    refine ⟨_, readOpening_eq_ok.2 (.inr (.inl ⟨w, g', c, hs, hclose, hread', rfl⟩)), ?_⟩
    split
    · exact .settings h'
    · exact .group h' false none
  · rw [← h.skip_eq] at hne hs
    exact ⟨_, readOpening_eq_ok.2 (.inr (.inr ⟨hne, hs, rfl⟩)), .group h true none⟩

/-! ## Parts -/

/-- How deep the part is nested and whether it can be repeated. -/
def Part.outline (part : Part) : Nat × Bool := (part.depth, part.repeatable)

theorem depthOf_congr {ps qs : List Part} (h : qs.map Part.outline = ps.map Part.outline) :
    Part.depthOf qs = Part.depthOf ps := by
  have := congrArg (List.map Prod.fst) h
  simp only [List.map_map] at this
  exact congrArg (fun depths => 1 + depths.foldl max 0) this

/-- Parts are put together in a part of their depth, whether they follow one another or are
chosen from; a single one stays as it is. -/
theorem outline_congr (join : List Part → Part) (single : ∀ p, join [p] = p)
    (several : ∀ p p' ps, (join (p :: p' :: ps)).outline = (Part.depthOf (p :: p' :: ps), true))
    {ps qs : List Part} (h : qs.map Part.outline = ps.map Part.outline) :
    (join qs).outline = (join ps).outline := by
  have hdepth := depthOf_congr h
  rcases ps with _ | ⟨p, _ | ⟨p', ps⟩⟩ <;> rcases qs with _ | ⟨q, _ | ⟨q', qs⟩⟩ <;>
    simp_all

/-- What has been read of two groups differs in expressions and the switch for case at most. -/
structure Scope.Alike (sc sc' : Scope) : Prop where
  flags : sc.flags.Alike sc'.flags
  names : sc'.names = sc.names
  branches : sc'.branches.map Part.outline = sc.branches.map Part.outline
  parts : sc'.parts.map Part.outline = sc.parts.map Part.outline

namespace Scope.Alike

variable {sc sc' : Scope}

theorem opened (h : f.Alike g) (names : List Text) : Scope.Alike { flags := f, names } { flags := g, names } :=
  ⟨h, rfl, rfl, rfl⟩

theorem add (hsc : sc.Alike sc') {part part' : Part} (hpart : part'.outline = part.outline) :
    (sc.add part).Alike (sc'.add part') :=
  ⟨hsc.flags, hsc.names, hsc.branches, by simp only [Scope.add, List.map_cons, hpart, hsc.parts]⟩

theorem outline_branch (hsc : sc.Alike sc') : sc'.branch.outline = sc.branch.outline :=
  outline_congr Part.sequence (fun _ => rfl) (fun _ _ _ => rfl)
    (by simp only [List.map_reverse, hsc.parts])

theorem outline_whole (hsc : sc.Alike sc') : sc'.whole.outline = sc.whole.outline :=
  outline_congr Part.choice (fun _ => rfl) (fun _ _ _ => rfl)
    (by simp only [List.map_reverse, List.map_cons, hsc.outline_branch, hsc.branches])

theorem nextBranch (hsc : sc.Alike sc') : sc.nextBranch.Alike sc'.nextBranch :=
  ⟨hsc.flags, hsc.names, by simp only [Scope.nextBranch, List.map_cons, hsc.outline_branch, hsc.branches], rfl⟩

theorem repeatLast (hsc : sc.Alike sc') {lo : Nat} {hi : Option Nat} {sc₁ : Scope}
    (h : sc.repeatLast lo hi s = .ok (sc₁, r)) :
    ∃ sc₁', sc'.repeatLast lo hi s = .ok (sc₁', r) ∧ sc₁.Alike sc₁' := by
  obtain ⟨part, parts, reversed, hparts, hrep, hs, rfl⟩ := repeatLast_eq_ok.1 h
  have houtline := hsc.parts
  rw [hparts, List.map_cons, List.map_eq_cons_iff] at houtline
  obtain ⟨part', parts', hparts', hpart, hrest⟩ := houtline
  have hdepth : part'.depth = part.depth := congrArg Prod.fst hpart
  refine ⟨_, repeatLast_eq_ok.2 ⟨part', parts', reversed, hparts', (congrArg Prod.snd hpart).trans hrep, hs, rfl⟩,
    hsc.flags, hsc.names, hsc.branches, ?_⟩
  simp only [List.map_cons, hrest]
  simp only [Part.outline, Part.repeated, hdepth]

end Scope.Alike

theorem plainAtom?_alike (h : f.Alike g) {e : Expr} (hf : plainAtom? f c = .ok e) : ∃ e', plainAtom? g c = .ok e' := by
  obtain ⟨on, rfl⟩ := h
  unfold plainAtom? at hf ⊢
  split at hf
  · exact ⟨e, hf⟩
  all_goals exact ⟨_, rfl⟩

theorem readAtom_alike (h : f.Alike g) {e : Expr} (hf : readAtom f s = .ok (e, r)) :
    ∃ e', readAtom g s = .ok (e', r) := by
  rcases readAtom_eq_ok.1 hf with ⟨w, a, rfl, hesc, -⟩ | ⟨c, rfl, hc, he⟩
  · obtain ⟨b, hesc', -⟩ := readEscape_alike h hesc
    exact ⟨b.expr g, readAtom_eq_ok.2 (.inl ⟨w, b, rfl, hesc', rfl⟩)⟩
  · obtain ⟨e', he'⟩ := plainAtom?_alike h he
    exact ⟨e', readAtom_eq_ok.2 (.inr ⟨c, rfl, hc, he'⟩)⟩

/-- **The case of letters decides nothing about the form of a pattern.** -/
theorem ReadsScope.alike {sc sc' sc₁ : Scope} (h : ReadsScope sc s sc₁ r) (hsc : sc.Alike sc') :
    ∃ sc₁', ReadsScope sc' s sc₁' r ∧ sc₁.Alike sc₁' := by
  induction h generalizing sc' with
  | ends hs hr => exact ⟨sc', .ends (by rw [hsc.flags.skip_eq, hs]) hr, hsc⟩
  | branch hs _ ih =>
    obtain ⟨sc₁', hread, hsc₁⟩ := ih hsc.nextBranch
    exact ⟨sc₁', .branch (by rw [hsc.flags.skip_eq, hs]) hread, hsc₁⟩
  | settings hs hopen _ ih =>
    obtain ⟨o', hopen', ho⟩ := readOpening_alike hsc.flags hopen
    cases ho with
    | @settings _ g hg =>
      obtain ⟨sc₁', hread, hsc₁⟩ := @ih { sc'.add .settings with flags := g }
        ⟨hg, hsc.names, hsc.branches, (hsc.add rfl).parts⟩
      exact ⟨sc₁', .settings (by rw [hsc.flags.skip_eq, hs]) hopen' hread, hsc₁⟩
  | @group sc _ inner _ _ _ _ _ _ captures name hs hopen hname _ _ ihinner ih =>
    obtain ⟨o', hopen', ho⟩ := readOpening_alike hsc.flags hopen
    cases ho with
    | @group _ g hg =>
      rw [← hsc.names] at ihinner hname
      obtain ⟨inner', hinner', halike⟩ := ihinner (.opened hg _)
      have hdepth : inner'.whole.depth = inner.whole.depth := congrArg Prod.fst halike.outline_whole
      have hpart : (inner'.whole.group captures).outline = (inner.whole.group captures).outline := by
        simp only [Part.group, Part.outline, hdepth]
      obtain ⟨sc₁', hread, hsc₁⟩ := @ih { sc'.add (inner'.whole.group captures) with names := inner'.names }
        ⟨hsc.flags, halike.names, hsc.branches, (hsc.add hpart).parts⟩
      exact ⟨sc₁', .group (by rw [hsc.flags.skip_eq, hs]) hopen' hname hinner' hread, hsc₁⟩
  | set hs hset _ ih =>
    obtain ⟨part', hset', hdepth⟩ := readBracket_alike hsc.flags hset
    obtain ⟨sc₁', hread, hsc₁⟩ := @ih (sc'.add { expr := .ofSet part'.set, depth := part'.depth })
      (hsc.add (congrArg (·, true) hdepth))
    exact ⟨sc₁', .set (by rw [hsc.flags.skip_eq, hs]) hset' hread, hsc₁⟩
  | sign hs hc hrep _ ih =>
    obtain ⟨sc₂, hrep', hsc₂⟩ := hsc.repeatLast hrep
    obtain ⟨sc₁', hread, hsc₁⟩ := ih hsc₂
    exact ⟨sc₁', .sign (by rw [hsc.flags.skip_eq, hs]) hc hrep' hread, hsc₁⟩
  | bounds hs hbounds hrep _ ih =>
    obtain ⟨sc₂, hrep', hsc₂⟩ := hsc.repeatLast hrep
    obtain ⟨sc₁', hread, hsc₁⟩ := ih hsc₂
    rw [← hsc.flags.skip_eq] at hs hrep'
    rw [← hsc.flags.readBounds_eq] at hbounds
    exact ⟨sc₁', .bounds hs hbounds hrep' hread, hsc₁⟩
  | atom hs hatom _ ih =>
    obtain ⟨e', hatom'⟩ := readAtom_alike hsc.flags hatom
    obtain ⟨sc₁', hread, hsc₁⟩ := @ih (sc'.add { expr := e' }) (hsc.add rfl)
    rw [← hsc.flags.skip_eq] at hs hatom'
    exact ⟨sc₁', .atom hs hatom' hread, hsc₁⟩

end MessageHead.Pattern
