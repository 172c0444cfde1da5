/-
The physical layout of a table.

A table is a list of logical lines. How they are written is of no account: between them stand
blank lines and comments, in front of every line blanks, and a logical line may be cut into
pieces, each but the last with a backslash behind it (`Layout`).

The reader goes line by line and keeps what it has of a cut line in front of the next one. Only
that tells it where it is: without anything kept a line may be blank or a comment, and behind a
cut it is a piece, whatever it begins with. A piece is never empty, so that something is kept
behind every cut.
-/
import MessageHead.Proofs.TextFacts
import MessageHead.Registry.Table

namespace MessageHead.Registry

/-! ## Layouts -/

/-- The end of a physical line. -/
def LineEnd (e : Text) : Prop := e = ['\n'] ∨ e = ['\r', '\n']

/-- Blanks in front of a line. -/
structure Indent (i : Text) : Prop where
  blank : Text.Blank i
  oneLine : '\n' ∉ i

/-- What begins with one of the two marks of a comment. -/
def Comment (s : Text) : Prop := s.head? = some '#' ∨ s.head? = some '!'

/-- A line without an entry: a blank one, or a comment, which may end in backslashes. -/
inductive Passed : Text → Prop
  | blank {i : Text} : Indent i → Passed i
  | comment {i s : Text} : Indent i → Comment s → '\n' ∉ s → Passed (i ++ s)

/-- The last piece of a logical line. -/
structure Closing (l : Text) : Prop where
  nonempty : l ≠ []
  oneLine : '\n' ∉ l
  trimmed : Text.Trimmed l
  closed : l.getLast? ≠ some '\\'

/-- A logical line: not empty, on one line, without blanks at its ends, no comment, and without
a backslash at its end. -/
structure Logical (l : Text) : Prop extends Closing l where
  entry : ¬Comment l

/-- A logical line on physical lines, without the end of the last one: in one piece, or cut
behind a first piece, what is left being written in the same way. No piece is empty, begins with
a blank or ends in a backslash. -/
inductive Folded : Text → Text → Prop
  | whole {i l : Text} : Indent i → Folded l (i ++ l)
  | cut {i piece e l s : Text} : Indent i → piece ≠ [] → piece.getLast? ≠ some '\\' → LineEnd e → l ≠ [] → Text.Flush l →
      Folded l s → Folded (piece ++ l) (i ++ piece ++ '\\' :: (e ++ s))

/-- Logical lines as the text of a table. The last physical line may be without its end. -/
inductive Layout : List Text → Text → Prop
  | last {p : Text} : Passed p → Layout [] p
  | lastLine {l s : Text} : Folded l s → Layout [l] s
  | passed {p e t : Text} {ls : List Text} : Passed p → LineEnd e → Layout ls t → Layout ls (p ++ (e ++ t))
  | line {l s e t : Text} {ls : List Text} : Folded l s → LineEnd e → Layout ls t → Layout (l :: ls) (s ++ (e ++ t))

variable {i l p s t e kept piece text : Text} {ls lines : List Text} {r : Registry}

theorem Indent.nil : Indent [] := ⟨.nil, List.not_mem_nil⟩

theorem layout_join (lines : List Text) : Layout lines (Text.join ['\n'] lines) := by
  induction lines with
  | nil => exact .last (.blank .nil)
  | cons l lines ih =>
    cases lines with
    | nil => exact .lastLine (.whole .nil)
    | cons l' lines =>
      rw [Text.join_cons _ (List.cons_ne_nil _ _), List.append_assoc]
      exact .line (.whole .nil) (.inl rfl) ih

/-! ## Physical lines -/

/-- A line without the carriage return of its end. -/
def dropReturn (line : Text) : Text := (Text.dropTail? ['\r'] line).getD line

theorem dropReturn_append (s : Text) : dropReturn (s ++ ['\r']) = s := by
  rw [dropReturn, Text.dropTail?_append, Option.getD_some]

theorem dropReturn_eq_self (h : s.getLast? ≠ some '\r') : dropReturn s = s := by
  unfold dropReturn
  cases hdrop : Text.dropTail? ['\r'] s with
  | none => rfl
  | some t =>
    rw [Text.dropTail?_eq_some_iff.1 hdrop] at h
    simp at h

theorem trim_dropReturn (s : Text) : Text.trim (dropReturn s) = Text.trim s := by
  have hblank : Text.Blank ['\r'] := by decide
  by_cases h : s.getLast? = some '\r'
  · obtain ⟨t, rfl⟩ := List.getLast?_eq_some_iff.1 h
    rw [dropReturn_append, Text.trim_append_blank hblank]
  · rw [dropReturn_eq_self h]

theorem physicalLines_append (h : '\n' ∉ s) (t : Text) :
    physicalLines (s ++ '\n' :: t) = dropReturn s :: physicalLines t := by
  unfold physicalLines
  rw [Text.pieces_append h]
  cases hp : Text.pieces '\n' t with
  | nil => exact absurd hp (Text.pieces_ne_nil _ _)
  | cons q qs => rfl

theorem physicalLines_of_not_mem (h : '\n' ∉ s) : physicalLines s = if s.isEmpty then [] else [s] := by
  unfold physicalLines
  rw [Text.pieces_of_not_mem h]
  rfl

/-- The text behind the body of a line ends that line, and begins the lines `ls`. -/
def Ends (t : Text) (ls : List Text) : Prop :=
  ∀ s, s ≠ [] → '\n' ∉ s → s.getLast? ≠ some '\r' → physicalLines (s ++ t) = s :: ls

theorem ends_nil : Ends [] [] := by
  intro s hne hs _
  rw [List.append_nil, physicalLines_of_not_mem hs, if_neg (by simpa using hne)]

theorem ends_lineEnd (he : LineEnd e) (t : Text) : Ends (e ++ t) (physicalLines t) := by
  intro s _ hs hlast
  rcases he with rfl | rfl
  · exact (physicalLines_append hs t).trans (by rw [dropReturn_eq_self hlast])
  · have hr : '\n' ∉ s ++ ['\r'] := by simp [hs]
    have := physicalLines_append hr t
    rwa [dropReturn_append, List.append_assoc] at this

/-- A line that is passed over may lose more than its end, but no more than blanks. -/
theorem physicalLines_passed (hs : '\n' ∉ s) (he : LineEnd e) (t : Text) :
    ∃ raw, physicalLines (s ++ (e ++ t)) = raw :: physicalLines t ∧ Text.trim raw = Text.trim s := by
  rcases he with rfl | rfl
  · exact ⟨_, physicalLines_append hs t, trim_dropReturn s⟩
  · have hr : '\n' ∉ s ++ ['\r'] := by simp [hs]
    have := physicalLines_append hr t
    rw [dropReturn_append, List.append_assoc] at this
    exact ⟨s, this, rfl⟩

/-! ## Reading one line -/

theorem isComment_iff : isComment s = true ↔ Comment s := by
  cases s with
  | nil => simp [isComment, Comment]
  | cons c s =>
    unfold isComment Comment
    split <;> simp_all

theorem Comment.flush (h : Comment s) : Text.Flush s := by
  intro c hc
  rcases h with h | h
  · rw [h] at hc
    cases hc
    decide
  · rw [h] at hc
    cases hc
    decide

/-- One backslash more at the end makes the other answer. -/
theorem continues_snoc (s : Text) : continues (s ++ ['\\']) = !continues s := by
  unfold continues
  rw [List.reverse_append, List.reverse_singleton, List.singleton_append, List.takeWhile_cons_of_pos rfl,
    List.length_cons, Bool.eq_iff_iff, Bool.not_eq_true', beq_iff_eq, beq_eq_false_iff_ne]
  omega

theorem continues_eq_false (h : s.getLast? ≠ some '\\') : continues s = false := by
  unfold continues
  rw [← List.head?_reverse] at h
  cases hs : s.reverse with
  | nil => rfl
  | cons c t =>
    rw [hs] at h
    have hc : (c == '\\') = false := by simpa using h
    simp only [List.takeWhile_cons, hc]
    rfl

theorem trim_indented (hi : Indent i) (hs : Text.Trimmed s) (kept : Text) :
    (if kept.isEmpty then Text.trim (i ++ s) else Text.trimStart (i ++ s)) = s := by
  split
  · have := Text.trim_append hi.blank hs .nil
    rwa [List.append_nil] at this
  · rw [Text.trimStart, List.dropWhile_append_of_pos hi.blank, Text.dropWhile_eq_self hs.1]

/-- **The last piece** of a logical line ends it. -/
theorem logicalFrom_closing (hi : Indent i) (hl : Closing l) (hentry : kept = [] → ¬Comment l) (ls : List Text) :
    logicalFrom kept ((i ++ l) :: ls) = (kept ++ l) :: logicalFrom [] ls := by
  have hkept : ¬(kept.isEmpty && (l.isEmpty || isComment l)) = true := by
    simp only [Bool.and_eq_true, Bool.or_eq_true, List.isEmpty_iff, isComment_iff]
    exact fun h => h.2.elim hl.nonempty (hentry h.1)
  rw [logicalFrom]
  simp only [trim_indented hi hl.trimmed, if_neg hkept, continues_eq_false hl.closed, Bool.false_eq_true, if_false]

/-- **A piece behind which the line is cut** is kept. -/
theorem logicalFrom_cut (hi : Indent i) (hne : piece ≠ []) (hclosed : piece.getLast? ≠ some '\\')
    (hflush : Text.Flush piece) (hentry : kept = [] → ¬Comment piece) (ls : List Text) :
    logicalFrom kept ((i ++ piece ++ ['\\']) :: ls) = logicalFrom (kept ++ piece) ls := by
  have hh : (piece ++ ['\\']).head? = piece.head? := by
    cases piece with
    | nil => exact absurd rfl hne
    | cons c piece => rfl
  have htrimmed : Text.Trimmed (piece ++ ['\\']) := by
    refine ⟨fun c hc => hflush c (hh ▸ hc), fun c hc => ?_⟩
    rw [List.getLast?_concat] at hc
    cases hc
    decide
  have hkept : ¬(kept.isEmpty && ((piece ++ ['\\']).isEmpty || isComment (piece ++ ['\\']))) = true := by
    simp only [Bool.and_eq_true, Bool.or_eq_true, List.isEmpty_iff, isComment_iff, Comment, hh]
    exact fun h => h.2.elim (by simp) (hentry h.1)
  rw [List.append_assoc, logicalFrom]
  simp only [trim_indented hi htrimmed, if_neg hkept, continues_snoc, continues_eq_false hclosed, Bool.not_false,
    if_true, List.dropLast_concat]

theorem logicalFrom_passed (hp : Passed p) {raw : Text} (hraw : Text.trim raw = Text.trim p) (ls : List Text) :
    logicalFrom [] (raw :: ls) = logicalFrom [] ls := by
  have hpass : ((Text.trim raw).isEmpty || isComment (Text.trim raw)) = true := by
    rw [hraw, Bool.or_eq_true, isComment_iff, List.isEmpty_iff]
    cases hp with
    | blank hi =>
      have := Text.trim_append hi.blank (s := []) (by decide) .nil
      exact .inl (by simpa using this)
    | comment hi hs _ =>
      rw [Text.trim_blank_append hi.blank]
      exact .inr (by rwa [Comment, Text.head?_trim hs.flush])
  simp only [logicalFrom, List.isEmpty_nil, if_true, Bool.true_and, hpass]

theorem Passed.oneLine (hp : Passed p) : '\n' ∉ p := by
  cases hp with
  | blank hi => exact hi.oneLine
  | comment hi _ hs => simp [hi.oneLine, hs]

/-! ## Reading a logical line -/

theorem Closing.not_return (hl : Closing l) (i : Text) : (i ++ l).getLast? ≠ some '\r' := by
  rw [List.getLast?_append, List.getLast?_eq_some_getLast hl.nonempty, Option.some_or]
  intro h
  have hb := hl.trimmed.2 '\r' (by rw [List.getLast?_eq_some_getLast hl.nonempty, h]; rfl)
  exact absurd hb (by decide)

/-- What is left of a line behind a cut is one that ends it. -/
theorem Closing.rest (h : Closing (piece ++ l)) (hne : l ≠ []) (hflush : Text.Flush l) :
    Closing l := by
  have hlast : (piece ++ l).getLast? = l.getLast? := by
    rw [List.getLast?_append, List.getLast?_eq_some_getLast hne, Option.some_or]
  exact ⟨hne, fun hm => h.oneLine (by simp [hm]), ⟨hflush, fun c hc => h.trimmed.2 c (hlast ▸ hc)⟩, hlast ▸ h.closed⟩

/-- **A logical line is read as it is**, however it is cut, behind what is kept. -/
theorem logicalFrom_folded (hs : Folded l s) (hl : Closing l) (hentry : kept = [] → ¬Comment l) (ht : Ends t ls) :
    logicalFrom kept (physicalLines (s ++ t)) = (kept ++ l) :: logicalFrom [] ls := by
  induction hs generalizing kept with
  | @whole i l hi =>
    have hne : i ++ l ≠ [] := by simp [hl.nonempty]
    have hline : '\n' ∉ i ++ l := by simp [hi.oneLine, hl.oneLine]
    rw [ht _ hne hline (hl.not_return i)]
    exact logicalFrom_closing hi hl hentry ls
  | @cut i piece e l s hi hne hclosed he hlne hflush _ ih =>
    have hfront : (piece ++ l).head? = piece.head? := by
      cases piece with
      | nil => exact absurd rfl hne
      | cons c piece => rfl
    have hline : '\n' ∉ i ++ piece ++ ['\\'] := by
      have := hl.oneLine
      simp only [List.mem_append, not_or] at this
      simp [hi.oneLine, this.1]
    have hphysical := ends_lineEnd he (s ++ t) (i ++ piece ++ ['\\']) (by simp) hline (by simp)
    have htext : i ++ piece ++ '\\' :: (e ++ s) ++ t = i ++ piece ++ ['\\'] ++ (e ++ (s ++ t)) := by simp
    have hkept : kept ++ piece = [] → ¬Comment l := by simp [hne]
    have hpiece : Text.Flush piece := fun c hc => hl.trimmed.1 c (hfront ▸ hc)
    have hcomment : kept = [] → ¬Comment piece := by
      rwa [Comment, hfront] at hentry
    rw [htext, hphysical, logicalFrom_cut hi hne hclosed hpiece hcomment, ih (hl.rest hlne hflush) hkept,
      List.append_assoc]

/-! ## Reading a table -/

/-- **A layout is read as the lines it was made of.** -/
theorem logicalLines_layout (ht : Layout lines text) (hl : ∀ l ∈ lines, Logical l) : logicalLines text = lines := by
  unfold logicalLines
  induction ht with
  | @last p hp =>
    rw [physicalLines_of_not_mem hp.oneLine]
    split
    · rfl
    · rw [logicalFrom_passed hp rfl]
      rfl
  | @lastLine l s hs =>
    have hl := hl l (by simp)
    have hread : logicalFrom [] (physicalLines (s ++ [])) = ([] ++ l) :: logicalFrom [] [] :=
      logicalFrom_folded hs hl.toClosing (fun _ => hl.entry) ends_nil
    rwa [List.append_nil] at hread
  | @passed p e t ls hp he _ ih =>
    obtain ⟨raw, hlines, hraw⟩ := physicalLines_passed hp.oneLine he t
    rw [hlines, logicalFrom_passed hp hraw]
    exact ih hl
  | @line l s e t ls hs he _ ih =>
    obtain ⟨hl, hls⟩ := List.forall_mem_cons.1 hl
    rw [logicalFrom_folded hs hl.toClosing (fun _ => hl.entry) (ends_lineEnd he t), ih hls]
    rfl

/-- **The layout of a table does not matter.** Logical lines are read as they are from any text
that they are written as, and any registry that loads it counts the same entries and comes to the
same as if it had loaded each logical line on a line of its own. -/
theorem load_layout (hl : ∀ l ∈ lines, Logical l) (ht : Layout lines text) :
    logicalLines text = lines ∧ ∀ r : Registry, r.load text = r.load (Text.join ['\n'] lines) := by
  have htext := logicalLines_layout ht hl
  refine ⟨htext, fun r => ?_⟩
  have htable : readTable text = readTable (Text.join ['\n'] lines) := by
    rw [readTable, readTable, htext, logicalLines_layout (layout_join lines) hl]
  rw [load, load, htable]

/-- A comment that ends in a backslash, a blank line, and an entry in three pieces, the second of
which looks like a comment; the line of the second entry has no end. -/
theorem load_layout_folded :
    let text := " # c\\\r\n\t\n t/x = A\\\\b \\\r\n\t# c\\\n  | x\r\n! c\nt/y = | y".toList
    let lines := ["t/x = A\\\\b # c| x".toList, "t/y = | y".toList]
    (∀ l ∈ lines, Logical l) ∧ Layout lines text ∧ logicalLines text = lines ∧
      ∀ r : Registry, r.load text = r.load (Text.join ['\n'] lines) := by
  intro text lines
  have hblank : Indent [' '] := ⟨by decide, by decide⟩
  have htab : Indent ['\t'] := ⟨by decide, by decide⟩
  have hlines : ∀ l ∈ lines, Logical l := by
    refine List.forall_mem_cons.2 ⟨?_, List.forall_mem_singleton.2 ?_⟩
    all_goals refine ⟨⟨by decide, by decide, by decide, by decide⟩, ?_⟩
    all_goals rw [← isComment_iff]
    all_goals decide
  have hfirst : Folded ("t/x = A\\\\b ".toList ++ ("# c".toList ++ "| x".toList))
      ([' '] ++ "t/x = A\\\\b ".toList ++ '\\' :: (['\r', '\n'] ++ (['\t'] ++ "# c".toList ++ '\\' ::
        (['\n'] ++ ([' ', ' '] ++ "| x".toList))))) := by
    refine .cut hblank (by decide) (by decide) (.inr rfl) (by decide) (by decide) ?_
    refine .cut htab (by decide) (by decide) (.inl rfl) (by decide) (by decide) ?_
    exact .whole ⟨by decide, by decide⟩
  have hlast : Layout ["t/y = | y".toList] "t/y = | y".toList := .lastLine (.whole .nil)
  have hlayout : Layout lines text := by
    refine .passed (p := [' '] ++ "# c\\".toList) (e := ['\r', '\n']) (.comment hblank (.inl rfl) (by decide)) (.inr rfl) ?_
    refine .passed (p := ['\t']) (e := ['\n']) (.blank htab) (.inl rfl) ?_
    refine .line (e := ['\r', '\n']) hfirst (.inr rfl) ?_
    exact .passed (p := [] ++ "! c".toList) (e := ['\n']) (.comment .nil (.inr rfl) (by decide)) (.inl rfl) hlast
  exact ⟨hlines, hlayout, load_layout hlines hlayout⟩

end MessageHead.Registry
