/-
What the readers of header values never do. They read no byte past the end of a text, cut no
text inside a character, go round no loop without getting ahead and leave no window in between:
a window is read to its end, or stays as it was.

A scan that did one of the first three would have no answer. Every scan has one, since it
agrees with a reader of characters (`parseIn_eq`), and a reader of characters can do none of
them.
-/
import MessageHead.Proofs.ScanAgreement

namespace MessageHead.Scan

open Utf8 (size)

variable {s buffer : Text} {w : Window} {lower pos upper : Nat}

/-! ## Where a scan has no answer -/

theorem exists_byte_iff : (∃ b, (byte s pos).run = some (.ok b)) ↔ pos < size s := by
  have hrun : (byte s pos).run = (Utf8.encode s)[pos]?.map Except.ok := by
    rw [byte]
    cases (Utf8.encode s)[pos]? <;> rfl
  rw [hrun, ← Utf8.length_encode]
  simp only [Option.map_eq_some_iff, Except.ok.injEq, exists_eq_right, List.getElem?_eq_some_iff]
  constructor
  · rintro ⟨b, hlt, -⟩
    exact hlt
  · intro hlt
    exact ⟨_, hlt, rfl⟩

theorem exists_piece_iff : (∃ part, (piece s lower upper).run = some (.ok part)) ↔
    lower ≤ upper ∧ isBoundary s lower = true ∧ isBoundary s upper = true := by
  have hrun : (piece s lower upper).run = (piece? s lower upper).map Except.ok := by
    rw [piece]
    cases piece? s lower upper <;> rfl
  rw [hrun, ← exists_piece?_iff]
  simp

/-! ## One element -/

/-- **An element gets ahead and stays in the window**, if there is anything left to read. -/
theorem readElement_advances (hlt : pos < upper) (hpos : isBoundary s pos = true)
    (hupper : isBoundary s upper = true) :
    ∃ r, (readElement s upper pos).run = some r ∧
      ∀ e next, r = .ok (e, next) → pos < next ∧ next ≤ upper ∧ isBoundary s next = true := by
  obtain ⟨rest, h⟩ := exists_piece?_iff.2 ⟨Nat.le_of_lt hlt, hpos, hupper⟩
  rw [readElement_eq h]
  cases hr : Element.readElement rest with
  | error fault => exact ⟨.error (raise s upper fault), rfl, fun e next he => by simp at he⟩
  | ok r =>
    obtain ⟨e, left⟩ := r
    refine ⟨.ok (e, upper - size left), rfl, fun e' next he => ?_⟩
    simp only [Except.ok.injEq, Prod.mk.injEq] at he
    obtain ⟨-, rfl⟩ := he
    have hleft := piece?_suffix h (Element.readElement_suffix hr)
    cases rest with
    | nil =>
      have hend := (end_of_piece? h).1
      rw [Utf8.size_nil] at hend
      omega
    | cons c rest => exact ⟨readElement_lt h hr, Nat.sub_le _ _, (isBoundary_of_piece? hleft).1⟩

/-! ## One reading after another -/

/-- The answers of a window that was read to its end. -/
def finished : Except ParseError (List Element) → Bool
  | .ok _ => true
  | .error .empty => true
  | .error _ => false

/-- **A window is read to its end or not at all.** -/
theorem window_of_parseIn (buffer : Text) (w : Window) : (Element.parseIn buffer w).2 =
    if finished (Element.parseIn buffer w).1 then { w with pos := min w.upper (size buffer) } else w := by
  cases hcut : w.cut? buffer with
  | none =>
    simp only [Element.parseIn, hcut]
    rfl
  | some r =>
    obtain ⟨unread, behind⟩ := r
    simp only [Element.parseIn, hcut]
    cases Element.readAll unread with
    | error fault => cases fault <;> rfl
    | ok es => cases es <;> rfl

theorem piece?_of_finished (h : finished (Element.parseIn buffer w).1 = true) :
    ∃ unread, piece? buffer w.pos (min w.upper (size buffer)) = some unread := by
  cases hp : piece? buffer w.pos (min w.upper (size buffer)) with
  | none =>
    simp only [Element.parseIn, cut?_eq_none hp] at h
    exact absurd h Bool.false_ne_true
  | some unread => exact ⟨unread, rfl⟩

theorem parseIn_of_finished (h : finished (Element.parseIn buffer w).1 = true) :
    Element.parseIn buffer { w with pos := min w.upper (size buffer) } =
      (.error .empty, { w with pos := min w.upper (size buffer) }) := by
  obtain ⟨unread, hp⟩ := piece?_of_finished h
  have hnil : piece? buffer (min w.upper (size buffer)) (min w.upper (size buffer)) = some [] := by
    have hend := (end_of_piece? hp).1
    have := piece?_behind (b := []) (by simpa using hp)
    rwa [hend] at this
  obtain ⟨behind, hcut, -⟩ := cut?_eq_some (w := { w with pos := min w.upper (size buffer) }) hnil
  have hread : Element.readAll [] = .ok [] := Element.readAll.eq_1
  simp only [Element.parseIn, hcut, hread]

/-- **Reading once more.** A window that was read to its end is empty; another error is the
same again. Either way the window does not change any more. -/
theorem parseIn_again (buffer : Text) (w : Window) :
    Element.parseIn buffer (Element.parseIn buffer w).2 =
      (if finished (Element.parseIn buffer w).1 then .error .empty else (Element.parseIn buffer w).1,
        (Element.parseIn buffer w).2) := by
  have hwindow := window_of_parseIn buffer w
  by_cases h : finished (Element.parseIn buffer w).1 = true
  · rw [if_pos h] at hwindow ⊢
    rw [hwindow]
    exact parseIn_of_finished h
  · rw [if_neg h] at hwindow ⊢
    conv => lhs; rw [hwindow]

theorem calls_of_unchanged {answer : Except ParseError (List Element)} (h : Element.parseIn buffer w = (answer, w))
    (n : Nat) : calls buffer n w = some (List.replicate n (answer, w)) := by
  induction n with
  | zero => rfl
  | succ n ih =>
    rw [calls, parseIn_eq, h]
    show (calls buffer n w >>= _) = _
    rw [ih]
    rfl

/-- **Every number of readings has its outcomes.** -/
theorem calls_succ (buffer : Text) (w : Window) (n : Nat) :
    calls buffer (n + 1) w = some (Element.parseIn buffer w ::
      List.replicate n (Element.parseIn buffer (Element.parseIn buffer w).2)) := by
  have hagain := parseIn_again buffer w
  have hrest := calls_of_unchanged hagain n
  rw [calls, parseIn_eq, hagain]
  show (calls buffer n (Element.parseIn buffer w).2 >>= _) = _
  rw [hrest]
  rfl

/-! ## Safety -/

/-- **The readers of header values are safe.** A scan has no answer as soon as it asks for a byte
that the text does not have or cuts where no character begins, or goes round a loop without
getting ahead. Yet every window of every buffer can be read any number of times, and every text
can be split at every delimiter of ASCII.

The first reading answers what the reader of characters does. The window is then read to its
end, if the answer is elements or that there are none, and is as it was after every other error;
further readings leave it there, and answer that it is empty or with the same error again. An
element that is read in a window takes at least one byte of what is left, never more than what
is left, and no part of a character. -/
theorem scan_safe (buffer : Text) :
    ((∀ pos, (∃ b, (byte buffer pos).run = some (.ok b)) ↔ pos < size buffer) ∧
      ∀ lower upper, (∃ part, (piece buffer lower upper).run = some (.ok part)) ↔
        lower ≤ upper ∧ isBoundary buffer lower = true ∧ isBoundary buffer upper = true) ∧
    (∀ w : Window, ∃ answer w', Element.parseIn buffer w = (answer, w') ∧
      w' = (if finished answer then { w with pos := min w.upper (size buffer) } else w) ∧
      ∀ n, calls buffer (n + 1) w =
        some ((answer, w') :: List.replicate n (if finished answer then .error .empty else answer, w'))) ∧
    (∀ pos upper, pos < upper → isBoundary buffer pos = true → isBoundary buffer upper = true →
      ∃ r, (readElement buffer upper pos).run = some r ∧
        ∀ e next, r = .ok (e, next) → pos < next ∧ next ≤ upper ∧ isBoundary buffer next = true) ∧
    (∀ delimiter : UInt8, delimiter.toNat < 0x80 →
      (split buffer delimiter).run = some (Quoted.split? (Char.ofNat delimiter.toNat) buffer)) := by
  refine ⟨⟨fun pos => exists_byte_iff, fun lower upper => exists_piece_iff⟩, fun w => ?_,
    fun pos upper hlt hpos hupper => readElement_advances hlt hpos hupper, fun delimiter hd => split_eq hd buffer⟩
  refine ⟨(Element.parseIn buffer w).1, (Element.parseIn buffer w).2, rfl, window_of_parseIn buffer w, fun n => ?_⟩
  rw [calls_succ, parseIn_again]

/-- A backslash before a character of two bytes, in quotes and at the end of the text. -/
theorem scan_safe_escaped :
    (0 < 5 ∧ isBoundary ['"', '\\', 'é', '"', '\\', 'é'] 0 = true ∧
      isBoundary ['"', '\\', 'é', '"', '\\', 'é'] 5 = true ∧ (0x3b : UInt8).toNat < 0x80) ∧
    (∃ r, (readElement ['"', '\\', 'é', '"', '\\', 'é'] 5 0).run = some r ∧
      ∀ e next, r = .ok (e, next) → 0 < next ∧ next ≤ 5 ∧
        isBoundary ['"', '\\', 'é', '"', '\\', 'é'] next = true) ∧
    (split ['"', '\\', 'é', '"', '\\', 'é'] 0x3b).run =
      some (Quoted.split? ';' ['"', '\\', 'é', '"', '\\', 'é']) := by
  have hsafe := scan_safe ['"', '\\', 'é', '"', '\\', 'é']
  exact ⟨by decide, hsafe.2.2.1 0 5 (by decide) (by decide) (by decide), hsafe.2.2.2 0x3b (by decide)⟩

end MessageHead.Scan
