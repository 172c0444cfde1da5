/-
A header block written, followed by a blank line and a body, and read back.

The reader cuts the bytes behind each line feed, and a name or a value without one
keeps its line whole; no byte of another character is a line feed. What the reader
drops from a line is what the writer put there: the line end, the colon and a blank.
The blank line is the first one without a name, so whatever stands behind it is the
body, be it UTF-8 or not. Last, adding the lines of sound fields one by one to none
gives those fields again (`ofLines_lines`).
-/
import MessageHead.Headers.Wire
import MessageHead.Proofs.HeaderHistory
import MessageHead.Proofs.TextFacts
import MessageHead.Proofs.Utf8Facts

namespace MessageHead.Headers

variable {h : Headers} {name value : Text}

/-! ## Lines -/

theorem cutLine_append {line : Bytes} (hl : 0x0A ∉ line) (rest : Bytes) :
    cutLine (line ++ 0x0A :: rest) = (line ++ [0x0A], rest) := by
  induction line with
  | nil => rfl
  | cons b line ih =>
    simp only [List.mem_cons, not_or] at hl
    have hb : (b == 0x0A) = false := by simpa using Ne.symm hl.1
    rw [List.cons_append, cutLine, hb, ih hl.2]
    rfl

/-- What the reader does with a line, its end cut off. -/
def readLine (h : Headers) (line : Text) (rest : Bytes) : Reading :=
  if line.isEmpty then ⟨[], some (h, rest)⟩
  else match Text.cut ':' line with
    | some (name, value) => readFrom (h.add (Text.trim name) (Text.trim value)) rest
    | none =>
      let later := readFrom h rest
      { later with ignored := line :: later.ignored }

theorem readFrom_line (h : Headers) {line : Text} (hl : '\n' ∉ line) (rest : Bytes) :
    readFrom h (Utf8.encode (line ++ ['\n']) ++ rest) = readLine h (chomp (line ++ ['\n'])) rest := by
  have hfeed : (0x0A : UInt8) ∉ Utf8.encode line := fun hm =>
    hl (Utf8.mem_of_mem_encode (c := '\n') (by decide) hm)
  have hbytes : Utf8.encode (line ++ ['\n']) = Utf8.encode line ++ [0x0A] := by
    rw [Utf8.encode, List.flatMap_append]
    rfl
  have hcut : cutLine (Utf8.encode (line ++ ['\n']) ++ rest) = (Utf8.encode (line ++ ['\n']), rest) := by
    rw [hbytes, List.append_assoc]
    exact cutLine_append hfeed rest
  cases hb : Utf8.encode (line ++ ['\n']) ++ rest with
  | nil => simp [hbytes] at hb
  | cons b bytes =>
    rw [hb] at hcut
    rw [readFrom]
    simp only [hcut, Utf8.decode?_encode]
    rfl

theorem chomp_append {line : Text} (hl : ∀ c ∈ line.getLast?, isBlank c = false ∨ c = ' ') :
    chomp (line ++ ['\r', '\n']) = line := by
  have hlast : ∀ c ∈ line.reverse.head?, (c == '\r' || c == '\n') = false := by
    intro c hc
    rw [List.head?_reverse] at hc
    have hends : isBlank '\r' = true ∧ isBlank '\n' = true := by decide
    rw [Bool.or_eq_false_iff, beq_eq_false_iff_ne, beq_eq_false_iff_ne]
    constructor
    · rintro rfl
      simpa [hends.1] using hl '\r' hc
    · rintro rfl
      simpa [hends.2] using hl '\n' hc
  unfold chomp Text.trimEndWhere
  rw [List.reverse_append]
  show (line.reverse.dropWhile _).reverse = line
  rw [Text.dropWhile_eq_self hlast, List.reverse_reverse]

/-! ## Fields on the wire -/

/-- A name that a line gives back: it ends at the colon. -/
def LineName (name : Text) : Prop := Text.Trimmed name ∧ ':' ∉ name ∧ '\n' ∉ name

/-- A value that a line gives back. -/
def LineValue (value : Text) : Prop := Text.Trimmed value ∧ '\n' ∉ value

instance (name : Text) : Decidable (LineName name) := inferInstanceAs (Decidable (_ ∧ _))

instance (value : Text) : Decidable (LineValue value) := inferInstanceAs (Decidable (_ ∧ _))

/-- All names and values keep to their lines. -/
structure OnLines (h : Headers) : Prop where
  names : ∀ p ∈ h.fields, LineName p.1
  values : ∀ p ∈ h.fields, ∀ v ∈ p.2, LineValue v

/-- **A written line adds its field.** -/
theorem readFrom_renderLine (h : Headers) (hn : LineName name) (hv : LineValue value) (rest : Bytes) :
    readFrom h (Utf8.encode (renderLine (name, value)) ++ rest) = readFrom (h.add name value) rest := by
  have hline : renderLine (name, value) = (name ++ ':' :: ' ' :: value ++ ['\r']) ++ ['\n'] := by
    simp [renderLine]
  have hfeed : '\n' ∉ name ++ ':' :: ' ' :: value ++ ['\r'] := by simp [hn.2.2, hv.2]
  have hend : ∀ c ∈ (name ++ ':' :: ' ' :: value).getLast?, isBlank c = false ∨ c = ' ' := by
    intro c hc
    rw [List.getLast?_append_of_ne_nil _ (by simp), List.getLast?_cons_cons] at hc
    cases hvalue : value with
    | nil =>
      rw [hvalue] at hc
      exact .inr (by simpa using hc.symm)
    | cons d ds =>
      rw [hvalue, List.getLast?_cons_cons, ← hvalue] at hc
      exact .inl (hv.1.2 c hc)
  have hchomp : chomp ((name ++ ':' :: ' ' :: value ++ ['\r']) ++ ['\n']) = name ++ ':' :: ' ' :: value := by
    rw [List.append_assoc]
    exact chomp_append hend
  have hvalue : Text.trim (' ' :: value) = value := by
    have := Text.trim_append (a := [' ']) (by decide) hv.1 Text.Blank.nil
    rwa [List.append_nil] at this
  rw [hline, readFrom_line h hfeed, hchomp, readLine, if_neg (by simp), Text.cut_append hn.2.1]
  simp only [Text.trim_eq_self hn.1, hvalue]

theorem readFrom_blank (h : Headers) (body : Bytes) :
    readFrom h (Utf8.encode "\r\n".toList ++ body) = ⟨[], some (h, body)⟩ := by
  have hb := readFrom_line h (by decide : '\n' ∉ ['\r']) body
  have hchomp : chomp (['\r'] ++ ['\n']) = [] := by decide
  rw [hchomp] at hb
  exact hb

theorem readFrom_lines (h : Headers) {ps : List (Text × Text)}
    (hps : ∀ p ∈ ps, LineName p.1 ∧ LineValue p.2) (rest : Bytes) :
    readFrom h (Utf8.encode (ps.flatMap renderLine) ++ rest) = readFrom (h.addLines ps) rest := by
  induction ps generalizing h with
  | nil => rfl
  | cons p ps ih =>
    obtain ⟨hn, hv⟩ := hps p (by simp)
    rw [List.flatMap_cons, Utf8.encode, List.flatMap_append, List.append_assoc]
    show readFrom h (Utf8.encode (renderLine (p.1, p.2)) ++ (Utf8.encode (ps.flatMap renderLine) ++ rest)) = _
    rw [readFrom_renderLine h hn hv, ih _ fun q hq => hps q (by simp [hq])]
    rfl

/-! ## Lines added to no fields -/

theorem addLines_last {t : OrderedTable Text (List Text)} (ht : ∀ e ∈ t, Text.sameFold e.1 name = false)
    (vs ws : List Text) : addLines ⟨t ++ [(name, vs)]⟩ (ws.map (name, ·)) = ⟨t ++ [(name, vs ++ ws)]⟩ := by
  induction ws generalizing vs with
  | nil => simp [addLines]
  | cons w ws ih =>
    have hadd : add ⟨t ++ [(name, vs)]⟩ name w = ⟨t ++ [(name, vs ++ [w])]⟩ := by
      unfold add modify
      rw [OrderedTable.upsert_append ht, OrderedTable.upsert, if_pos (Text.sameFold_self name)]
    have step : addLines ⟨t ++ [(name, vs)]⟩ ((w :: ws).map (name, ·)) =
        addLines (add ⟨t ++ [(name, vs)]⟩ name w) (ws.map (name, ·)) := rfl
    rw [step, hadd, ih, List.append_assoc, List.singleton_append]

theorem addLines_new {t : OrderedTable Text (List Text)} (ht : ∀ e ∈ t, Text.sameFold e.1 name = false)
    {vs : List Text} (hvs : vs ≠ []) : addLines ⟨t⟩ (vs.map (name, ·)) = ⟨t ++ [(name, vs)]⟩ := by
  cases vs with
  | nil => exact absurd rfl hvs
  | cons v vs =>
    have hadd : add ⟨t⟩ name v = ⟨t ++ [(name, [v])]⟩ := by
      have happ := OrderedTable.upsert_append (p := fun k => Text.sameFold k name) ht name [] (· ++ [v]) []
      rw [List.append_nil] at happ
      unfold add modify
      rw [happ]
      rfl
    have step : addLines ⟨t⟩ ((v :: vs).map (name, ·)) = addLines (add ⟨t⟩ name v) (vs.map (name, ·)) := rfl
    rw [step, hadd, addLines_last ht]
    rfl

theorem addLines_lines {t u : OrderedTable Text (List Text)} (hd : OrderedTable.Distinct Text.lower (t ++ u))
    (hu : ∀ p ∈ u, p.2 ≠ []) : addLines ⟨t⟩ (lines ⟨u⟩) = ⟨t ++ u⟩ := by
  induction u generalizing t with
  | nil => simp [lines, addLines]
  | cons p u ih =>
    have hnew : ∀ e ∈ t, Text.sameFold e.1 p.1 = false := hd.before
    have hsplit : lines ⟨p :: u⟩ = p.2.map (p.1, ·) ++ lines ⟨u⟩ := rfl
    have hone := addLines_new hnew (hu p (by simp))
    have hrest := ih (t := t ++ [p]) (by simpa using hd) fun q hq => hu q (by simp [hq])
    rw [hsplit, addLines, List.foldl_append]
    show addLines (addLines ⟨t⟩ (p.2.map (p.1, ·))) (lines ⟨u⟩) = _
    rw [hone, hrest, List.append_assoc, List.singleton_append]

/-- **The lines of sound fields make these fields.** -/
theorem ofLines_lines (hs : h.Sound) : ofLines h.lines = h :=
  addLines_lines (t := []) hs.distinct hs.filled

/-! ## Round trip -/

/-- **The round trip of header blocks.** Fields whose names and values keep to their
lines, written, with a blank line and any bytes behind, are read as the same fields,
names in the same order and spelling with the same values, and those bytes as the
body. No line is passed over, and what was read is written as the same text. -/
theorem read_render (hr : Reachable h) (hw : OnLines h) (body : Bytes) :
    read (Utf8.encode (h.render ++ "\r\n".toList) ++ body) = ⟨[], some (h, body)⟩ := by
  have hps : ∀ p ∈ h.lines, LineName p.1 ∧ LineValue p.2 := by
    intro p hp
    obtain ⟨e, he, hp⟩ := List.mem_flatMap.1 hp
    obtain ⟨v, hv, rfl⟩ := List.mem_map.1 hp
    exact ⟨hw.names e he, hw.values e he v hv⟩
  have hadd : addLines {} h.lines = h := ofLines_lines hr.sound
  rw [read, Utf8.encode, List.flatMap_append, List.append_assoc]
  show readFrom {} (Utf8.encode (h.lines.flatMap renderLine) ++ (Utf8.encode "\r\n".toList ++ body)) = _
  rw [readFrom_lines {} hps, hadd, readFrom_blank]

/-- A name that has no characters, a value that has none, a carriage return inside a
value, and a body that looks like fields and is not UTF-8. -/
theorem read_render_empty_name :
    Reachable (ofLines [([], []), (['É'], ['a', ':', '\r', 'b']), ([], ['c'])]) ∧
      OnLines (ofLines [([], []), (['É'], ['a', ':', '\r', 'b']), ([], ['c'])]) ∧
      read (Utf8.encode (render (ofLines [([], []), (['É'], ['a', ':', '\r', 'b']), ([], ['c'])]) ++ "\r\n".toList)
          ++ [0x61, 0x3A, 0x62, 0x0A, 0x0A, 0xFF]) =
        ⟨[], some (ofLines [([], []), (['É'], ['a', ':', '\r', 'b']), ([], ['c'])],
          [0x61, 0x3A, 0x62, 0x0A, 0x0A, 0xFF])⟩ := by
  have hr : Reachable (ofLines [([], []), (['É'], ['a', ':', '\r', 'b']), ([], ['c'])]) :=
    .change (c := .addLines _) .empty (by simp [Change.sources])
  have hw : OnLines (ofLines [([], []), (['É'], ['a', ':', '\r', 'b']), ([], ['c'])]) := ⟨by decide, by decide⟩
  exact ⟨hr, hw, read_render hr hw _⟩

end MessageHead.Headers
