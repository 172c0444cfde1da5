/-
Reading a message from bytes: lines of the form `name: value` up to the first empty line, and
the body behind it. A line without a colon is passed over and reported.
-/
import MessageHead.Headers.Basic
import MessageHead.Text.Utf8

namespace MessageHead.Headers

/-- Cuts `bytes` behind the first line feed. -/
def cutLine : Bytes → Bytes × Bytes
  | [] => ([], [])
  | b :: bytes =>
    if b == 0x0A then ([b], bytes)
    else
      let (line, rest) := cutLine bytes
      (b :: line, rest)

theorem append_cutLine (bytes : Bytes) : (cutLine bytes).1 ++ (cutLine bytes).2 = bytes := by
  induction bytes with
  | nil => rfl
  | cons b bytes ih =>
    simp only [cutLine]
    split <;> simp [ih]

theorem length_cutLine (b : UInt8) (bytes : Bytes) :
    (cutLine (b :: bytes)).2.length < (b :: bytes).length := by
  have h := congrArg List.length (append_cutLine bytes)
  simp only [List.length_append] at h
  simp only [cutLine]
  split
  · simp
  · simp only [List.length_cons]; omega

/-- `line` without the carriage returns and line feeds at its end. -/
def chomp (line : Text) : Text := Text.trimEndWhere (fun c => c == '\r' || c == '\n') line

/-- What a header block came to. -/
structure Reading where
  /-- The lines without a colon. -/
  ignored : List Text
  /-- The fields and the body; none when a line is not UTF-8. -/
  message : Option (Headers × Bytes)
deriving DecidableEq, Repr

/-- Reads on with the fields read before. -/
def readFrom (h : Headers) (bytes : Bytes) : Reading :=
  match bytes with
  | [] => ⟨[], some (h, [])⟩
  | b :: bytes =>
    let cut := cutLine (b :: bytes)
    match Utf8.decode? cut.1 with
    | none => ⟨[], none⟩
    | some line =>
      let line := chomp line
      if line.isEmpty then ⟨[], some (h, cut.2)⟩
      else match Text.cut ':' line with
        | some (name, value) => readFrom (h.add (Text.trim name) (Text.trim value)) cut.2
        | none =>
          let later := readFrom h cut.2
          { later with ignored := line :: later.ignored }
termination_by bytes.length
decreasing_by
  all_goals exact length_cutLine b bytes

/-- Reads a message. -/
def read (bytes : Bytes) : Reading := readFrom {} bytes

end MessageHead.Headers
