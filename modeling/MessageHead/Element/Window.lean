/-
Reading the elements of one part of a larger text. A window names that part by byte offsets;
a whole header value is read through the window that covers it.
-/
import MessageHead.Element.Parser
import MessageHead.Text.Utf8

namespace MessageHead

/-- The part of a text from byte `lower` up to byte `upper`, and how far it has been read. -/
structure Window where
  lower : Nat
  upper : Nat
  pos : Nat
deriving DecidableEq, Repr

namespace Window

/-- The window between two offsets, not read yet. Bounds in the wrong order make it empty. -/
def ofBounds (lower upper : Nat) : Window := ⟨lower, max upper lower, lower⟩

/-- All of the window has been read. -/
def atEnd (w : Window) : Bool := w.upper ≤ w.pos

/-- The unread text of the window and what lies behind it in `buffer`, when the window begins
and ends between characters. A window may reach past the end of the text. -/
def cut? (buffer : Text) (w : Window) : Option (Text × Text) := do
  let (inside, behind) ← Utf8.cutAtByte? (min w.upper (Utf8.size buffer)) buffer
  let (_, unread) ← Utf8.cutAtByte? w.pos inside
  return (unread, behind)

end Window

namespace Element

/-- The error of a fault in a window over `buffer` that ends before `behind`. -/
def Fault.toError (buffer behind : Text) : Fault → ParseError
  | .unterminatedQuote opened => .unterminatedQuote opened
  | .unexpected found rest =>
    .unexpectedCharacter buffer found (Utf8.size buffer - Utf8.size behind - Utf8.size rest)

/-- Reads the elements in a window of `buffer`. The window is read to its end when there was
nothing wrong with what it holds, even if that is no element; otherwise it stays as it was. -/
def parseIn (buffer : Text) (w : Window) : Except ParseError (List Element) × Window :=
  match w.cut? buffer with
  | none => (.error (.invalidEncodedValue buffer), w)
  | some (unread, behind) =>
    let done : Window := { w with pos := min w.upper (Utf8.size buffer) }
    match readAll unread with
    | .error fault => (.error (fault.toError buffer behind), w)
    | .ok [] => (.error .empty, done)
    | .ok es => (.ok es, done)

/-- Reads a whole header value. -/
def parse (value : Text) : Except ParseError (List Element) :=
  (parseIn value (.ofBounds 0 (Utf8.size value))).1

end Element

end MessageHead
