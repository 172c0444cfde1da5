/-
The readers of header values as a scan: an offset that runs over the bytes of a text, and
pieces that are cut out of the text between two offsets.

A scan has no answer when it asks for what the text does not have, which is a byte past the
end or a piece with an end inside a character. Nor has it one when a round of a loop does not
get ahead, for the loop would not end.

Which of the two readers runs does not matter: they agree on every text.
-/
import MessageHead.Element.Window

namespace MessageHead

open Element (isSpacing endsName endsValue)

/-- The outcome of a scan, if it has one: an answer or an error. -/
abbrev Scan := ExceptT ParseError Option

namespace Scan

/-! ## Bytes and pieces -/

/-- `n` is the offset of a character or of the end. -/
def isBoundary (s : Text) (n : Nat) : Bool := (Utf8.cutAtByte? n s).isSome

/-- The text between two offsets, in order and both of them boundaries. -/
def piece? (s : Text) (lower upper : Nat) : Option Text := do
  let (inside, _) ← Utf8.cutAtByte? upper s
  let (_, part) ← Utf8.cutAtByte? lower inside
  return part

/-- No answer. -/
def stuck {α : Type} : Scan α := ExceptT.lift none

/-- The byte at an offset. -/
def byte (s : Text) (pos : Nat) : Scan UInt8 := ExceptT.lift (Utf8.encode s)[pos]?

/-- The text between two offsets. -/
def piece (s : Text) (lower upper : Nat) : Scan Text := ExceptT.lift (piece? s lower upper)

/-- The next byte, unless `upper` is reached. -/
def peek (s : Text) (upper pos : Nat) : Scan (Option UInt8) := do
  if pos < upper then return some (← byte s pos) else return none

/-- The byte is a character of ASCII satisfying `p`. -/
def isAscii (p : Char → Bool) (b : UInt8) : Bool := b.toNat < 0x80 && p (Char.ofNat b.toNat)

/-! ## Quotes -/

/-- The offset behind the closing quote, looked for from `pos` on. The quotes opened at
`start`. A backslash counts for two bytes, the second of which may be the first of several. -/
def skipFrom (s : Text) (start pos : Nat) : Scan Nat := do
  if pos < Utf8.size s then
    let b ← byte s pos
    if isAscii (· == '\\') b && pos + 1 < Utf8.size s then skipFrom s start (pos + 2)
    else if isAscii (· == '"') b then return pos + 1
    else skipFrom s start (pos + 1)
  else throw (.unterminatedQuote (← piece s start (Utf8.size s)))
termination_by Utf8.size s - pos

/-- The offset behind the quoted text that opens at `start`. -/
def skipQuoted (s : Text) (start : Nat) : Scan Nat := skipFrom s start (start + 1)

/-- Cuts `s` at every `delimiter` outside quotes, from `pos` on. The segment began at `start`. -/
def splitFrom (s : Text) (delimiter : UInt8) (start pos : Nat) : Scan (List Text) := do
  if pos < Utf8.size s then
    let b ← byte s pos
    if isAscii (· == '"') b then
      let next ← skipQuoted s pos
      if pos < next then splitFrom s delimiter start next else stuck
    else if b == delimiter then
      let segment ← piece s start pos
      return segment :: (← splitFrom s delimiter (pos + 1) (pos + 1))
    else splitFrom s delimiter start (pos + 1)
  else return [← piece s start (Utf8.size s)]
termination_by Utf8.size s - pos

/-- Cuts `s` at every `delimiter` outside quotes. -/
def split (s : Text) (delimiter : UInt8) : Scan (List Text) := splitFrom s delimiter 0 0

/-! ## Values

From here on `s` is read up to `upper` only. -/

section

variable (s : Text) (upper : Nat)

/-- The offset of what is no spacing. -/
def skipSpacing (pos : Nat) : Scan Nat := do
  if pos < upper then
    let b ← byte s pos
    if isAscii isSpacing b then skipSpacing (pos + 1) else return pos
  else return pos
termination_by upper - pos

/-- The offset of the first byte outside quotes that satisfies `stop`. -/
def tokenEnd (stop : Char → Bool) (pos : Nat) : Scan Nat := do
  if pos < upper then
    let b ← byte s pos
    if isAscii stop b then return pos
    else if isAscii (· == '"') b then
      let next ← skipQuoted (← piece s 0 upper) pos
      if pos < next then tokenEnd stop next else stuck
    else tokenEnd stop (pos + 1)
  else return pos
termination_by upper - pos

/-- A token without the blanks at its ends. -/
def readToken (stop : Char → Bool) (pos : Nat) : Scan (Text × Nat) := do
  let next ← tokenEnd s upper stop pos
  return (Text.trim (← piece s pos next), next)

/-- A quoted text with its escapes resolved. It opened at `start` and has been copied to `out`
up to `segment`; what has been passed since then is copied in one piece. -/
def readFrom (start : Nat) (out : Text) (segment pos : Nat) : Scan (Text × Nat) := do
  if pos < upper then
    let b ← byte s pos
    if isAscii (· == '\\') b && pos + 1 < upper then
      let copied ← piece s segment pos
      let escaped := (← piece s (pos + 1) (Utf8.size s)).head?.getD '\\'
      let next := pos + 1 + escaped.utf8Size
      readFrom start (out ++ copied ++ [escaped]) next next
    else if isAscii (· == '"') b then return (out ++ (← piece s segment pos), pos + 1)
    else readFrom start out segment (pos + 1)
  else throw (.unterminatedQuote (← piece s start upper))
termination_by upper - pos

/-- The quoted text that opens at `start`. -/
def readQuoted (start : Nat) : Scan (Text × Nat) := readFrom s upper start [] (start + 1) (start + 1)

/-- Closes a quoted value: after spacing, `upper` is reached or a delimiter follows. -/
def closeValue (value : Text) (pos : Nat) : Scan (Text × Nat) := do
  let pos ← skipSpacing s upper pos
  if (← peek s upper pos).all (isAscii endsValue) then return (value, pos)
  else
    let found := (← piece s pos (Utf8.size s)).head?.getD '\x00'
    throw (.unexpectedCharacter s found pos)

/-- Reads what follows an equals sign. -/
def readValue (pos : Nat) : Scan (Text × Nat) := do
  let pos ← skipSpacing s upper pos
  if (← peek s upper pos).any (isAscii (· == '"')) then
    let (value, pos) ← readQuoted s upper pos
    closeValue s upper value pos
  else readToken s upper endsValue pos

/-! ## Elements -/

/-- Reads a name and, when an equals sign follows, its value. -/
def readPair (pos : Nat) : Scan (Parameter × Nat) := do
  let (name, pos) ← readToken s upper endsName pos
  if (← peek s upper pos).any (isAscii (· == '=')) then
    let (value, pos) ← readValue s upper (pos + 1)
    return (⟨name, some value⟩, pos)
  else return (⟨name, none⟩, pos)

/-- Reads the parameters: a pair after each semicolon. A pair without a name is left out. -/
def readParameters (pos : Nat) : Scan (List Parameter × Nat) := do
  if pos < upper then
    let b ← byte s pos
    if isAscii (· == ';') b then
      let (p, next) ← readPair s upper (pos + 1)
      if pos < next then
        let (ps, next) ← readParameters next
        return (if p.name.isEmpty then ps else p :: ps, next)
      else stuck
    else return ([], pos)
  else return ([], pos)
termination_by upper - pos

/-- Reads one element and the comma behind it, if there is one. -/
def readElement (pos : Nat) : Scan (Element × Nat) := do
  let (head, pos) ← readPair s upper pos
  let (parameters, pos) ← readParameters s upper pos
  let pos := if (← peek s upper pos).any (isAscii (· == ',')) then pos + 1 else pos
  return (⟨head.name, head.value, parameters⟩, pos)

/-- Reads elements up to `upper`, leaving out those that say nothing. -/
def readAll (pos : Nat) : Scan (List Element × Nat) := do
  if pos < upper then
    let (e, next) ← readElement s upper pos
    if pos < next then
      let (es, next) ← readAll next
      return (if e.isVoid then es else e :: es, next)
    else stuck
  else return ([], pos)
termination_by upper - pos

end

/-! ## Windows -/

/-- Reads the elements in a window of `buffer`. -/
def parseIn (buffer : Text) (w : Window) : Option (Except ParseError (List Element) × Window) := do
  let upper := min w.upper (Utf8.size buffer)
  if upper < w.pos || !isBoundary buffer w.pos || !isBoundary buffer upper then
    return (.error (.invalidEncodedValue buffer), w)
  else
    match ← (readAll buffer upper w.pos).run with
    | .error e => return (.error e, w)
    | .ok (es, pos) => return (if es.isEmpty then .error .empty else .ok es, { w with pos })

/-- Reads a whole header value. -/
def parse (value : Text) : Option (Except ParseError (List Element)) := do
  let (answer, _) ← parseIn value (.ofBounds 0 (Utf8.size value))
  return answer

/-- Reads a window `n` times, each time as the reading before left it. -/
def calls (buffer : Text) : Nat → Window → Option (List (Except ParseError (List Element) × Window))
  | 0, _ => some []
  | n + 1, w => do
    let (answer, w) ← parseIn buffer w
    return (answer, w) :: (← calls buffer n w)

end Scan

end MessageHead
