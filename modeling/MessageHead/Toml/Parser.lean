/-
TOML documents as text: comments, keys with their values, and headers, one to a line. Lists and
inline tables may run over several lines.
-/
import MessageHead.Toml.Quoted
import MessageHead.Toml.Scalar

namespace MessageHead.Toml

/-- How deep lists and inline tables may be nested. -/
def depthLimit : Nat := 80

/-- How many parts a dotted key may have. -/
def partLimit : Nat := 80

/-! ## Between values -/

/-- What follows a comment, from behind its number sign. -/
def skipComment : Text → Except Malformed Text
  | [] => .ok []
  | c :: s =>
    if isPlain c then skipComment s
    else match lineEnd? (c :: s) with
      | some _ => .ok (c :: s)
      | none => .error .text

/-- `s` without the blanks, line ends and comments in front; `inside` when it begins in a
comment. -/
def skipLines : Bool → Text → Except Malformed Text
  | _, [] => .ok []
  | _, '\n' :: s => skipLines false s
  | _, '\r' :: '\n' :: s => skipLines false s
  | true, c :: s => if isPlain c then skipLines true s else .error .text
  | false, c :: s =>
    if c == '#' then skipLines true s
    else if isGap c then skipLines false s
    else .ok (c :: s)

/-- Reads what may stand behind the contents of a line, and its end. -/
def endLine (s : Text) : Except Malformed Text := do
  let s ← match skipGap s with
    | '#' :: s => skipComment s
    | s => .ok s
  match s, lineEnd? s with
  | [], _ => return []
  | _, some s => return s
  | _, none => .error .line

/-! ## Keys -/

/-- The character may be in a key without quotes. -/
def isBare (c : Char) : Bool := c.isAlphanum || c == '_' || c == '-'

/-- Reads a key without dots. -/
def readSimpleKey (s : Text) : Except Malformed (Text × Text) :=
  match readLineText? s with
  | some r => r
  | none =>
    let (key, s) := s.span isBare
    if key.isEmpty then .error .key else .ok (key, s)

/-- Reads keys with dots between them: all but the last, and the last. Each round takes a
character at least. -/
def readKeyFrom : Nat → Text → Except Malformed ((List Text × Text) × Text)
  | 0, _ => .error .key
  | n + 1, s => do
    let (key, s) ← readSimpleKey s
    match skipGap s with
    | '.' :: s =>
      let ((path, last), s) ← readKeyFrom n (skipGap s)
      return ((key :: path, last), s)
    | s => return (([], key), s)

/-- Reads a key and the blanks behind it. -/
def readKey (s : Text) : Except Malformed ((List Text × Text) × Text) := do
  let ((path, key), s) ← readKeyFrom (s.length + 1) s
  if path.length < partLimit then return ((path, key), s) else .error .nesting

/-- Reads the sign between a key and its value on a line. -/
def readEquals (s : Text) : Except Malformed Text :=
  match skipGap s with
  | '=' :: s => .ok (skipGap s)
  | _ => .error .key

/-- Reads the sign between a key and its value in braces, where lines may end around it. -/
def readLooseEquals (s : Text) : Except Malformed Text := do
  match ← skipLines false s with
  | '=' :: s => skipLines false s
  | _ => .error .key

/-! ## Values -/

mutual

/-- Reads a value that lies in `depth` lists and tables. Each round takes a character at least. -/
def readValueFrom : Nat → Nat → Text → Except Malformed (Value × Text)
  | 0, _, _ => .error .value
  | n + 1, depth, s =>
    match s with
    | '[' :: s => if depth < depthLimit then readItems n (depth + 1) [] s else .error .nesting
    | '\x7b' :: s =>
      if depth < depthLimit then readPairs n (depth + 1) ⟨.inline, []⟩ s else .error .nesting
    | s => match readText? s with
      | some r => r.map fun (t, s) => (.text t, s)
      | none => readWord s

/-- Reads on in a list whose items so far are given, the last first. -/
def readItems : Nat → Nat → List Value → Text → Except Malformed (Value × Text)
  | 0, _, _, _ => .error .unclosed
  | n + 1, depth, items, s => do
    match ← skipLines false s with
    | ']' :: s => return (.list false items.reverse, s)
    | s =>
      let (item, s) ← readValueFrom n depth s
      match ← skipLines false s with
      | ',' :: s => readItems n depth (item :: items) s
      | ']' :: s => return (.list false (item :: items).reverse, s)
      | _ => .error .unclosed

/-- Reads on in a table in braces. -/
def readPairs : Nat → Nat → Table → Text → Except Malformed (Value × Text)
  | 0, _, _, _ => .error .unclosed
  | n + 1, depth, table, s => do
    match ← skipLines false s with
    | '\x7d' :: s => return (table.value, s)
    | s =>
      let ((path, key), s) ← readKey s
      let (v, s) ← readValueFrom n depth (← readLooseEquals s)
      let table ← table.enter path key v
      match ← skipLines false s with
      | ',' :: s => readPairs n depth table s
      | '\x7d' :: s => return (table.value, s)
      | _ => .error .unclosed

end

/-- Reads a value. -/
def readValue (s : Text) : Except Malformed (Value × Text) := readValueFrom (s.length + 1) 0 s

/-! ## Documents -/

/-- What has been read of a document. -/
structure Document where
  /-- The whole document as a table. -/
  root : Table := ⟨.header, []⟩
  /-- The path to the table that keys go into. -/
  target? : Option (List Text × Text) := none

/-- The path to the table that keys go into, with a key at its end. -/
def Document.path (d : Document) : List Text :=
  match d.target? with
  | some (path, key) => path ++ [key]
  | none => []

/-- Enters a value under a dotted key into the table that keys go into. -/
def Document.enter (d : Document) (path : List Text) (key : Text) (v : Value) :
    Except Malformed Document :=
  (Table.modify false (fun t => t.enter path key v) d.path d.root).map fun root => { d with root }

/-- Reads a header from behind its first bracket. -/
def readHeader (d : Document) (s : Text) : Except Malformed (Document × Text) := do
  match s with
  | '[' :: s => match ← readKey (skipGap s) with
    | ((path, key), ']' :: ']' :: s) =>
      return ({ root := ← d.root.openListTable path key, target? := some (path, key) }, s)
    | _ => .error .unclosed
  | s => match ← readKey (skipGap s) with
    | ((path, key), ']' :: s) =>
      return ({ root := ← d.root.openTable path key, target? := some (path, key) }, s)
    | _ => .error .unclosed

/-- Reads the contents of a line. -/
def readLine (d : Document) (s : Text) : Except Malformed (Document × Text) := do
  match s with
  | [] => return (d, [])
  | '#' :: s => return (d, '#' :: s)
  | '[' :: s => readHeader d s
  | s => match lineEnd? s with
    | some _ => return (d, s)
    | none =>
      let ((path, key), s) ← readKey s
      let (v, s) ← readValue (← readEquals s)
      return (← d.enter path key v, s)

/-- Reads on to the end of a document; each round takes a line. -/
def readLinesFrom : Nat → Document → Text → Except Malformed Document
  | 0, d, _ => .ok d
  | n + 1, d, s => do
    match skipGap s with
    | [] => return d
    | s =>
      let (d, s) ← readLine d s
      readLinesFrom n d (← endLine s)

/-- Reads a document, which may have a byte order mark in front. -/
def parse (s : Text) : Except Malformed Table :=
  let s := match s with
    | '\uFEFF' :: s => s
    | s => s
  (readLinesFrom (s.length + 1) {} s).map Document.root

end MessageHead.Toml
