/-
UTF-8: the bytes of a text, and the text of bytes. Reading is lossy: each maximal piece of
bytes that could begin a character but does not become one is replaced by one U+FFFD.
-/
import MessageHead.Text.Basic

namespace MessageHead.Utf8

/-- The number of bytes `s` takes. -/
def size (s : Text) : Nat := s.foldr (fun c n => c.utf8Size + n) 0

/-- Cuts `s` after its first `n` bytes; fails when that is past the end or inside a character. -/
def cutAtByte? : Nat → Text → Option (Text × Text)
  | 0, s => some ([], s)
  | _ + 1, [] => none
  | n + 1, c :: s =>
    if c.utf8Size ≤ n + 1 then
      (cutAtByte? (n + 1 - c.utf8Size) s).map fun (a, b) => (c :: a, b)
    else none

/-! ## Writing -/

/-- The continuation byte with the lowest six bits of `n`. -/
def continuation (n : Nat) : UInt8 := UInt8.ofNat (0x80 + n % 0x40)

/-- The bytes of one character. -/
def encodeChar (c : Char) : Bytes :=
  let n := c.toNat
  if n < 0x80 then [UInt8.ofNat n]
  else if n < 0x800 then [UInt8.ofNat (0xC0 + n / 0x40), continuation n]
  else if n < 0x10000 then
    [UInt8.ofNat (0xE0 + n / 0x1000), continuation (n / 0x40), continuation n]
  else
    [UInt8.ofNat (0xF0 + n / 0x40000), continuation (n / 0x1000), continuation (n / 0x40),
      continuation n]

/-- The bytes of a text. -/
def encode (s : Text) : Bytes := s.flatMap encodeChar

/-! ## Reading -/

/-- What stands for bytes that are no character. -/
def replacement : Char := '\uFFFD'

/-- How a lead byte opens a character: its own bits, how many bytes must follow, and the
range the next of them must lie in. -/
structure Opening where
  bits : Nat
  follow : Nat
  lo : UInt8
  hi : UInt8

/-- The openings of the well-formed byte sequences; the narrower ranges rule out overlong
forms, surrogates and values past U+10FFFF. -/
def opening? (b : UInt8) : Option Opening :=
  let n := b.toNat
  if 0xC2 ≤ n && n ≤ 0xDF then some ⟨n - 0xC0, 1, 0x80, 0xBF⟩
  else if n == 0xE0 then some ⟨0, 2, 0xA0, 0xBF⟩
  else if n == 0xED then some ⟨0xD, 2, 0x80, 0x9F⟩
  else if 0xE1 ≤ n && n ≤ 0xEF then some ⟨n - 0xE0, 2, 0x80, 0xBF⟩
  else if n == 0xF0 then some ⟨0, 3, 0x90, 0xBF⟩
  else if n == 0xF4 then some ⟨4, 3, 0x80, 0x8F⟩
  else if 0xF1 ≤ n && n ≤ 0xF3 then some ⟨n - 0xF0, 3, 0x80, 0xBF⟩
  else none

/-- What an opening becomes with one more of its bytes. -/
def Opening.next (o : Opening) (b : UInt8) : Opening :=
  ⟨o.bits * 0x40 + b.toNat % 0x40, o.follow - 1, 0x80, 0xBF⟩

/-- What a byte does at the start of a character: it is one, opens one, or is no start. -/
def start (b : UInt8) : Text × Option Opening :=
  if b.toNat < 0x80 then ([Char.ofNat b.toNat], none)
  else match opening? b with
    | some o => ([], some o)
    | none => ([replacement], none)

/-- Reads on with the opening of an unfinished character, if there is one. A byte that does
not continue it ends it, costs one replacement and is read again as a start. -/
def decodeFrom : Option Opening → Bytes → Text
  | none, [] => []
  | some _, [] => [replacement]
  | none, b :: bytes =>
    let (done, open?) := start b
    done ++ decodeFrom open? bytes
  | some o, b :: bytes =>
    if o.lo ≤ b && b ≤ o.hi then
      let o' := o.next b
      if o'.follow == 0 then Char.ofNat o'.bits :: decodeFrom none bytes
      else decodeFrom (some o') bytes
    else
      let (done, open?) := start b
      replacement :: done ++ decodeFrom open? bytes

/-- The text of `bytes`. -/
def decode (bytes : Bytes) : Text := decodeFrom none bytes

/-- Reads strictly, with the opening of an unfinished character if there is one. -/
def decodeFrom? : Option Opening → Bytes → Option Text
  | none, [] => some []
  | some _, [] => none
  | none, b :: bytes =>
    if b.toNat < 0x80 then (decodeFrom? none bytes).map (Char.ofNat b.toNat :: ·)
    else match opening? b with
      | some o => decodeFrom? (some o) bytes
      | none => none
  | some o, b :: bytes =>
    if o.lo ≤ b && b ≤ o.hi then
      let o' := o.next b
      if o'.follow == 0 then (decodeFrom? none bytes).map (Char.ofNat o'.bits :: ·)
      else decodeFrom? (some o') bytes
    else none

/-- The text of `bytes`, when they are well-formed from end to end. -/
def decode? (bytes : Bytes) : Option Text := decodeFrom? none bytes

end MessageHead.Utf8
