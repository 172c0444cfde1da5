/-
The pieces and the bytes of a text that is read by offsets.

A piece that ends at `upper` is the rest of a reader: `piece? s pos upper = some rest` says that
a scan at `pos` has `rest` before it, and the lemmas on pieces follow it from one rest to the
next. A scan takes most characters byte by byte, and its backslash takes the first byte of the
character it hides; it gets over the remaining bytes because no byte of a longer character is
one of ASCII (`byte_eq`), so no offset inside a character is ever one to cut at.
-/
import MessageHead.Element.Scan
import MessageHead.Proofs.ByteOffsets

namespace MessageHead.Scan

open Utf8 (size)

variable {s part rest : Text} {lower pos upper i : Nat}

/-! ## Pieces -/

theorem isBoundary_iff {n : Nat} : isBoundary s n = true ↔ ∃ front behind, front ++ behind = s ∧ size front = n := by
  simp only [isBoundary, Option.isSome_iff_exists, Prod.exists, Utf8.cutAtByte?_eq_some_iff]

theorem piece?_eq_some_iff : piece? s lower upper = some part ↔
    ∃ front behind, front ++ (part ++ behind) = s ∧ size front = lower ∧ lower + size part = upper := by
  simp only [piece?, Option.bind_eq_bind, Option.bind_eq_some_iff, Prod.exists, Utf8.cutAtByte?_eq_some_iff,
    Option.pure_def, Option.some.injEq]
  constructor
  · rintro ⟨inside, behind, ⟨rfl, rfl⟩, front, _, ⟨rfl, rfl⟩, rfl⟩
    exact ⟨front, behind, by simp, rfl, by simp⟩
  · rintro ⟨front, behind, rfl, rfl, rfl⟩
    exact ⟨front ++ part, behind, ⟨by simp, by simp⟩, front, part, ⟨rfl, rfl⟩, rfl⟩

/-- **What can be cut out of a text**: what lies between two boundaries in order. -/
theorem exists_piece?_iff : (∃ part, piece? s lower upper = some part) ↔
    lower ≤ upper ∧ isBoundary s lower = true ∧ isBoundary s upper = true := by
  simp only [piece?_eq_some_iff, isBoundary_iff]
  constructor
  · rintro ⟨part, front, behind, rfl, rfl, rfl⟩
    exact ⟨by omega, ⟨front, part ++ behind, rfl, rfl⟩, front ++ part, behind, by simp, by simp⟩
  · rintro ⟨hle, ⟨a, b, rfl, rfl⟩, a', b', h, rfl⟩
    rcases List.append_eq_append_iff.1 h with ⟨t, rfl, rfl⟩ | ⟨t, rfl, rfl⟩
    · have ht : t = [] := by
        by_cases ht : t = []
        · exact ht
        · have := Utf8.size_pos ht
          rw [Utf8.size_append] at hle
          omega
      subst ht
      exact ⟨[], a', b, by simp, by simp, by simp⟩
    · exact ⟨t, a, b', by simp, rfl, by simp⟩

theorem isBoundary_of_piece? (h : piece? s lower upper = some part) :
    isBoundary s lower = true ∧ isBoundary s upper = true :=
  (exists_piece?_iff.1 ⟨part, h⟩).2

theorem end_of_piece? (h : piece? s pos upper = some rest) : pos + size rest = upper ∧ upper ≤ size s := by
  obtain ⟨front, behind, rfl, rfl, rfl⟩ := piece?_eq_some_iff.1 h
  simp only [Utf8.size_append, true_and]
  omega

theorem pos_eq (h : piece? s pos upper = some rest) : pos = upper - size rest := by
  have := (end_of_piece? h).1
  omega

theorem piece?_front {a b : Text} (h : piece? s pos upper = some (a ++ b)) :
    piece? s pos (pos + size a) = some a := by
  obtain ⟨front, behind, rfl, rfl, rfl⟩ := piece?_eq_some_iff.1 h
  exact piece?_eq_some_iff.2 ⟨front, b ++ behind, by simp, rfl, rfl⟩

theorem piece?_nil (h : piece? s pos upper = some rest) : piece? s pos pos = some [] := by
  have := piece?_front (a := []) h
  simpa using this

theorem piece?_behind {a b : Text} (h : piece? s pos upper = some (a ++ b)) :
    piece? s (pos + size a) upper = some b := by
  obtain ⟨front, behind, rfl, rfl, rfl⟩ := piece?_eq_some_iff.1 h
  exact piece?_eq_some_iff.2 ⟨front ++ a, behind, by simp, by simp, by simp [Nat.add_assoc]⟩

theorem piece?_cons {c : Char} (h : piece? s pos upper = some (c :: rest)) :
    piece? s (pos + c.utf8Size) upper = some rest :=
  piece?_behind (a := [c]) h

theorem piece?_mark {c : Char} (h : piece? s pos upper = some (c :: rest)) (hc : c.toNat < 0x80) :
    piece? s (pos + 1) upper = some rest := by
  have := piece?_cons h
  rwa [Utf8.utf8Size_eq_one_iff.2 hc] at this

theorem piece?_join {a b : Text} (ha : piece? s lower pos = some a) (hb : piece? s pos upper = some b) :
    piece? s lower upper = some (a ++ b) := by
  obtain ⟨front, behind, rfl, rfl, rfl⟩ := piece?_eq_some_iff.1 ha
  obtain ⟨front', behind', he, hpos, rfl⟩ := piece?_eq_some_iff.1 hb
  -- Both cuts at `pos` leave the same behind them.
  have hcut := Utf8.cutAtByte?_eq_some_iff.2 ⟨he, hpos⟩
  have hcut' := Utf8.cutAtByte?_append (front ++ a) behind
  rw [Utf8.size_append, List.append_assoc, hcut] at hcut'
  simp only [Option.some.injEq, Prod.mk.injEq] at hcut'
  obtain ⟨-, rfl⟩ := hcut'
  exact piece?_eq_some_iff.2 ⟨front, behind', by simp, rfl, by simp [Nat.add_assoc]⟩

theorem piece?_suffix {left : Text} (h : piece? s pos upper = some rest) (hs : left <:+ rest) :
    piece? s (upper - size left) upper = some left := by
  obtain ⟨used, rfl⟩ := hs
  have hend := (end_of_piece? h).1
  rw [Utf8.size_append] at hend
  have hpos : upper - size left = pos + size used := by omega
  rw [hpos]
  exact piece?_behind h

theorem lt_of_suffix {c : Char} {left : Text} (h : piece? s pos upper = some (c :: rest)) (hs : left <:+ rest) :
    pos < upper - size left := by
  have hend := (end_of_piece? h).1
  have hle := Utf8.size_le_of_suffix hs
  have hc := c.utf8Size_pos
  rw [Utf8.size_cons] at hend
  omega

theorem piece?_used {used left : Text} (h : piece? s pos upper = some (used ++ left)) :
    piece? s pos (upper - size left) = some used := by
  have hend := (end_of_piece? h).1
  rw [Utf8.size_append] at hend
  have hupper : upper - size left = pos + size used := by omega
  rw [hupper]
  exact piece?_front h

theorem piece?_on (h : piece? s pos upper = some rest) : ∃ behind, piece? s pos (size s) = some (rest ++ behind) := by
  obtain ⟨front, behind, rfl, rfl, rfl⟩ := piece?_eq_some_iff.1 h
  exact ⟨behind, piece?_eq_some_iff.2 ⟨front, [], by simp, rfl, by simp⟩⟩

/-- The rest is also the rest of the text cut at its end. -/
theorem piece?_inside (h : piece? s pos upper = some rest) :
    ∃ inside, piece? s 0 upper = some inside ∧ size inside = upper ∧ piece? inside pos upper = some rest := by
  obtain ⟨front, behind, rfl, rfl, rfl⟩ := piece?_eq_some_iff.1 h
  exact ⟨front ++ rest, piece?_eq_some_iff.2 ⟨[], behind, by simp, rfl, by simp⟩, by simp,
    piece?_eq_some_iff.2 ⟨front, [], by simp, rfl, rfl⟩⟩

/-! ## Bytes -/

/-- Only characters of ASCII satisfy `p`. -/
def Ascii (p : Char → Bool) : Prop := ∀ c, p c = true → c.toNat < 0x80

theorem ascii_eq {d : Char} (h : d.toNat < 0x80) : Ascii (· == d) := by
  intro c hc
  rw [beq_iff_eq.1 hc]
  exact h

theorem isAscii_eq_beq {d b : UInt8} (hd : d.toNat < 0x80) : isAscii (· == Char.ofNat d.toNat) b = (b == d) := by
  rw [Bool.eq_iff_iff, isAscii, Bool.and_eq_true, decide_eq_true_eq, beq_iff_eq, beq_iff_eq]
  constructor
  · rintro ⟨hb, he⟩
    have := congrArg Char.toNat he
    rw [Utf8.toNat_charOfNat (by omega), Utf8.toNat_charOfNat (by omega)] at this
    exact UInt8.toNat_inj.1 this
  · rintro rfl
    exact ⟨hd, rfl⟩

/-- **Every byte of a character answers for the character.** A byte behind the first one
belongs to a character beyond ASCII, and answers no. -/
theorem byte_eq {c : Char} (h : piece? s pos upper = some (c :: rest)) (hi : i < c.utf8Size) :
    ∃ b, byte s (pos + i) = pure b ∧ ∀ p, Ascii p → isAscii p b = p c := by
  obtain ⟨front, behind, rfl, rfl, -⟩ := piece?_eq_some_iff.1 h
  rw [← Utf8.length_encodeChar] at hi
  refine ⟨(Utf8.encodeChar c)[i], ?_, fun p hp => ?_⟩
  · have hbytes : Utf8.encode (front ++ (c :: rest ++ behind)) =
        Utf8.encode front ++ (Utf8.encodeChar c ++ Utf8.encode (rest ++ behind)) := List.flatMap_append
    have hfront := Utf8.length_encode front
    rw [byte, hbytes, List.getElem?_append_right (by omega), hfront, Nat.add_sub_cancel_left,
      List.getElem?_append_left hi, List.getElem?_eq_getElem hi]
    rfl
  · by_cases hc : c.toNat < 0x80
    · have hb : (Utf8.encodeChar c)[i] = UInt8.ofNat c.toNat := by
        simp [Utf8.encodeChar_ascii hc]
      have hn : (UInt8.ofNat c.toNat).toNat = c.toNat := Utf8.toNat_ofNat (by omega)
      rw [isAscii, hb, hn, Char.ofNat_toNat, decide_eq_true hc, Bool.true_and]
    · have hb := (Utf8.encodeChar_high (Nat.le_of_not_lt hc)).2 _ (List.getElem_mem hi)
      have hpc : p c = false := Bool.eq_false_iff.2 fun hpc => hc (hp c hpc)
      rw [isAscii, decide_eq_false (Nat.not_lt.2 hb), Bool.false_and, hpc]

/-- Behind the first byte of a character nothing of ASCII is found. -/
theorem byte_inner {c : Char} (h : piece? s pos upper = some (c :: rest)) (h0 : 0 < i) (hi : i < c.utf8Size) :
    ∃ b, byte s (pos + i) = pure b ∧ ∀ p, Ascii p → isAscii p b = false := by
  obtain ⟨b, hb, hp⟩ := byte_eq h hi
  refine ⟨b, hb, fun p ha => ?_⟩
  have hc : ¬c.toNat < 0x80 := fun hc => by
    rw [Utf8.utf8Size_eq_one_iff.2 hc] at hi
    omega
  rw [hp p ha]
  exact Bool.eq_false_iff.2 fun hpc => hc (ha c hpc)

theorem lt_of_piece? {c : Char} (h : piece? s pos upper = some (c :: rest)) (hi : i < c.utf8Size) :
    pos + i < upper := by
  have := (end_of_piece? h).1
  rw [Utf8.size_cons] at this
  omega

theorem pos_lt_of_piece? {c : Char} (h : piece? s pos upper = some (c :: rest)) : pos < upper :=
  lt_of_piece? h c.utf8Size_pos

/-! ## The next byte -/

section

variable {α : Type}

theorem round_of_byte {b : UInt8} (hlt : pos < upper) (hb : byte s pos = pure b) (k : UInt8 → Scan α) (e : Scan α) :
    (if pos < upper then byte s pos >>= k else e) = k b := by
  rw [if_pos hlt, hb, pure_bind]

/-- The byte with which a round begins answers for the next character. -/
theorem round_cons {c : Char} (h : piece? s pos upper = some (c :: rest)) :
    ∃ b, (∀ p, Ascii p → isAscii p b = p c) ∧
      ∀ (k : UInt8 → Scan α) (e : Scan α), (if pos < upper then byte s pos >>= k else e) = k b := by
  obtain ⟨b, hb, hp⟩ := byte_eq h c.utf8Size_pos
  exact ⟨b, hp, round_of_byte (pos_lt_of_piece? h) hb⟩

theorem round_nil (h : piece? s pos upper = some []) (t e : Scan α) : (if pos < upper then t else e) = e := by
  have hend : pos = upper := (end_of_piece? h).1
  rw [if_neg (by omega)]

end

theorem peek_eq (h : piece? s pos upper = some rest) :
    ∃ next, peek s upper pos = pure next ∧
      ∀ p, Ascii p → next.any (isAscii p) = rest.head?.any p ∧ next.all (isAscii p) = rest.head?.all p := by
  cases rest with
  | nil => exact ⟨none, round_nil h _ _, fun p _ => ⟨rfl, rfl⟩⟩
  | cons c rest =>
    obtain ⟨b, hp, hround⟩ := round_cons h
    exact ⟨some b, hround _ _, fun p ha => ⟨hp p ha, hp p ha⟩⟩

theorem head_is_iff {c : Char} : rest.head?.any (· == c) = true ↔ ∃ t, rest = c :: t := by
  cases rest with
  | nil => simp
  | cons d t => simp

/-! ## Passing characters -/

/-- A function that does not change from one number to the next up to `n` has its value at `n`. -/
theorem eq_of_steps {α : Type} {f : Nat → α} {m n : Nat} (hle : m ≤ n)
    (h : ∀ i, m ≤ i → i < n → f i = f (i + 1)) : f m = f n := by
  induction hle with
  | refl => rfl
  | step hle ih => exact (ih fun i hm hi => h i hm (Nat.lt_succ_of_lt hi)).trans (h _ hle (Nat.lt_succ_self _))

/-- **A loop that passes bytes passes characters.** It passes the bytes that are no stops; then it
gets over a character from its first byte if that is no stop, and from any other byte. -/
theorem pass {α : Type} {f : Nat → α} {stop : Char → Bool} (hstop : Ascii stop)
    (step : ∀ p b, p < upper → byte s p = pure b → isAscii stop b = false → f p = f (p + 1)) {c : Char}
    (h : piece? s pos upper = some (c :: rest)) (hle : i ≤ c.utf8Size) (hi : 0 < i ∨ stop c = false) :
    f (pos + i) = f (pos + c.utf8Size) := by
  refine eq_of_steps (f := fun j => f (pos + j)) hle fun j hij hj => ?_
  rcases hi with h0 | hc
  · obtain ⟨b, hb, hp⟩ := byte_inner h (by omega) hj
    exact step _ b (lt_of_piece? h hj) hb (hp stop hstop)
  · obtain ⟨b, hb, hp⟩ := byte_eq h hj
    exact step _ b (lt_of_piece? h hj) hb ((hp stop hstop).trans hc)

theorem pass_first {α : Type} {f : Nat → α} {stop : Char → Bool} (hstop : Ascii stop)
    (step : ∀ p b, p < upper → byte s p = pure b → isAscii stop b = false → f p = f (p + 1)) {c : Char}
    (h : piece? s pos upper = some (c :: rest)) (hc : stop c = false) : f pos = f (pos + c.utf8Size) :=
  pass hstop step h (Nat.zero_le _) (.inr hc)

theorem Ascii.or {p q : Char → Bool} (hp : Ascii p) (hq : Ascii q) : Ascii fun c => p c || q c := by
  intro c hc
  rcases Bool.or_eq_true_iff.1 hc with h | h
  · exact hp c h
  · exact hq c h

theorem isAscii_or {p q : Char → Bool} {b : UInt8} (h : isAscii (fun c => p c || q c) b = false) :
    isAscii p b = false ∧ isAscii q b = false := by
  simp only [isAscii, Bool.and_or_distrib_left, Bool.or_eq_false_iff] at h
  exact h

end MessageHead.Scan
