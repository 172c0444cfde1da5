/-
The three readers of quoted text agree: skipping to the closing quote, reading what is quoted, and
decoding what stands between the quotes.

Skipping and reading go over bytes, each in its own way: behind a backslash the one leaves out two
bytes and the other a whole character, which it copies. Decoding goes over characters. That the
first two end at the same quote, and that decoding has that quote nowhere inside, follows from one
fact on characters: reading decodes what skipping takes, up to its last character.
-/
import MessageHead.Proofs.ScanAgreement

namespace MessageHead

theorem Quoted.exists_inner_of_skip? {s raw rest : Text} (h : skip? s = some (raw, rest)) :
    ∃ inner, raw = inner ++ ['"'] := by
  fun_induction skip? s generalizing raw rest with
  | case1 => simp at h
  | case2 =>
    simp only [Option.some.injEq, Prod.mk.injEq] at h
    exact ⟨[], h.1.symm⟩
  | case3 c s ih =>
    obtain ⟨⟨raw', rest'⟩, h', he⟩ := Option.map_eq_some_iff.1 h
    obtain ⟨inner, rfl⟩ := ih h'
    exact ⟨'\\' :: c :: inner, (Prod.mk.inj he).1.symm⟩
  | case4 c s _ _ ih =>
    obtain ⟨⟨raw', rest'⟩, h', he⟩ := Option.map_eq_some_iff.1 h
    obtain ⟨inner, rfl⟩ := ih h'
    exact ⟨c :: inner, (Prod.mk.inj he).1.symm⟩

theorem Quoted.skip?_and_read? (s : Text) :
    (∃ inner rest, inner ++ '"' :: rest = s ∧ skip? s = some (inner ++ ['"'], rest) ∧
      read? s = some (Escape.decode inner, rest)) ∨ skip? s = none ∧ read? s = none := by
  cases h : skip? s with
  | none => exact .inr ⟨rfl, by rw [read?_eq, h]; rfl⟩
  | some r =>
    obtain ⟨raw, rest⟩ := r
    obtain ⟨inner, rfl⟩ := exists_inner_of_skip? h
    exact .inl ⟨inner, rest, by simpa using append_of_skip? h, rfl, by simp [read?_eq, h]⟩

namespace Scan

open Utf8 (size)

variable {s rest : Text} {pos : Nat}

theorem exists_char_at (h : pos < size s) :
    ∃ front c behind i, front ++ c :: behind = s ∧ pos = size front + i ∧ i < c.utf8Size := by
  induction s generalizing pos with
  | nil => exact absurd h (Nat.not_lt_zero pos)
  | cons c s ih =>
    by_cases hc : pos < c.utf8Size
    · exact ⟨[], c, s, pos, rfl, by simp, hc⟩
    · rw [Utf8.size_cons] at h
      obtain ⟨front, d, behind, i, rfl, hpos, hi⟩ := @ih (pos - c.utf8Size) (by omega)
      exact ⟨c :: front, d, behind, i, rfl, by rw [Utf8.size_cons]; omega, hi⟩

/-- **The byte of a quote is a quote**, and no part of a longer character. -/
theorem piece?_of_quote (h : (Utf8.encode s)[pos]? = some 0x22) :
    ∃ rest, piece? s pos (size s) = some ('"' :: rest) := by
  have hlt : pos < size s := by
    rw [← Utf8.length_encode]
    exact (List.getElem?_eq_some_iff.1 h).1
  obtain ⟨front, c, behind, i, rfl, rfl, hi⟩ := exists_char_at hlt
  have hpiece : piece? (front ++ c :: behind) (size front) (size (front ++ c :: behind)) = some (c :: behind) :=
    piece?_eq_some_iff.2 ⟨front, [], by simp, rfl, by simp⟩
  obtain ⟨b, hb, hp⟩ := byte_eq hpiece hi
  obtain rfl : b = 0x22 := by
    rw [byte, h] at hb
    exact (Except.ok.inj (Option.some.inj hb)).symm
  obtain rfl : c = '"' := beq_iff_eq.1 (hp _ (ascii_eq (by decide))).symm
  obtain rfl : i = 0 := Nat.lt_one_iff.1 hi
  exact ⟨behind, hpiece⟩

theorem getElem?_of_piece? (h : piece? s pos (size s) = some ('"' :: rest)) :
    (Utf8.encode s)[pos]? = some 0x22 := by
  obtain ⟨front, behind, rfl, rfl, -⟩ := piece?_eq_some_iff.1 h
  have hbytes : Utf8.encode (front ++ ('"' :: rest ++ behind)) =
      Utf8.encode front ++ 0x22 :: Utf8.encode (rest ++ behind) := List.flatMap_append
  rw [hbytes, ← Utf8.length_encode, List.getElem?_append_right (Nat.le_refl _), Nat.sub_self]
  rfl

theorem run_at_closed {inner left : Text} (h : piece? s pos (size s) = some ('"' :: (inner ++ '"' :: left)))
    (hskip : Quoted.skip? (inner ++ '"' :: left) = some (inner ++ ['"'], left))
    (hread : Quoted.read? (inner ++ '"' :: left) = some (Escape.decode inner, left)) :
    (skipQuoted s pos).run = some (.ok (pos + 1 + size inner + 1)) ∧
      (readQuoted s (size s) pos).run = some (.ok (Escape.decode inner, pos + 1 + size inner + 1)) := by
  have hend : size s - size left = pos + 1 + size inner + 1 := by
    have := (end_of_piece? h).1
    simp only [Utf8.size_cons, Utf8.size_append, show '"'.utf8Size = 1 from rfl] at this
    omega
  rw [skipQuoted_eq h, readQuoted_eq h, hskip, hread, ← hend]
  exact ⟨rfl, rfl⟩

theorem run_at_open (h : piece? s pos (size s) = some ('"' :: rest)) (hskip : Quoted.skip? rest = none)
    (hread : Quoted.read? rest = none) :
    (skipQuoted s pos).run = some (.error (.unterminatedQuote ('"' :: rest))) ∧
      (readQuoted s (size s) pos).run = some (.error (.unterminatedQuote ('"' :: rest))) := by
  rw [skipQuoted_eq h, readQuoted_eq h, hskip, hread]
  exact ⟨rfl, rfl⟩

theorem run_readQuoted_quote (front t rest : Text) :
    (readQuoted (front ++ Escape.quote t ++ rest) (size (front ++ Escape.quote t ++ rest)) (size front)).run =
      some (.ok (t, size front + size (Escape.quote t))) := by
  have hpiece : piece? (front ++ Escape.quote t ++ rest) (size front) (size (front ++ Escape.quote t ++ rest)) =
      some ('"' :: (Escape.encode t ++ '"' :: rest)) :=
    piece?_eq_some_iff.2 ⟨front, [], by simp [Escape.quote], rfl, by simp [Escape.quote]⟩
  have hend : size (front ++ Escape.quote t ++ rest) - size rest = size front + size (Escape.quote t) := by
    rw [Utf8.size_append, Utf8.size_append]
    omega
  rw [readQuoted_eq hpiece, Quoted.read?_encode, ← hend]
  rfl

/-- **The readers of quoted text agree.** At every quote of every text, skipping and reading either
both end behind the same closing quote, and what is read is what decoding makes of the characters
between the two quotes; or both fail, with the text from the quote on. And every text that is
written between quotes comes back, from decoding and from reading at the first of the quotes,
whatever is in front of it and behind it. -/
theorem quoted_readers_agree :
    (∀ s pos, (Utf8.encode s)[pos]? = some 0x22 →
      (∃ last inner, (Utf8.encode s)[last]? = some 0x22 ∧ piece? s (pos + 1) last = some inner ∧
        (skipQuoted s pos).run = some (.ok (last + 1)) ∧
        (readQuoted s (size s) pos).run = some (.ok (Escape.decode inner, last + 1))) ∨
      ∃ opened, piece? s pos (size s) = some opened ∧
        (skipQuoted s pos).run = some (.error (.unterminatedQuote opened)) ∧
        (readQuoted s (size s) pos).run = some (.error (.unterminatedQuote opened))) ∧
    ∀ t, Escape.decode (Escape.encode t) = t ∧ ∀ front rest,
      (readQuoted (front ++ Escape.quote t ++ rest) (size (front ++ Escape.quote t ++ rest)) (size front)).run =
        some (.ok (t, size front + size (Escape.quote t))) := by
  refine ⟨fun s pos h => ?_, fun t => ⟨Quoted.decode_encode t, fun front rest => run_readQuoted_quote front t rest⟩⟩
  obtain ⟨rest, hpiece⟩ := piece?_of_quote h
  rcases Quoted.skip?_and_read? rest with ⟨inner, left, rfl, hskip, hread⟩ | ⟨hskip, hread⟩
  · have hbody : piece? s (pos + 1) (size s) = some (inner ++ '"' :: left) := piece?_cons hpiece
    exact .inl ⟨pos + 1 + size inner, inner, getElem?_of_piece? (piece?_behind hbody), piece?_front hbody,
      run_at_closed hpiece hskip hread⟩
  · exact .inr ⟨'"' :: rest, hpiece, run_at_open hpiece hskip hread⟩

/-- A quote behind a character of two bytes; in the quotes an escaped character of three bytes and
an escaped backslash. -/
theorem quoted_readers_agree_escaped :
    (Utf8.encode ['é', '"', '\\', '€', '\\', '\\', '"', ';'])[2]? = some 0x22 ∧
    (skipQuoted ['é', '"', '\\', '€', '\\', '\\', '"', ';'] 2).run = some (.ok 10) ∧
    (readQuoted ['é', '"', '\\', '€', '\\', '\\', '"', ';'] 11 2).run = some (.ok (['€', '\\'], 10)) := by
  have hquote : (Utf8.encode ['é', '"', '\\', '€', '\\', '\\', '"', ';'])[2]? = some 0x22 := by decide
  have hpiece : piece? ['é', '"', '\\', '€', '\\', '\\', '"', ';'] 2 11 =
      some ['"', '\\', '€', '\\', '\\', '"', ';'] := by decide
  have hend : (skipQuoted ['é', '"', '\\', '€', '\\', '\\', '"', ';'] 2).run = some (.ok 10) := by
    rw [skipQuoted_eq hpiece]
    rfl
  refine ⟨hquote, hend, ?_⟩
  rcases quoted_readers_agree.1 _ 2 hquote with ⟨last, inner, -, hinner, hskip, hread⟩ | ⟨opened, -, hskip, -⟩
  · rw [hend] at hskip
    obtain rfl : 9 = last := Nat.succ.inj (Except.ok.inj (Option.some.inj hskip))
    obtain rfl : ['\\', '€', '\\', '\\'] = inner := Option.some.inj hinner
    exact hread
  · rw [hend] at hskip
    cases hskip

end Scan

end MessageHead
