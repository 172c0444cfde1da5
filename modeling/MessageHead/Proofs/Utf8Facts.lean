/-
UTF-8 there and back: the bytes of a text are read as that text
(`decode_encode`), and bytes that are read without a replacement are the bytes
of what was read (`encode_decode`). The reader takes a character byte by byte;
what it has seen of one is an `Opening`, and the lemmas here follow an opening
through the continuation bytes of the character it was opened for.
-/
import MessageHead.Text.Utf8

namespace MessageHead.Utf8

theorem toNat_ofNat {n : Nat} (h : n < 0x100) : (UInt8.ofNat n).toNat = n := UInt8.toNat_ofNat_of_lt' h

theorem toNat_charOfNat_valid {n : Nat} (h : n.isValidChar) : (Char.ofNat n).toNat = n := by
  unfold Char.ofNat
  rw [dif_pos h]
  rfl

theorem toNat_charOfNat {n : Nat} (h : n < 0xD800) : (Char.ofNat n).toNat = n := toNat_charOfNat_valid (.inl h)

theorem toNat_continuation (n : Nat) : (continuation n).toNat = 0x80 + n % 0x40 := toNat_ofNat (by omega)

theorem encodeChar_ascii {c : Char} (h : c.toNat < 0x80) : encodeChar c = [UInt8.ofNat c.toNat] := by
  unfold encodeChar
  rw [if_pos h]

theorem encodeChar_high {c : Char} (h : 0x80 ≤ c.toNat) :
    encodeChar c ≠ [] ∧ ∀ b ∈ encodeChar c, 0x80 ≤ b.toNat := by
  have hv : c.toNat < 0x110000 := by
    have := c.valid
    unfold UInt32.isValidChar Nat.isValidChar at this
    show c.val.toNat < _
    omega
  have hc : ∀ n, 0x80 ≤ (continuation n).toNat := fun n => by rw [toNat_continuation]; omega
  unfold encodeChar
  rw [if_neg (by omega)]
  split
  · refine ⟨by simp, fun b hb => ?_⟩
    simp only [List.mem_cons, List.not_mem_nil, or_false] at hb
    rcases hb with rfl | rfl
    · rw [toNat_ofNat (by omega)]; omega
    · exact hc _
  · split
    · refine ⟨by simp, fun b hb => ?_⟩
      simp only [List.mem_cons, List.not_mem_nil, or_false] at hb
      rcases hb with rfl | rfl | rfl
      · rw [toNat_ofNat (by omega)]; omega
      · exact hc _
      · exact hc _
    · refine ⟨by simp, fun b hb => ?_⟩
      simp only [List.mem_cons, List.not_mem_nil, or_false] at hb
      rcases hb with rfl | rfl | rfl | rfl
      · rw [toNat_ofNat (by omega)]; omega
      · exact hc _
      · exact hc _
      · exact hc _

theorem encodeChar_ne_nil (c : Char) : encodeChar c ≠ [] := by
  by_cases h : c.toNat < 0x80
  · rw [encodeChar_ascii h]
    simp
  · exact (encodeChar_high (by omega)).1

/-! ## Openings -/

theorem opening?_two {b : UInt8} (h : 0xC2 ≤ b.toNat ∧ b.toNat ≤ 0xDF) :
    opening? b = some ⟨b.toNat - 0xC0, 1, 0x80, 0xBF⟩ := by
  unfold opening?
  rw [if_pos (by simpa using h)]

/-- Of the bytes that open a longer form the first one leaves out overlong forms, so the next
byte is at least `least`, and one of them, `last`, leaves out what is no character. -/
theorem exists_opening {n first last follow : Nat} {least most : UInt8} {rest : Option Opening}
    (hne : first ≠ last) (hrest : n ≠ first → n ≠ last → rest = some ⟨n - first, follow, 0x80, 0xBF⟩) :
    ∃ lo hi : UInt8,
      (if n == first then some ⟨0, follow, least, 0xBF⟩
        else if n == last then some ⟨last - first, follow, 0x80, most⟩ else rest) =
          some ⟨n - first, follow, lo, hi⟩ ∧
      (n = first ∧ lo.toNat = least.toNat ∨ n ≠ first ∧ lo.toNat = 0x80) ∧
      (n = last ∧ hi.toNat = most.toNat ∨ n ≠ last ∧ hi.toNat = 0xBF) := by
  by_cases h₁ : n = first
  · rw [if_pos (by simpa using h₁), h₁, Nat.sub_self]
    exact ⟨least, 0xBF, rfl, .inl ⟨rfl, rfl⟩, .inr ⟨hne, rfl⟩⟩
  · rw [if_neg (by simpa using h₁)]
    by_cases h₂ : n = last
    · rw [if_pos (by simpa using h₂), h₂]
      exact ⟨0x80, most, rfl, .inr ⟨hne.symm, rfl⟩, .inl ⟨rfl, rfl⟩⟩
    · rw [if_neg (by simpa using h₂), hrest h₁ h₂]
      exact ⟨0x80, 0xBF, rfl, .inr ⟨h₁, rfl⟩, .inr ⟨h₂, rfl⟩⟩

theorem opening?_three {b : UInt8} (h : 0xE0 ≤ b.toNat ∧ b.toNat ≤ 0xEF) :
    ∃ lo hi : UInt8, opening? b = some ⟨b.toNat - 0xE0, 2, lo, hi⟩ ∧
      (b.toNat = 0xE0 ∧ lo.toNat = 0xA0 ∨ b.toNat ≠ 0xE0 ∧ lo.toNat = 0x80) ∧
      (b.toNat = 0xED ∧ hi.toNat = 0x9F ∨ b.toNat ≠ 0xED ∧ hi.toNat = 0xBF) := by
  unfold opening?
  rw [if_neg (by simp only [Bool.and_eq_true, decide_eq_true_eq]; omega)]
  refine exists_opening (by decide) fun hne _ => if_pos ?_
  simp only [Bool.and_eq_true, decide_eq_true_eq]
  omega

theorem opening?_four {b : UInt8} (h : 0xF0 ≤ b.toNat ∧ b.toNat ≤ 0xF4) :
    ∃ lo hi : UInt8, opening? b = some ⟨b.toNat - 0xF0, 3, lo, hi⟩ ∧
      (b.toNat = 0xF0 ∧ lo.toNat = 0x90 ∨ b.toNat ≠ 0xF0 ∧ lo.toNat = 0x80) ∧
      (b.toNat = 0xF4 ∧ hi.toNat = 0x8F ∨ b.toNat ≠ 0xF4 ∧ hi.toNat = 0xBF) := by
  unfold opening?
  rw [if_neg (by simp only [Bool.and_eq_true, decide_eq_true_eq]; omega),
    if_neg (by simp only [beq_iff_eq]; omega), if_neg (by simp only [beq_iff_eq]; omega),
    if_neg (by simp only [Bool.and_eq_true, decide_eq_true_eq]; omega)]
  refine exists_opening (by decide) fun hne hlast => if_pos ?_
  simp only [Bool.and_eq_true, decide_eq_true_eq]
  omega

/-! ## Reading a character -/

theorem decodeFrom_ascii {b : UInt8} (h : b.toNat < 0x80) (bytes : Bytes) :
    decodeFrom none (b :: bytes) = Char.ofNat b.toNat :: decodeFrom none bytes := by
  rw [decodeFrom, start, if_pos h]
  rfl

theorem decodeFrom_opening {b : UInt8} {o : Opening} (h : 0x80 ≤ b.toNat) (ho : opening? b = some o)
    (bytes : Bytes) : decodeFrom none (b :: bytes) = decodeFrom (some o) bytes := by
  rw [decodeFrom, start, if_neg (by omega), ho]
  rfl

/-- What a continuation byte of `n` does to an opening that allows it. -/
theorem decodeFrom_continuation {o : Opening} {n : Nat} (hlo : o.lo.toNat ≤ 0x80 + n % 0x40)
    (hhi : 0x80 + n % 0x40 ≤ o.hi.toNat) (bytes : Bytes) :
    decodeFrom (some o) (continuation n :: bytes) =
      if (o.follow - 1 == 0) = true then Char.ofNat (o.bits * 0x40 + n % 0x40) :: decodeFrom none bytes
      else decodeFrom (some ⟨o.bits * 0x40 + n % 0x40, o.follow - 1, 0x80, 0xBF⟩) bytes := by
  have hnext : o.next (continuation n) = ⟨o.bits * 0x40 + n % 0x40, o.follow - 1, 0x80, 0xBF⟩ := by
    rw [Opening.next, toNat_continuation, show (0x80 + n % 0x40) % 0x40 = n % 0x40 by omega]
  have hin : (o.lo ≤ continuation n && continuation n ≤ o.hi) = true := by
    simp only [Bool.and_eq_true, decide_eq_true_eq, UInt8.le_iff_toNat_le, toNat_continuation]
    exact ⟨hlo, hhi⟩
  rw [decodeFrom, if_pos hin]
  simp only [hnext]

section

variable {bits n : Nat} {lo hi : UInt8}

theorem decodeFrom_last (hlo : lo.toNat ≤ 0x80 + n % 0x40) (hhi : 0x80 + n % 0x40 ≤ hi.toNat) (bytes : Bytes) :
    decodeFrom (some ⟨bits, 1, lo, hi⟩) (continuation n :: bytes) =
      Char.ofNat (bits * 0x40 + n % 0x40) :: decodeFrom none bytes := by
  rw [decodeFrom_continuation hlo hhi]
  rfl

/-- A continuation byte that is not the last takes an opening one step further. -/
theorem decodeFrom_more (k : Nat) (hlo : lo.toNat ≤ 0x80 + n % 0x40) (hhi : 0x80 + n % 0x40 ≤ hi.toNat)
    (bytes : Bytes) : decodeFrom (some ⟨bits, k + 2, lo, hi⟩) (continuation n :: bytes) =
      decodeFrom (some ⟨bits * 0x40 + n % 0x40, k + 1, 0x80, 0xBF⟩) bytes := by
  rw [decodeFrom_continuation hlo hhi]
  rfl

end

/-- **A character is read from its bytes**, whatever follows. -/
theorem decodeFrom_encodeChar (c : Char) (bytes : Bytes) :
    decodeFrom none (encodeChar c ++ bytes) = c :: decodeFrom none bytes := by
  have hv : c.toNat < 0xD800 ∨ 0xDFFF < c.toNat ∧ c.toNat < 0x110000 := c.valid
  have back : ∀ {n}, n = c.toNat → Char.ofNat n = c := fun h => by rw [h, Char.ofNat_toNat]
  have h80 : (0x80 : UInt8).toNat = 0x80 := rfl
  have hBF : (0xBF : UInt8).toNat = 0xBF := rfl
  by_cases h₁ : c.toNat < 0x80
  · have hb := toNat_ofNat (n := c.toNat) (by omega)
    rw [encodeChar_ascii h₁, List.singleton_append, decodeFrom_ascii (by omega), hb, back rfl]
  unfold encodeChar
  rw [if_neg h₁]
  by_cases h₂ : c.toNat < 0x800
  · have hb := toNat_ofNat (n := 0xC0 + c.toNat / 0x40) (by omega)
    rw [if_pos h₂]
    simp only [List.cons_append, List.nil_append]
    rw [decodeFrom_opening (by omega) (opening?_two (by omega)), hb,
      decodeFrom_last (by omega) (by omega), back (by omega)]
  rw [if_neg h₂]
  by_cases h₃ : c.toNat < 0x10000
  · have hb := toNat_ofNat (n := 0xE0 + c.toNat / 0x1000) (by omega)
    obtain ⟨lo, hi, ho, hlo, hhi⟩ := opening?_three (b := UInt8.ofNat (0xE0 + c.toNat / 0x1000)) (by omega)
    rw [hb] at ho hlo hhi
    rw [if_pos h₃]
    simp only [List.cons_append, List.nil_append]
    rw [decodeFrom_opening (by omega) ho, decodeFrom_more 0 (by omega) (by omega),
      decodeFrom_last (by omega) (by omega), back (by omega)]
  · have hb := toNat_ofNat (n := 0xF0 + c.toNat / 0x40000) (by omega)
    obtain ⟨lo, hi, ho, hlo, hhi⟩ := opening?_four (b := UInt8.ofNat (0xF0 + c.toNat / 0x40000)) (by omega)
    rw [hb] at ho hlo hhi
    rw [if_neg h₃]
    simp only [List.cons_append, List.nil_append]
    rw [decodeFrom_opening (by omega) ho, decodeFrom_more 1 (by omega) (by omega),
      decodeFrom_more 0 (by omega) (by omega), decodeFrom_last (by omega) (by omega), back (by omega)]

/-- **The bytes of a text are read as that text.** -/
theorem decode_encode (s : Text) : decode (encode s) = s := by
  unfold decode encode
  induction s with
  | nil => rfl
  | cons c s ih => rw [List.flatMap_cons, decodeFrom_encodeChar, ih]

/-! ## Bytes that are read without a replacement -/

/-- A byte that only continues a character. -/
def Tail (b : UInt8) : Prop := 0x80 ≤ b.toNat ∧ b.toNat ≤ 0xBF

theorem Tail.continuation {b : UInt8} (h : Tail b) {n : Nat} (hn : n % 0x40 = b.toNat % 0x40) :
    continuation n = b := by
  have hb : 0x80 ≤ b.toNat ∧ b.toNat ≤ 0xBF := h
  rw [← UInt8.toNat_inj, toNat_continuation]
  omega

theorem encodeChar_two {a b : UInt8} (ha : 0xC2 ≤ a.toNat ∧ a.toNat ≤ 0xDF) (hb : Tail b) :
    encodeChar (Char.ofNat ((a.toNat - 0xC0) * 0x40 + b.toNat % 0x40)) = [a, b] := by
  generalize hn : (a.toNat - 0xC0) * 0x40 + b.toNat % 0x40 = n
  have hc := toNat_charOfNat (n := n) (by omega)
  have hlead : UInt8.ofNat (0xC0 + n / 0x40) = a := by
    rw [show 0xC0 + n / 0x40 = a.toNat by omega, UInt8.ofNat_toNat]
  unfold encodeChar
  rw [hc, if_neg (by omega), if_pos (by omega), hlead, hb.continuation (by omega)]

theorem encodeChar_three {a b c : UInt8} (ha : 0xE0 ≤ a.toNat ∧ a.toNat ≤ 0xEF) (hb : Tail b) (hc : Tail c)
    (hlo : a.toNat = 0xE0 → 0xA0 ≤ b.toNat) (hhi : a.toNat = 0xED → b.toNat ≤ 0x9F) :
    encodeChar (Char.ofNat (((a.toNat - 0xE0) * 0x40 + b.toNat % 0x40) * 0x40 + c.toNat % 0x40)) =
      [a, b, c] := by
  have hb' : 0x80 ≤ b.toNat ∧ b.toNat ≤ 0xBF := hb
  generalize hn : ((a.toNat - 0xE0) * 0x40 + b.toNat % 0x40) * 0x40 + c.toNat % 0x40 = n
  have hv : n < 0xD800 ∨ 0xDFFF < n ∧ n < 0x110000 := by omega
  have hchar := toNat_charOfNat_valid hv
  have hlead : UInt8.ofNat (0xE0 + n / 0x1000) = a := by
    rw [show 0xE0 + n / 0x1000 = a.toNat by omega, UInt8.ofNat_toNat]
  unfold encodeChar
  rw [hchar, if_neg (by omega), if_neg (by omega), if_pos (by omega), hlead, hb.continuation (by omega),
    hc.continuation (by omega)]

theorem encodeChar_four {a b c d : UInt8} (ha : 0xF0 ≤ a.toNat ∧ a.toNat ≤ 0xF4) (hb : Tail b) (hc : Tail c)
    (hd : Tail d) (hlo : a.toNat = 0xF0 → 0x90 ≤ b.toNat) (hhi : a.toNat = 0xF4 → b.toNat ≤ 0x8F) :
    encodeChar (Char.ofNat ((((a.toNat - 0xF0) * 0x40 + b.toNat % 0x40) * 0x40 + c.toNat % 0x40) * 0x40 +
      d.toNat % 0x40)) = [a, b, c, d] := by
  have hb' : 0x80 ≤ b.toNat ∧ b.toNat ≤ 0xBF := hb
  generalize hn : (((a.toNat - 0xF0) * 0x40 + b.toNat % 0x40) * 0x40 + c.toNat % 0x40) * 0x40 +
    d.toNat % 0x40 = n
  have hv : n < 0xD800 ∨ 0xDFFF < n ∧ n < 0x110000 := by omega
  have hchar := toNat_charOfNat_valid hv
  have hlead : UInt8.ofNat (0xF0 + n / 0x40000) = a := by
    rw [show 0xF0 + n / 0x40000 = a.toNat by omega, UInt8.ofNat_toNat]
  unfold encodeChar
  rw [hchar, if_neg (by omega), if_neg (by omega), if_neg (by omega), hlead, hb.continuation (by omega),
    hc.continuation (by omega), hd.continuation (by omega)]

theorem opening?_eq_some {b : UInt8} {o : Opening} (h : opening? b = some o) :
    (0xC2 ≤ b.toNat ∧ b.toNat ≤ 0xDF) ∨ (0xE0 ≤ b.toNat ∧ b.toNat ≤ 0xEF) ∨
      (0xF0 ≤ b.toNat ∧ b.toNat ≤ 0xF4) := by
  refine Decidable.byContradiction fun hne => ?_
  have hnone : opening? b = none := by
    unfold opening?
    simp only [Bool.and_eq_true, decide_eq_true_eq, beq_iff_eq]
    -- Each of its seven ranges lies in one of the three.
    rw [if_neg (by omega), if_neg (by omega), if_neg (by omega), if_neg (by omega), if_neg (by omega),
      if_neg (by omega), if_neg (by omega)]
  rw [hnone] at h
  cases h

/-- An unfinished character goes on with a byte that its opening allows. -/
theorem exists_next {o : Opening} {bytes : Bytes} (h : replacement ∉ decodeFrom (some o) bytes) :
    ∃ b rest, bytes = b :: rest ∧ o.lo.toNat ≤ b.toNat ∧ b.toNat ≤ o.hi.toNat ∧
      ((o.next b).follow ≠ 0 → replacement ∉ decodeFrom (some (o.next b)) rest) := by
  cases bytes with
  | nil => simp [decodeFrom] at h
  | cons b rest =>
    rw [decodeFrom] at h
    split at h
    · rename_i hin
      simp only [Bool.and_eq_true, decide_eq_true_eq, UInt8.le_iff_toNat_le] at hin
      refine ⟨b, rest, rfl, hin.1, hin.2, fun hf => ?_⟩
      simpa [hf] using h
    · simp at h

/-- **Bytes that are read without a replacement begin with those of a character.** -/
theorem exists_encodeChar {b : UInt8} {bytes : Bytes} (h : replacement ∉ decodeFrom none (b :: bytes)) :
    ∃ c rest, b :: bytes = encodeChar c ++ rest := by
  by_cases hlt : b.toNat < 0x80
  · have hc := toNat_charOfNat (n := b.toNat) (by omega)
    refine ⟨Char.ofNat b.toNat, bytes, ?_⟩
    rw [encodeChar_ascii (by omega), hc, UInt8.ofNat_toNat]
    rfl
  cases ho : opening? b with
  | none =>
    rw [decodeFrom, start, if_neg hlt, ho] at h
    simp at h
  | some o =>
    rw [decodeFrom_opening (by omega) ho] at h
    obtain ⟨c, s, rfl, hclo, hchi, h⟩ := exists_next h
    have h80 : (0x80 : UInt8).toNat = 0x80 := rfl
    have hBF : (0xBF : UInt8).toNat = 0xBF := rfl
    rcases opening?_eq_some ho with hb | hb | hb
    · rw [opening?_two hb, Option.some.injEq] at ho
      subst ho
      have hc := encodeChar_two hb ⟨hclo, hchi⟩
      exact ⟨_, s, by rw [hc]; rfl⟩
    · obtain ⟨lo, hi, ho', hlo, hhi⟩ := opening?_three hb
      rw [ho', Option.some.injEq] at ho
      subst ho
      dsimp only at hclo hchi
      obtain ⟨d, s, rfl, hdlo, hdhi, -⟩ := exists_next (h (by simp [Opening.next]))
      have hc := encodeChar_three (b := c) hb ⟨by omega, by omega⟩ ⟨hdlo, hdhi⟩ (by omega) (by omega)
      exact ⟨_, s, by rw [hc]; rfl⟩
    · obtain ⟨lo, hi, ho', hlo, hhi⟩ := opening?_four hb
      rw [ho', Option.some.injEq] at ho
      subst ho
      dsimp only at hclo hchi
      obtain ⟨d, s, rfl, hdlo, hdhi, h⟩ := exists_next (h (by simp [Opening.next]))
      obtain ⟨e, s, rfl, helo, hehi, -⟩ := exists_next (h (by simp [Opening.next]))
      have hc := encodeChar_four (b := c) hb ⟨by omega, by omega⟩ ⟨hdlo, hdhi⟩ ⟨helo, hehi⟩ (by omega)
        (by omega)
      exact ⟨_, s, by rw [hc]; rfl⟩

/-- **Bytes that are read without a replacement are the bytes of what was read.** -/
theorem encode_decode {bytes : Bytes} (h : replacement ∉ decode bytes) : encode (decode bytes) = bytes := by
  unfold decode at h ⊢
  induction hn : bytes.length using Nat.strongRecOn generalizing bytes with
  | ind n ih =>
    cases bytes with
    | nil => rfl
    | cons b bytes =>
      obtain ⟨c, rest, hc⟩ := exists_encodeChar h
      have hpos := List.length_pos_iff.2 (encodeChar_ne_nil c)
      have hlen := congrArg List.length hc
      rw [List.length_append] at hlen
      rw [hc, decodeFrom_encodeChar, List.mem_cons, not_or] at h
      have hrest := ih rest.length (by omega) h.2 rfl
      rw [hc, decodeFrom_encodeChar, encode, List.flatMap_cons, ← encode, hrest]

/-! ## Reading strictly -/

theorem decodeFrom?_append {o : Option Opening} {bytes : Bytes} {s : Text} (h : decodeFrom? o bytes = some s)
    (rest : Bytes) : decodeFrom? o (bytes ++ rest) = (decodeFrom? none rest).map (s ++ ·) := by
  fun_induction decodeFrom? o bytes generalizing s with
  | case1 =>
    cases h
    simp
  | case2 => cases h
  | case3 b bytes hb ih =>
    obtain ⟨s', h', rfl⟩ := Option.map_eq_some_iff.1 h
    rw [List.cons_append, decodeFrom?, if_pos hb, ih h', Option.map_map]
    rfl
  | case4 b bytes hb o ho ih =>
    rw [List.cons_append, decodeFrom?, if_neg hb, ho]
    exact ih h
  | case5 => cases h
  | case6 o b bytes hin =>
    rename_i next hlast ih
    have hlast : ((o.next b).follow == 0) = true := hlast
    obtain ⟨s', h', rfl⟩ := Option.map_eq_some_iff.1 h
    rw [List.cons_append, decodeFrom?, if_pos hin]
    simp only [hlast, if_true, ih h', Option.map_map]
    rfl
  | case7 o b bytes hin =>
    rename_i next hmore ih
    have hmore : ¬((o.next b).follow == 0) = true := hmore
    rw [List.cons_append, decodeFrom?, if_pos hin]
    simp only [if_neg hmore]
    exact ih h
  | case8 => cases h

theorem decodeFrom?_eq {o : Option Opening} {bytes : Bytes} (h : replacement ∉ decodeFrom o bytes) :
    decodeFrom? o bytes = some (decodeFrom o bytes) := by
  fun_induction decodeFrom? o bytes with
  | case1 => rfl
  | case2 => simp [decodeFrom] at h
  | case3 b bytes hb ih =>
    rw [decodeFrom_ascii hb] at h ⊢
    rw [ih fun hm => h (by simp [hm])]
    rfl
  | case4 b bytes hb o ho ih =>
    rw [decodeFrom_opening (by omega) ho] at h ⊢
    exact ih h
  | case5 b bytes hb ho =>
    rw [decodeFrom, start, if_neg hb, ho] at h
    simp at h
  | case6 o b bytes hin next hlast ih =>
    have hlast : ((o.next b).follow == 0) = true := hlast
    rw [decodeFrom, if_pos hin] at h ⊢
    simp only [hlast, if_true, List.mem_cons, not_or] at h ⊢
    rw [ih h.2]
    rfl
  | case7 o b bytes hin next hmore ih =>
    have hmore : ¬((o.next b).follow == 0) = true := hmore
    rw [decodeFrom, if_pos hin] at h ⊢
    simp only [if_neg hmore] at h ⊢
    exact ih h
  | case8 o b bytes hin =>
    rw [decodeFrom, if_neg hin] at h
    simp at h

theorem decodeFrom?_encodeChar (c : Char) : decodeFrom? none (encodeChar c) = some [c] := by
  by_cases hc : c = replacement
  · subst hc
    decide
  · have hd : decodeFrom none (encodeChar c) = [c] := by
      have := decodeFrom_encodeChar c []
      rwa [List.append_nil] at this
    rw [decodeFrom?_eq (by rw [hd]; simpa using Ne.symm hc), hd]

/-- **The bytes of a text are strictly read as that text.** -/
theorem decode?_encode (s : Text) : decode? (encode s) = some s := by
  unfold decode? encode
  induction s with
  | nil => rfl
  | cons c s ih =>
    rw [List.flatMap_cons, decodeFrom?_append (decodeFrom?_encodeChar c), ih]
    rfl

theorem mem_of_mem_encode {c : Char} (hc : c.toNat < 0x80) {s : Text} (h : UInt8.ofNat c.toNat ∈ encode s) :
    c ∈ s := by
  obtain ⟨d, hd, hm⟩ := List.mem_flatMap.1 h
  have hb := toNat_ofNat (n := c.toNat) (by omega)
  by_cases hlt : d.toNat < 0x80
  · rw [encodeChar_ascii hlt, List.mem_singleton, ← UInt8.toNat_inj, hb, toNat_ofNat (by omega)] at hm
    rwa [← Char.toNat_inj.1 hm] at hd
  · have := (encodeChar_high (by omega)).2 _ hm
    omega

end MessageHead.Utf8
