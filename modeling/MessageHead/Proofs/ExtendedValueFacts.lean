/-
Extended values read back (`read_encode`), for the two charsets they are written
in. A charset writes a text character by character, and each byte is written
either as the character it is or as a percent sign and two digits; the reader
undoes one after the other.
-/
import MessageHead.ExtendedValue
import MessageHead.Proofs.CharsetCodecs

namespace MessageHead

/-! ## Charsets of extended values -/

namespace Charset

/-- A charset that extended values are written in. -/
def Extended (cs : Charset) : Prop := cs = .utf8 ∨ cs = .iso8859_1

variable {cs : Charset}

theorem Extended.own (h : Extended cs) : cs.isLegacy = false := by
  rcases h with rfl | rfl <;> rfl

theorem Extended.encode_nil (h : Extended cs) : cs.encode [] = [] := by
  rcases h with rfl | rfl <;> rfl

theorem Extended.encode_cons (h : Extended cs) (c : Char) (s : Text) :
    cs.encode (c :: s) = cs.encode [c] ++ cs.encode s := by
  rcases h with rfl | rfl
  · simp [encode, Utf8.encode]
  · simp [encode]

theorem Extended.encode_ascii (h : Extended cs) {c : Char} (hc : c.toNat < 0x80) :
    cs.encode [c] = [UInt8.ofNat c.toNat] := by
  rcases h with rfl | rfl
  · simp [encode, Utf8.encode, Utf8.encodeChar_ascii hc]
  · simp only [encode, List.map_cons, List.map_nil]
    rw [if_pos (by omega)]

theorem Extended.encode_high (h : Extended cs) {c : Char} (hc : 0x80 ≤ c.toNat)
    (he : cs.canEncode [c] = true) :
    cs.encode [c] ≠ [] ∧ ∀ b ∈ cs.encode [c], 0x80 ≤ b.toNat := by
  rcases h with rfl | rfl
  · have := Utf8.encodeChar_high hc
    simpa [encode, Utf8.encode] using this
  · have hlt : c.toNat < 0x100 := by simpa [canEncode] using he
    have hb := Utf8.toNat_ofNat hlt
    simp only [encode, List.map_cons, List.map_nil]
    rw [if_pos hlt]
    refine ⟨by simp, fun b hm => ?_⟩
    rw [List.mem_singleton.1 hm, hb]
    exact hc

theorem Extended.canEncode_cons (h : Extended cs) {c : Char} {s : Text} :
    cs.canEncode (c :: s) = true ↔ cs.canEncode [c] = true ∧ cs.canEncode s = true := by
  rcases h with rfl | rfl
  · simp [canEncode]
  · simp [canEncode]

theorem label_of_ofName {n : Text} (h : ofName n = .ok cs) :
    ∃ e ∈ labels, e.1 = cs ∧ ∃ l ∈ e.2, l.toList = Text.lower (Text.trim n) := by
  unfold ofName ofLabel? at h
  generalize hf : List.find? _ labels = found at h
  cases found with
  | none => cases h
  | some e =>
    cases h
    have hp := List.find?_some hf
    obtain ⟨l, hl, he⟩ := List.any_eq_true.1 hp
    exact ⟨e, List.mem_of_find?_eq_some hf, rfl, l, hl, by simpa using he⟩

theorem Extended.label_digits (h : Extended cs) {n : Text} (hn : ofName n = .ok cs)
    (hd : ∀ c ∈ (Text.lower (Text.trim n)).take 2, (hexDigit? c).isSome = true) :
    cs = .iso8859_1 ∧ (Text.lower (Text.trim n)).take 2 = ['8', '8'] := by
  have table : ∀ e ∈ labels, e.1 = .utf8 ∨ e.1 = .iso8859_1 → ∀ l ∈ e.2,
      (∀ c ∈ l.toList.take 2, (hexDigit? c).isSome = true) →
        e.1 = .iso8859_1 ∧ l.toList.take 2 = ['8', '8'] := by decide
  obtain ⟨e, he, rfl, l, hl, heq⟩ := label_of_ofName hn
  have := table e he h l hl
  rw [heq] at this
  exact this hd

end Charset

/-! ## Hexadecimal digits -/

theorem hexDigit?_upperHex : ∀ n < 16, hexDigit? (Number.upperHex n) = some n := by decide

theorem byteHex_eq (b : UInt8) : ∃ h l, Number.byteHex b = [h, l] ∧
    hexDigit? h = some (b.toNat / 16) ∧ hexDigit? l = some (b.toNat % 16) := by
  have hb := b.toNat_lt
  exact ⟨_, _, rfl, hexDigit?_upperHex _ (by omega), hexDigit?_upperHex _ (by omega)⟩

theorem ofNat_digits (b : UInt8) : UInt8.ofNat (b.toNat / 16 * 16 + b.toNat % 16) = b := by
  rw [show b.toNat / 16 * 16 + b.toNat % 16 = b.toNat by omega, UInt8.ofNat_toNat]

theorem eq_of_byteHex {b : UInt8} (h : Number.byteHex b = ['8', '8']) : b.toNat = 0x88 := by
  obtain ⟨x, y, he, hx, hy⟩ := byteHex_eq b
  rw [he] at h
  simp only [List.cons.injEq, and_true] at h
  obtain ⟨rfl, rfl⟩ := h
  have h₈ : hexDigit? '8' = some 8 := rfl
  rw [h₈, Option.some.injEq] at hx hy
  omega

theorem visible_upperHex : ∀ n < 16, Text.Visible (Number.upperHex n) := by decide

theorem visible_byteHex (b : UInt8) : ∀ c ∈ Number.byteHex b, Text.Visible c := by
  have hb := b.toNat_lt
  intro c hc
  simp only [Number.byteHex, List.mem_cons, List.not_mem_nil, or_false] at hc
  rcases hc with rfl | rfl
  · exact visible_upperHex _ (by omega)
  · exact visible_upperHex _ (by omega)

namespace ExtendedValue

/-! ## Percent signs -/

theorem percentDecode_cons {c : Char} (hc : c ≠ '%') (s : Text) :
    percentDecode (c :: s) = Utf8.encodeChar c ++ percentDecode s := by
  rw [percentDecode]
  intro a b s' he
  exact absurd he hc

theorem percentDecode_byteHex (b : UInt8) (s : Text) :
    percentDecode ('%' :: (Number.byteHex b ++ s)) = b :: percentDecode s := by
  obtain ⟨h, l, he, hh, hl⟩ := byteHex_eq b
  rw [he, List.cons_append, List.cons_append, List.nil_append, percentDecode, hh, hl]
  simp only [ofNat_digits]

theorem encodeByte_cases (b : UInt8) :
    (b.toNat < 0x80 ∧ isPlain (Char.ofNat b.toNat) = true ∧ encodeByte b = [Char.ofNat b.toNat]) ∨
      encodeByte b = '%' :: Number.byteHex b := by
  by_cases h : b < 0x80 && isPlain (Char.ofNat b.toNat)
  · have hb : encodeByte b = [Char.ofNat b.toNat] := if_pos h
    simp only [Bool.and_eq_true, decide_eq_true_eq, UInt8.lt_iff_toNat_lt] at h
    exact .inl ⟨h.1, h.2, hb⟩
  · exact .inr (if_neg h)

/-- **A byte is read from what it is written as**, whatever follows. -/
theorem percentDecode_encodeByte (b : UInt8) (s : Text) :
    percentDecode (encodeByte b ++ s) = b :: percentDecode s := by
  rcases encodeByte_cases b with ⟨hlt, hplain, he⟩ | he
  · have hn : (Char.ofNat b.toNat).toNat = b.toNat := Utf8.toNat_charOfNat (by omega)
    have hc : Char.ofNat b.toNat ≠ '%' := by
      intro he
      rw [he] at hplain
      exact absurd hplain (by decide)
    rw [he, List.singleton_append, percentDecode_cons hc, Utf8.encodeChar_ascii (by omega), hn,
      UInt8.ofNat_toNat]
    rfl
  · rw [he]
    exact percentDecode_byteHex b s

theorem percentDecode_flatMap (bs : Bytes) : percentDecode (bs.flatMap encodeByte) = bs := by
  induction bs with
  | nil => rfl
  | cons b bs ih => rw [List.flatMap_cons, percentDecode_encodeByte, ih]

/-- In a text of ASCII each percent sign stands for one byte 0x25 or begins one
other byte. -/
theorem count_percentDecode {t : Text} (h : ∀ c ∈ t, c.toNat < 0x80) :
    (percentDecode t).count 0x25 + (percentDecode t).count 0x88 ≤ t.count '%' := by
  have one : ∀ (b : UInt8) (bs : Bytes), (b :: bs).count 0x25 + (b :: bs).count 0x88 ≤
      bs.count 0x25 + bs.count 0x88 + 1 := by
    intro b bs
    by_cases hb : b = 0x25
    · rw [hb, List.count_cons_self, List.count_cons_of_ne (by decide)]
      omega
    · rw [List.count_cons_of_ne hb, List.count_cons]
      split <;> omega
  fun_induction percentDecode t with
  | case1 => simp
  | case2 a b s high _ low _ ih =>
    have ih := ih fun c hc => h c (by simp [hc])
    have hs : s.count '%' + 1 ≤ ('%' :: a :: b :: s).count '%' := by
      rw [List.count_cons_self]
      exact Nat.add_le_add_right ((List.Sublist.refl s).cons _ |>.cons _ |>.count_le _) 1
    exact Nat.le_trans (one _ _) (by omega)
  | case3 a b s _ ih =>
    have ih := ih fun c hc => h c (by simp [hc])
    have hs : ('%' :: a :: b :: s).count '%' = (a :: b :: s).count '%' + 1 := List.count_cons_self
    exact Nat.le_trans (one _ _) (by omega)
  | case4 c s _ ih =>
    have ih := ih fun d hd => h d (by simp [hd])
    have hc := h c (by simp)
    rw [Utf8.encodeChar_ascii hc, List.singleton_append]
    by_cases hp : c = '%'
    · rw [hp, List.count_cons_self]
      exact Nat.le_trans (one _ _) (by omega)
    · have hb := Utf8.toNat_ofNat (n := c.toNat) (by omega)
      have h₁ : UInt8.ofNat c.toNat ≠ 0x25 := by
        intro he
        rw [he] at hb
        exact hp (Char.toNat_inj.1 hb.symm)
      have h₂ : UInt8.ofNat c.toNat ≠ 0x88 := by
        intro he
        rw [he] at hb
        have : (0x88 : UInt8).toNat = 0x88 := rfl
        omega
      rw [List.count_cons_of_ne h₁, List.count_cons_of_ne h₂, List.count_cons_of_ne hp]
      exact ih

theorem fields?_eq_some {s cs lang text : Text} (h : fields? s = some (cs, lang, text)) :
    s = cs ++ '\'' :: (lang ++ '\'' :: text) := by
  rcases Text.cut_cases '\'' s with ⟨-, hcut⟩ | ⟨a, b, rfl, -, hcut⟩
  · simp [fields?, hcut] at h
  · rcases Text.cut_cases '\'' b with ⟨-, hcut'⟩ | ⟨a', b', rfl, -, hcut'⟩
    · simp [fields?, hcut, hcut'] at h
    · simp only [fields?, hcut, hcut', Option.bind_eq_bind, Option.bind_some, Option.pure_def,
        Option.some.injEq, Prod.mk.injEq] at h
      obtain ⟨rfl, rfl, rfl⟩ := h
      rfl

theorem read_eq_ok {x s : Text} {cs : Charset} (h : read x = .ok (cs, s)) :
    ∃ label lang text, x = label ++ '\'' :: (lang ++ '\'' :: text) ∧ label ≠ [] ∧
      Charset.ofName label = .ok cs ∧ s = cs.decode (percentDecode text) := by
  unfold read at h
  split at h
  · cases h
  · rename_i label lang text hf
    split at h
    · cases h
    · rename_i hne
      split at h
      · cases h
      · rename_i cs' hn
        cases h
        exact ⟨label, lang, text, fields?_eq_some hf, by simpa using hne, hn, rfl⟩

/-! ## Characters -/

/-- A character that stands for itself: a letter or digit of ASCII, or one of these marks. -/
def AttrChar (c : Char) : Prop :=
  ('0' ≤ c ∧ c ≤ '9') ∨ ('A' ≤ c ∧ c ≤ 'Z') ∨ ('a' ≤ c ∧ c ≤ 'z') ∨ c ∈ "!#$&+-.^_\x60|~".toList

theorem attrChar_of_isPlain {c : Char} (h : isPlain c = true) : AttrChar c := by
  have h : (((decide (65 ≤ c.val ∧ c.val ≤ 90) || (97 ≤ c.val && c.val ≤ 122)) ||
      (48 ≤ c.val && c.val ≤ 57)) || plainMarks.contains c) = true := h
  simp only [Bool.or_eq_true, Bool.and_eq_true, decide_eq_true_eq, List.contains_iff_mem] at h
  rcases h with ((hupper | hlower) | hdigit) | hmark
  · exact .inr (.inl hupper)
  · exact .inr (.inr (.inl hlower))
  · exact .inl hdigit
  · exact .inr (.inr (.inr hmark))

theorem AttrChar.visible {c : Char} (h : AttrChar c) : Text.Visible c := by
  have between : ∀ {lo hi : Char}, lo ≤ c ∧ c ≤ hi → Text.Visible lo → Text.Visible hi → Text.Visible c :=
    fun hc hlo hhi => ⟨Nat.le_trans hlo.1 hc.1, Nat.le_trans hc.2 hhi.2⟩
  have marks : ∀ d ∈ "!#$&+-.^_\x60|~".toList, Text.Visible d := by decide
  rcases h with hdigit | hupper | hlower | hmark
  · exact between hdigit (by decide) (by decide)
  · exact between hupper (by decide) (by decide)
  · exact between hlower (by decide) (by decide)
  · exact marks c hmark

theorem encodeByte_plain (b : UInt8) : ∀ c ∈ encodeByte b, Text.Visible c ∧ c ≠ '"' ∧ c ≠ ';' ∧ c ≠ ',' := by
  have plain : ∀ c, isPlain c = true → Text.Visible c ∧ c ≠ '"' ∧ c ≠ ';' ∧ c ≠ ',' := by
    intro c hc
    refine ⟨(attrChar_of_isPlain hc).visible, ?_, ?_, ?_⟩ <;>
    · rintro rfl
      exact absurd hc (by decide)
  have hex : ∀ n < 16, isPlain (Number.upperHex n) = true := by decide
  have hb := b.toNat_lt
  intro c hc
  rcases encodeByte_cases b with ⟨-, hp, he⟩ | he
  · rw [he, List.mem_singleton] at hc
    rw [hc]
    exact plain _ hp
  · rw [he] at hc
    simp only [Number.byteHex, List.mem_cons, List.not_mem_nil, or_false] at hc
    rcases hc with rfl | rfl | rfl
    · decide
    · exact plain _ (hex _ (by omega))
    · exact plain _ (hex _ (by omega))

/-! ## Round trip -/

theorem encode_eq {cs : Charset} (h : Charset.Extended cs) (s : Text) :
    encode cs s = .ok (cs.name ++ '\'' :: '\'' :: (cs.encode s).flatMap encodeByte) := by
  rcases h with rfl | rfl <;> rfl

/-- **An extended value is read as the text its charset made of it.** -/
theorem read_written {cs : Charset} (h : Charset.Extended cs) (s : Text) :
    read (cs.name ++ '\'' :: '\'' :: (cs.encode s).flatMap encodeByte) = .ok (cs, cs.held s) := by
  have hname : '\'' ∉ cs.name := fun hm => (Charset.name_chars h.own _ hm).2.2 rfl
  have hne : cs.name.isEmpty = false := by
    rcases h with rfl | rfl <;> decide
  have hcut : Text.cut '\'' ('\'' :: (cs.encode s).flatMap encodeByte) =
      some ([], (cs.encode s).flatMap encodeByte) := Text.cut_append List.not_mem_nil _
  have hf : fields? (cs.name ++ '\'' :: '\'' :: (cs.encode s).flatMap encodeByte) =
      some (cs.name, [], (cs.encode s).flatMap encodeByte) := by
    simp [fields?, Text.cut_append hname, hcut]
  rw [read, hf]
  simp only [hne, Bool.false_eq_true, if_false, Charset.ofName_name h.own, percentDecode_flatMap,
    Charset.decode_encode_eq_held h.own]

theorem read_encode {cs : Charset} (h : Charset.Extended cs) {s : Text} (he : cs.canEncode s = true) :
    encode cs s = .ok (cs.name ++ '\'' :: '\'' :: (cs.encode s).flatMap encodeByte) ∧
      read (cs.name ++ '\'' :: '\'' :: (cs.encode s).flatMap encodeByte) = .ok (cs, s) := by
  refine ⟨encode_eq h s, ?_⟩
  rw [read_written h, Charset.held_eq_self_iff.2 ((Charset.canEncode_iff h.own).1 he)]

end ExtendedValue

end MessageHead
