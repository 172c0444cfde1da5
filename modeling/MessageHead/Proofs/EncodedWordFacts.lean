/-
Encoded words inside quotes. A quote and a backslash are printable, so the
payload of an encoded word has them as they are, and every other character
becomes one or more that are neither. A scan in quotes therefore goes through
the payload as it goes through the text (`skip?_encode_iff`): where the text
would close the quotes around it, so does the word.
-/
import MessageHead.EncodedWord
import MessageHead.Proofs.ExtendedValueFacts
import MessageHead.Proofs.QuotedReaders

namespace MessageHead.EncodedWord

open Quoted (Mode Clear Within)

/-- What a text is written as between the marks of its encoded word. -/
def payload (cs : Charset) (s : Text) : Text := (cs.encode s).flatMap encodeByte

/-- What stands before the payload. -/
def mark (cs : Charset) : Text := '=' :: '?' :: cs.name ++ ['?', 'Q', '?']

theorem encode_eq (cs : Charset) (s : Text) : encode cs s = mark cs ++ payload cs s ++ ['?', '='] := rfl

theorem inert_mark {cs : Charset} (h : Charset.Extended cs) : mark cs ≠ [] ∧ ∀ c ∈ mark cs, Mode.Inert c := by
  rcases h with rfl | rfl <;> decide

/-! ## One byte -/

theorem encodeByte_cases (b : UInt8) :
    encodeByte b = ['_'] ∧ b.toNat = 0x20 ∨
      (encodeByte b = [Char.ofNat b.toNat] ∧ 0x21 ≤ b.toNat ∧ b.toNat ≤ 0x7E ∧ b.toNat ≠ 0x3D ∧
        b.toNat ≠ 0x5F) ∨
      (encodeByte b = '=' :: Number.byteHex b ∧ b.toNat ≠ 0x22 ∧ b.toNat ≠ 0x5C ∧ b.toNat ≠ 0x25) := by
  have eq_iff : ∀ {n : UInt8}, (b == n) = true ↔ b.toNat = n.toNat := by
    intro n
    rw [beq_iff_eq, UInt8.toNat_inj]
  unfold encodeByte
  by_cases h₁ : (b == 0x20) = true
  · exact .inl ⟨if_pos h₁, eq_iff.1 h₁⟩
  rw [if_neg h₁]
  by_cases h₂ : (b == 0x3D || b == 0x3F || b == 0x5F) = true
  · refine .inr (.inr ⟨if_pos h₂, ?_⟩)
    simp only [Bool.or_eq_true, eq_iff] at h₂
    rcases h₂ with (h | h) | h <;> rw [h] <;> decide
  rw [if_neg h₂]
  by_cases h₃ : 0x21 ≤ b && b ≤ 0x7E
  · refine .inr (.inl ⟨if_pos h₃, ?_⟩)
    simp only [Bool.and_eq_true, decide_eq_true_eq, UInt8.le_iff_toNat_le] at h₃
    simp only [Bool.or_eq_true, eq_iff, not_or] at h₂
    exact ⟨h₃.1, h₃.2, h₂.1.1, h₂.2⟩
  · refine .inr (.inr ⟨if_neg h₃, ?_⟩)
    simp only [Bool.and_eq_true, decide_eq_true_eq, UInt8.le_iff_toNat_le] at h₃
    have h₃ : ¬(0x21 ≤ b.toNat ∧ b.toNat ≤ 0x7E) := h₃
    omega

theorem visible_encodeByte (b : UInt8) : ∀ c ∈ encodeByte b, Text.Visible c := by
  intro c hc
  rcases encodeByte_cases b with ⟨he, -⟩ | ⟨he, hlo, hhi, -⟩ | ⟨he, -⟩
  · rw [he, List.mem_singleton] at hc
    rw [hc]
    decide
  · rw [he, List.mem_singleton] at hc
    rw [hc, Text.Visible, Utf8.toNat_charOfNat (by omega)]
    exact ⟨hlo, hhi⟩
  · rw [he] at hc
    rcases List.mem_cons.1 hc with rfl | hc
    · decide
    · exact visible_byteHex b c hc

theorem visible_payload (cs : Charset) (s : Text) : ∀ c ∈ payload cs s, Text.Visible c := by
  intro c hc
  obtain ⟨b, -, hb⟩ := List.mem_flatMap.1 hc
  exact visible_encodeByte b c hb

theorem visible_encode {cs : Charset} (h : cs.isLegacy = false) (s : Text) :
    ∀ c ∈ encode cs s, Text.Visible c := by
  have marks : ∀ c ∈ ['=', '?', 'Q'], Text.Visible c := by decide
  intro c hc
  have hc : c ∈ cs.name ∨ c ∈ payload cs s ∨ c ∈ ['=', '?', 'Q'] := by
    simp only [encode_eq, mark, List.cons_append, List.mem_append, List.mem_cons, List.not_mem_nil,
      or_false] at hc ⊢
    grind
  rcases hc with hc | hc | hc
  · exact (Charset.name_chars h c hc).1
  · exact visible_payload cs s c hc
  · exact marks c hc

theorem visible_rest {cs : Charset} {s y t : Text} (h : payload cs s = y ++ '=' :: t) :
    ∀ c ∈ t ++ ['?', '=', '"'], Text.Visible c := by
  have marks : ∀ c ∈ ['?', '=', '"'], Text.Visible c := by decide
  intro c hc
  rcases List.mem_append.1 hc with hc | hc
  · exact visible_payload cs s c (by rw [h]; simp [hc])
  · exact marks c hc

theorem inert_escape (b : UInt8) : ∀ c ∈ '=' :: Number.byteHex b, Mode.Inert c := by
  have hex : ∀ n < 16, Mode.Inert (Number.upperHex n) := by decide
  have hb := b.toNat_lt
  intro c hc
  simp only [Number.byteHex, List.mem_cons, List.not_mem_nil, or_false] at hc
  rcases hc with rfl | rfl | rfl
  · decide
  · exact hex _ (by omega)
  · exact hex _ (by omega)

/-! ## Modes -/

theorem modes_of_inert {c : Char} (hc : Mode.Inert c) {t : Text} (hne : t ≠ []) (ht : ∀ d ∈ t, Mode.Inert d)
    (m : Mode) : m.after t = m.next c ∧ (Within m t ↔ m ≠ .outside) := by
  rw [Mode.after_inert_of_ne hne ht, Mode.next_inert hc]
  exact ⟨rfl, Within.of_inert_iff hne ht⟩

/-- An ASCII character is written as itself, or it is inert and so is what it is
written as. -/
theorem payload_ascii {cs : Charset} (h : Charset.Extended cs) {c : Char} (hc : c.toNat < 0x80) :
    payload cs [c] = [c] ∨ Mode.Inert c ∧ payload cs [c] ≠ [] ∧ ∀ d ∈ payload cs [c], Mode.Inert d := by
  have hb : (UInt8.ofNat c.toNat).toNat = c.toNat := Utf8.toNat_ofNat (by omega)
  have hp : payload cs [c] = encodeByte (UInt8.ofNat c.toNat) := by
    rw [payload, h.encode_ascii hc, List.flatMap_cons, List.flatMap_nil, List.append_nil]
  have inert : c.toNat ≠ 0x22 → c.toNat ≠ 0x5C → Mode.Inert c := by
    intro h₁ h₂
    refine ⟨?_, ?_⟩
    · rintro rfl
      exact h₁ rfl
    · rintro rfl
      exact h₂ rfl
  rw [hp]
  rcases encodeByte_cases (UInt8.ofNat c.toNat) with ⟨hw, hn⟩ | ⟨hw, -⟩ | ⟨hw, hq, hs, -⟩
  · rw [hb] at hn
    rw [hw]
    exact .inr ⟨inert (by omega) (by omega), by simp, by decide⟩
  · exact .inl (by rw [hw, hb, Char.ofNat_toNat])
  · rw [hb] at hq hs
    rw [hw]
    exact .inr ⟨inert hq hs, by simp, inert_escape _⟩

theorem payload_high {cs : Charset} (h : Charset.Extended cs) {c : Char} (hc : 0x80 ≤ c.toNat)
    (he : cs.canEncode [c] = true) : payload cs [c] ≠ [] ∧ ∀ d ∈ payload cs [c], Mode.Inert d := by
  obtain ⟨hne, hhigh⟩ := h.encode_high hc he
  have hw : ∀ b ∈ cs.encode [c], encodeByte b = '=' :: Number.byteHex b := by
    intro b hb
    have := hhigh b hb
    rcases encodeByte_cases b with ⟨-, hn⟩ | ⟨-, -, hn, -⟩ | ⟨hw, -⟩
    · omega
    · omega
    · exact hw
  refine ⟨?_, ?_⟩
  · obtain ⟨b, hb⟩ := List.exists_mem_of_ne_nil _ hne
    intro hnil
    have := List.flatMap_eq_nil_iff.1 hnil b hb
    rw [hw b hb] at this
    exact absurd this (by simp)
  · intro d hd
    obtain ⟨b, hb, hd⟩ := List.mem_flatMap.1 hd
    rw [hw b hb] at hd
    exact inert_escape b d hd

/-- **A scan goes through what a character is written as as through the character.** -/
theorem modes_char {cs : Charset} (h : Charset.Extended cs) {c : Char} (he : cs.canEncode [c] = true)
    (m : Mode) :
    m.after (payload cs [c]) = m.next c ∧ (Within m (payload cs [c]) ↔ m ≠ .outside) := by
  by_cases hlt : c.toNat < 0x80
  · rcases payload_ascii h hlt with hp | ⟨hc, hne, hi⟩
    · rw [hp, Within.cons]
      exact ⟨rfl, fun h => h.1, fun h => ⟨h, Clear.nil⟩⟩
    · exact modes_of_inert hc hne hi m
  · obtain ⟨hne, hi⟩ := payload_high h (by omega) he
    refine modes_of_inert ⟨?_, ?_⟩ hne hi m
    · rintro rfl
      exact hlt (by decide)
    · rintro rfl
      exact hlt (by decide)

theorem payload_cons {cs : Charset} (h : Charset.Extended cs) (c : Char) (s : Text) :
    payload cs (c :: s) = payload cs [c] ++ payload cs s := by
  rw [payload, h.encode_cons, List.flatMap_append]
  rfl

theorem modes_payload {cs : Charset} (h : Charset.Extended cs) {s : Text} (he : cs.canEncode s = true)
    (m : Mode) :
    m.after (payload cs s) = m.after s ∧ (Within m (payload cs s) ↔ Within m s) := by
  induction s generalizing m with
  | nil =>
    have : payload cs [] = [] := by rw [payload, h.encode_nil]; rfl
    rw [this]
    exact ⟨rfl, Iff.rfl⟩
  | cons c s ih =>
    obtain ⟨hc, hs⟩ := h.canEncode_cons.1 he
    obtain ⟨ha, hw⟩ := modes_char h hc m
    obtain ⟨ha', hw'⟩ := ih hs (m.next c)
    rw [payload_cons h]
    refine ⟨by rw [Mode.after_append, ha, ha', Mode.after_cons], ?_⟩
    rw [Within.append, hw, ha, hw', Within.cons]

theorem modes_encode {cs : Charset} (h : Charset.Extended cs) {s : Text} (he : cs.canEncode s = true) :
    Mode.inside.after (encode cs s) = (Mode.inside.after s).settle ∧
      (Within .inside (encode cs s) ↔ Within .inside s ∧ Mode.inside.after s ≠ .outside) := by
  obtain ⟨ha, hw⟩ := modes_payload h he .inside
  obtain ⟨hne, hfront⟩ := inert_mark h
  have hback : ∀ c ∈ ['?', '='], Mode.Inert c := by decide
  have hopen : Mode.inside.after (mark cs) = .inside := Mode.after_inert hfront .inside
  have hthrough : Mode.inside.after (mark cs ++ payload cs s) = Mode.inside.after s := by
    rw [Mode.after_append, hopen, ha]
  rw [encode_eq, Mode.after_append, hthrough, Within.append, hthrough, Within.append, hopen, hw,
    Within.of_inert_iff hne hfront, Within.of_inert_iff (by simp) hback,
    Mode.after_inert_of_ne (by simp) hback]
  exact ⟨rfl, fun h => ⟨h.1.2, h.2⟩, fun h => ⟨⟨by decide, h.1⟩, h.2⟩⟩

/-- **The word closes the quotes around it exactly when the text would.** -/
theorem skip?_encode_iff {cs : Charset} (h : Charset.Extended cs) {s : Text} (he : cs.canEncode s = true) :
    Quoted.skip? (encode cs s) = none ↔ Quoted.skip? s = none := by
  obtain ⟨ha, hw⟩ := modes_encode h he
  rw [Quoted.skip?_eq_none_iff, Quoted.skip?_eq_none_iff, hw, ha]
  constructor
  · exact fun h => h.1
  · intro h
    refine ⟨h, ?_⟩
    rw [Mode.settle_of_ne h.2]
    decide

/-! ## No extended value in a payload -/

theorem not_mem_byteHex {c : Char} (hc : c = '=' ∨ c = '%' ∨ c = '\'') (b : UInt8) :
    c ∉ Number.byteHex b := by
  have digit : ∀ n < 16, Number.upperHex n ≠ c := by
    rcases hc with rfl | rfl | rfl <;> decide
  have hlt := b.toNat_lt
  intro hm
  simp only [Number.byteHex, List.mem_cons, List.not_mem_nil, or_false] at hm
  rcases hm with hm | hm
  · exact digit _ (by omega) hm.symm
  · exact digit _ (by omega) hm.symm

/-- An equals sign begins what it is written in. -/
theorem digits_of_encodeByte {b : UInt8} {y w : Text} (h : encodeByte b = y ++ '=' :: w) :
    w = Number.byteHex b := by
  rcases encodeByte_cases b with ⟨he, -⟩ | ⟨he, hlo, hhi, hne, -⟩ | ⟨he, -⟩
  · rw [he] at h
    have := congrArg ('=' ∈ ·) h
    simp at this
  · have hm : '=' ∈ encodeByte b := by
      rw [h]
      simp
    rw [he, List.mem_singleton] at hm
    have hn : (Char.ofNat b.toNat).toNat = b.toNat := Utf8.toNat_charOfNat (by omega)
    rw [← hm] at hn
    exact absurd hn.symm hne
  · rw [he] at h
    cases y with
    | nil =>
      simp only [List.nil_append, List.cons.injEq, true_and] at h
      exact h.symm
    | cons e y =>
      simp only [List.cons_append, List.cons.injEq] at h
      refine absurd ?_ (not_mem_byteHex (.inl rfl) b)
      rw [h.2]
      simp

theorem digits_of_equals {bs : Bytes} {y t : Text} (h : bs.flatMap encodeByte = y ++ '=' :: t) :
    ∃ b ∈ bs, ∃ t', t = Number.byteHex b ++ t' := by
  induction bs generalizing y with
  | nil => simp at h
  | cons b bs ih =>
    rw [List.flatMap_cons] at h
    rcases List.append_eq_append_iff.1 h with ⟨w, hy, hw⟩ | ⟨w, hb, hw⟩
    · obtain ⟨b', hb', t', ht⟩ := ih hw
      exact ⟨b', by simp [hb'], t', ht⟩
    · cases w with
      | nil =>
        obtain ⟨b', hb', t', ht⟩ := ih (y := []) hw.symm
        exact ⟨b', by simp [hb'], t', ht⟩
      | cons d w =>
        simp only [List.cons_append, List.cons.injEq] at hw
        obtain ⟨rfl, rfl⟩ := hw
        exact ⟨b, by simp, bs.flatMap encodeByte, by rw [digits_of_encodeByte hb]⟩

theorem count_percent_encodeByte (b : UInt8) : (encodeByte b).count '%' = if b == 0x25 then 1 else 0 := by
  have eq_iff : b = 0x25 ↔ b.toNat = 0x25 := by rw [← UInt8.toNat_inj]; rfl
  rcases encodeByte_cases b with ⟨he, hb⟩ | ⟨he, hlo, hhi, -⟩ | ⟨he, -, -, hb⟩
  · rw [he, if_neg (by simp only [beq_iff_eq, eq_iff]; omega)]
    rfl
  · rw [he, List.count_singleton]
    have hc : Char.ofNat b.toNat = '%' ↔ b = 0x25 := by
      rw [eq_iff]
      constructor
      · intro hc
        have := congrArg Char.toNat hc
        rwa [Utf8.toNat_charOfNat (by omega)] at this
      · intro hb
        rw [hb]
    simp only [beq_iff_eq, hc]
  · rw [he, if_neg (by simp only [beq_iff_eq, eq_iff]; exact hb), List.count_cons_of_ne (by decide)]
    exact List.count_eq_zero.2 (not_mem_byteHex (.inr (.inl rfl)) b)

theorem count_percent (bs : Bytes) : (bs.flatMap encodeByte).count '%' = bs.count 0x25 := by
  induction bs with
  | nil => rfl
  | cons b bs ih =>
    rw [List.flatMap_cons, List.count_append, ih, count_percent_encodeByte, List.count_cons]
    omega

theorem label_of_digits {cs : Charset} (h : Charset.Extended cs) {label u v : Text} {b : UInt8}
    (hne : label ≠ []) (hv : ∀ c ∈ label, Text.Visible c) (hname : Charset.ofName label = .ok cs)
    (hx : label ++ '\'' :: u = Number.byteHex b ++ v) : cs = .iso8859_1 ∧ b.toNat = 0x88 := by
  have hlt := b.toNat_lt
  have htrim : Text.trim label = label := Text.trim_eq_self (.of_visible hv)
  obtain ⟨c₁, label, rfl⟩ := List.exists_cons_of_ne_nil hne
  cases label with
  | nil =>
    -- One digit does not make a label.
    refine absurd ?_ (not_mem_byteHex (.inr (.inr rfl)) b)
    simp only [Number.byteHex, List.cons_append, List.nil_append, List.cons.injEq] at hx
    rw [hx.2.1]
    simp [Number.byteHex]
  | cons c₂ label =>
    simp only [Number.byteHex, List.cons_append, List.nil_append, List.cons.injEq] at hx
    obtain ⟨rfl, rfl, -⟩ := hx
    have lowerHex : ∀ n < 16, (hexDigit? (Number.upperHex n).toLower).isSome = true := by decide
    obtain ⟨rfl, h₈⟩ := h.label_digits hname (by
      rw [htrim]
      intro c hc
      simp only [Text.lower, List.map_cons, List.take_succ_cons, List.take_zero, List.mem_cons,
        List.not_mem_nil, or_false] at hc
      rcases hc with rfl | rfl
      · exact lowerHex _ (by omega)
      · exact lowerHex _ (by omega))
    rw [htrim] at h₈
    simp only [Text.lower, List.map_cons, List.take_succ_cons, List.take_zero, List.cons.injEq, and_true,
      Text.toLower_eq_iff (d := '8') (by decide)] at h₈
    exact ⟨rfl, eq_of_byteHex (by rw [Number.byteHex, h₈.1, h₈.2])⟩

/-- **No text is the extended value of its own payload.** What stands behind an
equals sign of a payload begins with two digits, and the only charset label
that does is `8859_1`. Its first digits are then those of the byte 0x88, which
only a further percent sign could have stood for. -/
theorem read_ne_of_payload {cs : Charset} (h : Charset.Extended cs) {s y t x z : Text}
    (hp : payload cs s = y ++ '=' :: t) (hx : x ++ z = t ++ ['?', '=', '"']) :
    ExtendedValue.read x ≠ .ok (cs, s) := by
  intro hr
  obtain ⟨label, lang, text, rfl, hne, hname, hs⟩ := ExtendedValue.read_eq_ok hr
  obtain ⟨b, hb, t', rfl⟩ := digits_of_equals hp
  have hle : text.count '%' ≤ (payload cs s).count '%' := by
    have hx := congrArg (List.count '%') hx
    have hp := congrArg (List.count '%') hp
    have htail : ['?', '=', '"'].count '%' = 0 := rfl
    simp only [List.count_append, List.count_cons_of_ne (by decide : '\'' ≠ '%'),
      List.count_cons_of_ne (by decide : '=' ≠ '%'), htail] at hx hp
    omega
  have visible : ∀ c ∈ label ++ '\'' :: (lang ++ '\'' :: text), Text.Visible c := by
    intro c hc
    exact visible_rest hp c (hx ▸ List.mem_append_left z hc)
  obtain ⟨rfl, hb₈⟩ := label_of_digits h hne (fun c hc => visible c (by simp [hc])) hname (b := b)
    (u := lang ++ '\'' :: text ++ z) (v := t' ++ ['?', '=', '"']) (by simpa using hx)
  have hbs : Charset.iso8859_1.encode s = ExtendedValue.percentDecode text := by
    rw [hs, Charset.encode_decode_iso8859_1]
  -- The text has a percent sign for each of its own and one for that byte.
  have hpercent := count_percent (Charset.iso8859_1.encode s)
  have hdecode := ExtendedValue.count_percentDecode (t := text) fun c hc => by
    have := (visible c (by simp [hc])).2
    omega
  have hpos : 0 < (Charset.iso8859_1.encode s).count 0x88 := by
    rw [List.count_pos_iff]
    have : b = 0x88 := UInt8.toNat_inj.1 hb₈
    rwa [this] at hb
  rw [payload, hpercent, hbs] at hle
  rw [hbs] at hpos
  omega

end MessageHead.EncodedWord
