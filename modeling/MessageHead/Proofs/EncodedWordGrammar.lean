/-
Which encoded words are read. Between its marks a word names a charset and an
encoding, and its payload is read when something that the reader takes for a byte
stands behind every equals sign (`payload?_eq_some_iff`). A byte has two
hexadecimal digits; the reader takes a plus sign for the first of them as well, so
it accepts words that are malformed.
-/
import MessageHead.Proofs.EncodedWordRoundTrip

namespace MessageHead.EncodedWord

/-! ## Digits -/

/-- A hexadecimal digit of ASCII, of either case. -/
def Hex (c : Char) : Prop := ('0' ≤ c ∧ c ≤ '9') ∨ ('A' ≤ c ∧ c ≤ 'F') ∨ ('a' ≤ c ∧ c ≤ 'f')

instance : DecidablePred Hex := fun _ => inferInstanceAs (Decidable (_ ∨ _ ∨ _))

/-- The value of a hexadecimal digit; any other character counts nothing. -/
def digitValue (c : Char) : Nat := (hexDigit? c).getD 0

theorem isSome_hexDigit? {c : Char} : (hexDigit? c).isSome = true ↔ Hex c := by
  simp only [hexDigit?, Hex, Bool.and_eq_true, decide_eq_true_eq]
  split
  · simp [*]
  · split
    · simp [*]
    · split <;> simp [*]

theorem hexDigit?_of_hex {c : Char} (h : Hex c) : hexDigit? c = some (digitValue c) := by
  obtain ⟨n, hn⟩ := Option.isSome_iff_exists.1 (isSome_hexDigit?.2 h)
  rw [digitValue, hn]
  rfl

theorem hexDigit?_eq_none {c : Char} (h : ¬Hex c) : hexDigit? c = none := by
  rw [← Option.not_isSome_iff_eq_none, isSome_hexDigit?]
  exact h

/-! ## Equals signs -/

variable {lead : Char → Prop} {p s : Text}

/-- Behind every equals sign stand a character with `lead` and a hexadecimal digit. -/
def Escaped (lead : Char → Prop) (p : Text) : Prop :=
  ∀ y t, p = y ++ '=' :: t → ∃ a b u, t = a :: b :: u ∧ lead a ∧ Hex b

/-- What the reader takes for the first digit of a byte. -/
def Lead (c : Char) : Prop := Hex c ∨ c = '+'

theorem Escaped.nil : Escaped lead [] := fun _ _ h => by simp at h

theorem escaped_cons {c : Char} (hc : c ≠ '=') : Escaped lead (c :: s) ↔ Escaped lead s := by
  constructor
  · intro h y t hs
    exact h (c :: y) t (by rw [hs, List.cons_append])
  · intro h y t hs
    cases y with
    | nil => exact absurd (List.cons.inj hs).1 hc
    | cons d y => exact h y t (List.cons.inj hs).2

theorem Escaped.head (h : Escaped lead ('=' :: s)) : ∃ a b u, s = a :: b :: u ∧ lead a ∧ Hex b := h [] s rfl

theorem escaped_byte {a b : Char} (ha : a ≠ '=') (hb : b ≠ '=') :
    Escaped lead ('=' :: a :: b :: s) ↔ (lead a ∧ Hex b) ∧ Escaped lead s := by
  have hskip : Escaped lead (a :: b :: s) ↔ Escaped lead s := (escaped_cons ha).trans (escaped_cons hb)
  rw [← hskip]
  constructor
  · intro h
    obtain ⟨a', b', u, hs, hab⟩ := h.head
    cases hs
    exact ⟨hab, fun y t hs => h ('=' :: y) t (by rw [hs, List.cons_append])⟩
  · rintro ⟨hab, h⟩ y t hs
    cases y with
    | nil => exact ⟨a, b, s, (List.cons.inj hs).2.symm, hab⟩
    | cons d y => exact h y t (List.cons.inj hs).2

/-- The plus sign apart, the reader accepts hexadecimal digits. -/
theorem escaped_hex_iff : Escaped Hex p ↔ Escaped Lead p ∧ ¬['=', '+'] <:+: p := by
  constructor
  · refine fun h => ⟨fun y t hp => ?_, ?_⟩
    · obtain ⟨a, b, u, ht, ha, hb⟩ := h y t hp
      exact ⟨a, b, u, ht, .inl ha, hb⟩
    · rintro ⟨y, t, hp⟩
      obtain ⟨a, b, u, ht, ha, -⟩ := h y ('+' :: t) (by rw [← hp]; simp)
      cases ht
      exact absurd ha (by decide)
  · rintro ⟨h, hplus⟩ y t hp
    obtain ⟨a, b, u, rfl, ha | rfl, hb⟩ := h y t hp
    · exact ⟨a, b, u, rfl, ha, hb⟩
    · exact absurd ⟨y, b :: u, by rw [hp]; simp⟩ hplus

/-! ## The payload -/

/-- The bytes of a payload: an underscore is a space, an equals sign and two digits are a
byte, and every other character is its own bytes. -/
def bytesOf : Text → Bytes
  | [] => []
  | '_' :: s => 0x20 :: bytesOf s
  | '=' :: a :: b :: s => UInt8.ofNat (digitValue a * 16 + digitValue b) :: bytesOf s
  | c :: s => Utf8.encodeChar c ++ bytesOf s

theorem hexByte?_of_hex {a b : Char} (ha : Lead a) (hb : Hex b) :
    hexByte? a b = some (UInt8.ofNat (digitValue a * 16 + digitValue b)) := by
  rw [hexByte?, hexDigit?_of_hex hb]
  rcases ha with ha | rfl
  · have hplus : (a == '+') = false := by
      rw [beq_eq_false_iff_ne]
      rintro rfl
      exact absurd ha (by decide)
    simp [hplus, hexDigit?_of_hex ha]
  · have hzero : digitValue '+' = 0 := by decide
    simp [hzero]

theorem of_hexByte? {a b : Char} {n : UInt8} (h : hexByte? a b = some n) : Lead a ∧ Hex b := by
  unfold hexByte? at h
  by_cases hb : Hex b
  · refine ⟨?_, hb⟩
    by_cases ha : Lead a
    · exact ha
    · obtain ⟨ha, hplus⟩ := not_or.1 ha
      simp [hexDigit?_of_hex hb, hplus, hexDigit?_eq_none ha] at h
  · rw [hexDigit?_eq_none hb] at h
    cases h

theorem Lead.ne_equals {a : Char} (h : Lead a) : a ≠ '=' := by
  rintro rfl
  exact absurd h (by unfold Lead; decide)

theorem Hex.ne_equals {a : Char} (h : Hex a) : a ≠ '=' := by
  rintro rfl
  exact absurd h (by decide)

theorem map_payload? {f : Bytes → Bytes} {bs : Bytes}
    (h : ∀ {bs}, payload? s = some bs ↔ Escaped Lead s ∧ bs = bytesOf s) :
    (payload? s).map f = some bs ↔ Escaped Lead s ∧ bs = f (bytesOf s) := by
  rw [Option.map_eq_some_iff]
  constructor
  · rintro ⟨rest, hrest, rfl⟩
    obtain ⟨he, rfl⟩ := h.1 hrest
    exact ⟨he, rfl⟩
  · rintro ⟨he, rfl⟩
    exact ⟨_, h.2 ⟨he, rfl⟩, rfl⟩

/-- **A payload is read exactly when every equals sign begins a byte**, as its bytes. -/
theorem payload?_eq_some_iff {bs : Bytes} : payload? p = some bs ↔ Escaped Lead p ∧ bs = bytesOf p := by
  induction p using payload?.induct generalizing bs with
  | case1 => simp [payload?, bytesOf, Escaped.nil, eq_comm]
  | case2 s ih => rw [payload?, map_payload? ih, escaped_cons (by decide), bytesOf]
  | case3 a b s hn =>
    rw [payload?, hn]
    constructor
    · intro h
      cases h
    · rintro ⟨he, -⟩
      obtain ⟨a', b', u, hs, ha, hb⟩ := he.head
      cases hs
      rw [hexByte?_of_hex ha hb] at hn
      cases hn
  | case4 a b s n hn ih =>
    obtain ⟨ha, hb⟩ := of_hexByte? hn
    rw [hexByte?_of_hex ha hb, Option.some.injEq] at hn
    rw [payload?, hexByte?_of_hex ha hb, escaped_byte ha.ne_equals hb.ne_equals, bytesOf]
    simp only [map_payload? ih, ha, hb, and_self, true_and]
  | case5 c s h₁ h₂ hc =>
    cases eq_of_beq hc
    rw [payload?.eq_4 _ _ h₁ h₂, if_pos hc]
    constructor
    · intro h
      cases h
    · rintro ⟨he, -⟩
      obtain ⟨a, b, u, rfl, -⟩ := he.head
      exact absurd rfl (h₂ a b u rfl)
  | case6 c s h₁ h₂ hc ih =>
    have hne : c ≠ '=' := by simpa using hc
    rw [payload?.eq_4 _ _ h₁ h₂, if_neg hc, map_payload? ih, escaped_cons hne, bytesOf.eq_4 _ _ h₁ h₂]

/-! ## The word -/

/-- A word is cut at the first two question marks between its marks. -/
structure Framed (s name encoding payload : Text) : Prop where
  text : s = ['=', '?'] ++ (name ++ '?' :: (encoding ++ '?' :: payload)) ++ ['?', '=']
  name : '?' ∉ name
  encoding : '?' ∉ encoding

/-- The charset is known by the name, and the encoding is the one that is read. -/
structure Known (name encoding : Text) (cs : Charset) : Prop where
  encoding : Text.sameFold encoding ['q'] = true
  charset : Charset.ofName name = .ok cs

variable {name encoding payload : Text} {cs : Charset}

theorem fields?_framed (hf : Framed s name encoding payload) : fields? s = some (name, encoding, payload) :=
  fields?_eq_some_iff.2 ⟨hf.text, hf.name, hf.encoding⟩

theorem exists_framed (h : Shaped s) : ∃ name encoding payload, Framed s name encoding payload := by
  obtain ⟨⟨name, encoding, payload⟩, hf⟩ := Option.isSome_iff_exists.1 (fields?_isSome_iff.2 h)
  obtain ⟨ht, hn, he⟩ := fields?_eq_some_iff.1 hf
  exact ⟨name, encoding, payload, ht, hn, he⟩

theorem decode_known (hf : Framed s name encoding payload) (hk : Known name encoding cs) :
    decode s = match payload? payload with
      | none => .error (.parse (.invalidEncodedValue s))
      | some bs => .ok (cs.decode bs) := by
  rw [decode, fields?_framed hf]
  cases hp : payload? payload with
  | none | some bs => simp [hk.encoding, hk.charset, hp]

theorem decode_escaped (hf : Framed s name encoding payload) (hk : Known name encoding cs)
    (he : Escaped Lead payload) : decode s = .ok (cs.decode (bytesOf payload)) := by
  rw [decode_known hf hk, payload?_eq_some_iff.2 ⟨he, rfl⟩]

theorem decode_not_escaped (hf : Framed s name encoding payload) (hk : Known name encoding cs)
    (he : ¬Escaped Lead payload) : decode s = .error (.parse (.invalidEncodedValue s)) := by
  rw [decode_known hf hk]
  cases hp : payload? payload with
  | none => rfl
  | some bs => exact absurd (payload?_eq_some_iff.1 hp).1 he

theorem known_of_decode (hf : Framed s name encoding payload) {t : Text} (h : decode s = .ok t) :
    ∃ cs, Known name encoding cs := by
  rw [decode, fields?_framed hf] at h
  by_cases hq : Text.sameFold encoding ['q'] = true
  · cases hc : Charset.ofName name with
    | error e => simp [hq, hc] at h
    | ok cs => exact ⟨cs, hq, hc⟩
  · simp [hq] at h

theorem decode_isOk_iff (hf : Framed s name encoding payload) :
    (∃ t, decode s = .ok t) ↔ (∃ cs, Known name encoding cs) ∧ Escaped Lead payload := by
  constructor
  · rintro ⟨t, ht⟩
    obtain ⟨cs, hk⟩ := known_of_decode hf ht
    refine ⟨⟨cs, hk⟩, ?_⟩
    by_cases he : Escaped Lead payload
    · exact he
    · rw [decode_not_escaped hf hk he] at ht
      cases ht
  · rintro ⟨⟨cs, hk⟩, he⟩
    exact ⟨_, decode_escaped hf hk he⟩

/-- **Encoded words are read by their grammar, and plus signs beyond it.** A text that is no
word stands for itself. A word is read exactly when its charset and its encoding are known
and each equals sign of its payload begins a byte, and then as the bytes of the payload in
that charset. Hexadecimal digits are what this asks for unless a byte that is read has a plus
sign for its first digit. -/
theorem decode_grammar (s : Text) :
    (¬Shaped s → decode s = .ok s) ∧
      (Shaped s → ∃ name encoding payload, Framed s name encoding payload) ∧
      ∀ name encoding payload, Framed s name encoding payload →
        ((∃ t, decode s = .ok t) ↔ (∃ cs, Known name encoding cs) ∧ Escaped Lead payload) ∧
        (((∃ t, decode s = .ok t) ↔ (∃ cs, Known name encoding cs) ∧ Escaped Hex payload) ↔
          ¬((∃ cs, Known name encoding cs) ∧ Escaped Lead payload ∧ ['=', '+'] <:+: payload)) ∧
        ∀ cs, Known name encoding cs →
          (Escaped Lead payload → decode s = .ok (cs.decode (bytesOf payload))) ∧
          (¬Escaped Lead payload → decode s = .error (.parse (.invalidEncodedValue s))) := by
  refine ⟨decode_of_not_shaped, exists_framed, fun name encoding payload hf => ?_⟩
  have hread := decode_isOk_iff hf
  refine ⟨hread, ?_, fun cs hk => ⟨decode_escaped hf hk, decode_not_escaped hf hk⟩⟩
  rw [hread, escaped_hex_iff]
  constructor
  · rintro hiff ⟨hk, he, hplus⟩
    exact (hiff.1 ⟨hk, he⟩).2.2 hplus
  · intro hno
    exact ⟨fun ⟨hk, he⟩ => ⟨hk, he, fun hplus => hno ⟨hk, he, hplus⟩⟩, fun ⟨hk, he, _⟩ => ⟨hk, he⟩⟩

/-- A payload with a question mark, an underscore, digits of both cases and a character
that is no ASCII. -/
theorem decode_grammar_marks :
    Framed "=?utf8?q?a_?=C3=a9é?=".toList "utf8".toList ['q'] "a_?=C3=a9é".toList ∧
      Known "utf8".toList ['q'] .utf8 ∧ Escaped Lead "a_?=C3=a9é".toList ∧
      decode "=?utf8?q?a_?=C3=a9é?=".toList = .ok "a ?éé".toList := by
  have hf : Framed "=?utf8?q?a_?=C3=a9é?=".toList "utf8".toList ['q'] "a_?=C3=a9é".toList :=
    ⟨by decide, by decide, by decide⟩
  have hk : Known "utf8".toList ['q'] .utf8 := ⟨by decide, by rfl⟩
  have hp : payload? "a_?=C3=a9é".toList = some [0x61, 0x20, 0x3F, 0xC3, 0xA9, 0xC3, 0xA9] := by decide
  have he : Escaped Lead "a_?=C3=a9é".toList := (payload?_eq_some_iff.1 hp).1
  obtain ⟨-, -, hword⟩ := decode_grammar "=?utf8?q?a_?=C3=a9é?=".toList
  obtain ⟨-, -, hread⟩ := hword _ _ _ hf
  exact ⟨hf, hk, he, (hread .utf8 hk).1 he⟩

/-- A plus sign is taken for a digit. -/
theorem decode_grammar_plus :
    Framed "=?UTF-8?Q?=+A?=".toList "UTF-8".toList ['Q'] "=+A".toList ∧ Known "UTF-8".toList ['Q'] .utf8 ∧
      decode "=?UTF-8?Q?=+A?=".toList = .ok ['\n'] ∧ ¬Escaped Hex "=+A".toList := by
  refine ⟨⟨by decide, by decide, by decide⟩, ⟨by decide, by rfl⟩, by rfl, fun he => ?_⟩
  exact (escaped_hex_iff.1 he).2 ⟨[], ['A'], rfl⟩

end MessageHead.EncodedWord
