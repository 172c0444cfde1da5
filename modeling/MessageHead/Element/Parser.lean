/-
Reading a header value as a list of elements:

    value     = element *( "," element )
    element   = pair *( ";" pair )
    pair      = token [ "=" ( token / quoted-text ) ]

A token runs to the next delimiter outside quotes and loses the blanks at its ends; a quoted
text is a value only when it begins one. Every reader returns what is left to read, a suffix
of what it got, and an element takes at least one character.
-/
import MessageHead.Element.Basic
import MessageHead.Element.Quoted
import MessageHead.Text.Blank

namespace MessageHead.Element

/-- Why reading stops, before positions are counted. -/
inductive Fault where
  /-- A quoted text is not closed; `opened` runs from its opening quote to the end. -/
  | unterminatedQuote (opened : Text)
  /-- `rest` follows a quoted value and begins with no delimiter but with `found`. -/
  | unexpected (found : Char) (rest : Text)
deriving DecidableEq, Repr

/-- Space, tab, carriage return and line feed: what may stand around a quoted value. -/
def isSpacing (c : Char) : Bool := c == ' ' || c == '\t' || c == '\r' || c == '\n'

/-- What ends a name. -/
def endsName (c : Char) : Bool := c == '=' || c == ';' || c == ','

/-- What ends a value. -/
def endsValue (c : Char) : Bool := c == ';' || c == ','

/-! ## Tokens and pairs -/

/-- Reads up to the first character satisfying `stop` outside quotes. -/
def readRaw (stop : Char → Bool) (s : Text) : Except Fault (Text × Text) :=
  match s with
  | [] => .ok ([], [])
  | c :: s =>
    if stop c then .ok ([], c :: s)
    else if c == '"' then
      match _h : Quoted.skip? s with
      | none => .error (.unterminatedQuote (c :: s))
      | some (quoted, rest) =>
        (readRaw stop rest).map fun (raw, rest) => (c :: quoted ++ raw, rest)
    else (readRaw stop s).map fun (raw, rest) => (c :: raw, rest)
termination_by s.length
decreasing_by
  · have := (Quoted.skip?_suffix _h).length_le
    simp only [List.length_cons]; omega
  · simp

/-- Reads a token: as `readRaw`, without blanks at either end. -/
def readToken (stop : Char → Bool) (s : Text) : Except Fault (Text × Text) :=
  (readRaw stop s).map fun (raw, rest) => (Text.trim raw, rest)

/-- Closes a quoted value: after spacing, the text ends or a delimiter follows. -/
def closeValue (value rest : Text) : Except Fault (Text × Text) :=
  match rest.dropWhile isSpacing with
  | [] => .ok (value, [])
  | c :: rest => if endsValue c then .ok (value, c :: rest) else .error (.unexpected c (c :: rest))

/-- Reads what follows an equals sign. -/
def readValue (s : Text) : Except Fault (Text × Text) :=
  match s.dropWhile isSpacing with
  | '"' :: body =>
    match Quoted.read? body with
    | none => .error (.unterminatedQuote ('"' :: body))
    | some (value, rest) => closeValue value rest
  | s => readToken endsValue s

/-- Reads a name and, when an equals sign follows, its value. -/
def readPair (s : Text) : Except Fault (Parameter × Text) :=
  match readToken endsName s with
  | .error e => .error e
  | .ok (name, '=' :: rest) =>
    (readValue rest).map fun (value, rest) => (⟨name, some value⟩, rest)
  | .ok (name, rest) => .ok (⟨name, none⟩, rest)

/-! ## What a reader leaves -/

/-- `rest` is empty or begins with a character satisfying `stop`. -/
def StopsAt (stop : Char → Bool) (rest : Text) : Prop := ∀ c ∈ rest.head?, stop c = true

theorem map_eq_ok {ε α β : Type} {f : α → β} {r : Except ε α} {b : β} :
    r.map f = .ok b ↔ ∃ a, r = .ok a ∧ f a = b := by
  cases r <;> simp [Except.map]

theorem append_of_readRaw {stop : Char → Bool} {s raw rest : Text}
    (h : readRaw stop s = .ok (raw, rest)) : raw ++ rest = s ∧ StopsAt stop rest := by
  fun_induction readRaw stop s generalizing raw rest with
  | case1 => simp_all [StopsAt]
  | case2 c s hc =>
    simp only [Except.ok.injEq, Prod.mk.injEq] at h
    obtain ⟨rfl, rfl⟩ := h
    exact ⟨rfl, by simp [StopsAt, hc]⟩
  | case3 => simp at h
  | case4 c s _ _ quoted rest' hs ih =>
    obtain ⟨⟨raw', rest''⟩, h', he⟩ := map_eq_ok.1 h
    simp only [Prod.mk.injEq] at he
    obtain ⟨rfl, rfl⟩ := he
    obtain ⟨ha, hr⟩ := ih h'
    exact ⟨by simp [ha, Quoted.append_of_skip? hs], hr⟩
  | case5 c s _ _ ih =>
    obtain ⟨⟨raw', rest''⟩, h', he⟩ := map_eq_ok.1 h
    simp only [Prod.mk.injEq] at he
    obtain ⟨rfl, rfl⟩ := he
    obtain ⟨ha, hr⟩ := ih h'
    exact ⟨by simp [ha], hr⟩

theorem readToken_suffix {stop : Char → Bool} {s token rest : Text}
    (h : readToken stop s = .ok (token, rest)) : rest <:+ s ∧ StopsAt stop rest := by
  obtain ⟨⟨raw, rest'⟩, h', he⟩ := map_eq_ok.1 h
  simp only [Prod.mk.injEq] at he
  obtain ⟨_, rfl⟩ := he
  obtain ⟨ha, hr⟩ := append_of_readRaw h'
  exact ⟨⟨raw, ha⟩, hr⟩

theorem closeValue_suffix {value rest value' rest' : Text}
    (h : closeValue value rest = .ok (value', rest')) :
    rest' <:+ rest ∧ StopsAt endsValue rest' := by
  unfold closeValue at h
  have hs := List.dropWhile_suffix isSpacing (l := rest)
  split at h
  · simp only [Except.ok.injEq, Prod.mk.injEq] at h
    obtain ⟨_, rfl⟩ := h
    exact ⟨List.nil_suffix, by simp [StopsAt]⟩
  · rename_i c r hc
    rw [hc] at hs
    split at h
    · rename_i hstop
      simp only [Except.ok.injEq, Prod.mk.injEq] at h
      rw [← h.2]
      exact ⟨hs, by simp [StopsAt, hstop]⟩
    · simp at h

theorem readValue_suffix {s value rest : Text} (h : readValue s = .ok (value, rest)) :
    rest <:+ s ∧ StopsAt endsValue rest := by
  unfold readValue at h
  have hs := List.dropWhile_suffix isSpacing (l := s)
  split at h
  · rename_i body hb
    rw [hb] at hs
    split at h
    · simp at h
    · rename_i value' rest' hq
      obtain ⟨h1, h2⟩ := closeValue_suffix h
      exact ⟨((h1.trans (Quoted.read?_suffix hq)).trans (List.suffix_cons _ _)).trans hs, h2⟩
  · obtain ⟨h1, h2⟩ := readToken_suffix h
    exact ⟨h1.trans hs, h2⟩

theorem readPair_suffix {s rest : Text} {p : Parameter} (h : readPair s = .ok (p, rest)) :
    rest <:+ s ∧ StopsAt endsValue rest := by
  unfold readPair at h
  split at h
  · simp at h
  · rename_i name rest' ht
    obtain ⟨⟨value, rest''⟩, hv, he⟩ := map_eq_ok.1 h
    simp only [Prod.mk.injEq] at he
    obtain ⟨_, rfl⟩ := he
    obtain ⟨h1, h2⟩ := readValue_suffix hv
    exact ⟨(h1.trans (List.suffix_cons _ _)).trans (readToken_suffix ht).1, h2⟩
  · rename_i name rest' hne ht
    simp only [Except.ok.injEq, Prod.mk.injEq] at h
    obtain ⟨_, rfl⟩ := h
    obtain ⟨h1, h2⟩ := readToken_suffix ht
    refine ⟨h1, ?_⟩
    intro c hc
    have := h2 c hc
    cases rest' with
    | nil => simp at hc
    | cons d r =>
      simp only [List.head?_cons, Option.mem_def, Option.some.injEq] at hc
      subst hc
      have hne : d ≠ '=' := fun e => hne r (by rw [e])
      simpa [endsName, endsValue, hne] using this

/-! ## Elements -/

/-- Reads the parameters: a pair after each semicolon. A pair without a name is left out. -/
def readParameters (s : Text) : Except Fault (List Parameter × Text) :=
  match s with
  | ';' :: s =>
    match _h : readPair s with
    | .error e => .error e
    | .ok (p, rest) =>
      (readParameters rest).map fun (ps, rest) => (if p.name.isEmpty then ps else p :: ps, rest)
  | s => .ok ([], s)
termination_by s.length
decreasing_by
  have := (readPair_suffix _h).1.length_le
  simp only [List.length_cons]; omega

/-- `s` without the comma in front, when there is one. -/
def dropComma : Text → Text
  | ',' :: s => s
  | s => s

/-- Reads one element and the comma behind it, if there is one. -/
def readElement (s : Text) : Except Fault (Element × Text) :=
  match readPair s with
  | .error e => .error e
  | .ok (head, rest) =>
    (readParameters rest).map fun (parameters, rest) =>
      (⟨head.name, head.value, parameters⟩, dropComma rest)

theorem readParameters_suffix {s rest : Text} {ps : List Parameter}
    (h : readParameters s = .ok (ps, rest)) : rest <:+ s := by
  fun_induction readParameters s generalizing ps rest with
  | case1 => simp at h
  | case2 s p rest' hp ih =>
    obtain ⟨⟨ps', rest''⟩, h', he⟩ := map_eq_ok.1 h
    simp only [Prod.mk.injEq] at he
    obtain ⟨_, rfl⟩ := he
    exact ((ih h').trans (readPair_suffix hp).1).trans (List.suffix_cons _ _)
  | case3 =>
    simp only [Except.ok.injEq, Prod.mk.injEq] at h
    obtain ⟨_, rfl⟩ := h
    exact List.suffix_rfl

theorem dropComma_suffix (s : Text) : dropComma s <:+ s := by
  unfold dropComma
  split
  · exact List.suffix_cons _ _
  · exact List.suffix_rfl

theorem readElement_suffix {s rest : Text} {e : Element} (h : readElement s = .ok (e, rest)) :
    rest <:+ s := by
  unfold readElement at h
  split at h
  · simp at h
  · rename_i head rest' hp
    obtain ⟨⟨ps, rest''⟩, h', he⟩ := map_eq_ok.1 h
    simp only [Prod.mk.injEq] at he
    obtain ⟨_, rfl⟩ := he
    exact ((dropComma_suffix _).trans (readParameters_suffix h')).trans (readPair_suffix hp).1

/-- An element read from a text that is not empty takes at least one character of it: its
head pair does, or the semicolon or comma behind the pair. -/
theorem length_of_readElement {c : Char} {s rest : Text} {e : Element}
    (h : readElement (c :: s) = .ok (e, rest)) : rest.length < (c :: s).length := by
  unfold readElement at h
  split at h
  · simp at h
  · rename_i head rest' hp
    obtain ⟨⟨ps, rest''⟩, h', he⟩ := map_eq_ok.1 h
    simp only [Prod.mk.injEq] at he
    obtain ⟨_, rfl⟩ := he
    obtain ⟨hs, hstop⟩ := readPair_suffix hp
    have hs := hs.length_le
    have hd := (dropComma_suffix rest'').length_le
    cases rest' with
    | nil =>
      have := (readParameters_suffix h').length_le
      simp only [List.length_nil, List.length_cons] at this ⊢
      omega
    | cons d r =>
      have hdv := hstop d (by simp)
      by_cases hsemi : d = ';'
      · subst hsemi
        rw [readParameters] at h'
        split at h'
        · simp at h'
        · rename_i p r' hp'
          obtain ⟨⟨ps', r''⟩, h'', he⟩ := map_eq_ok.1 h'
          simp only [Prod.mk.injEq] at he
          obtain ⟨_, rfl⟩ := he
          have h1 := (readParameters_suffix h'').length_le
          have h2 := (readPair_suffix hp').1.length_le
          simp only [List.length_cons] at hs ⊢
          omega
      · have hcomma : d = ',' := by simpa [endsValue, hsemi] using hdv
        subst hcomma
        rw [readParameters.eq_2 _ (by simp)] at h'
        simp only [Except.ok.injEq, Prod.mk.injEq] at h'
        obtain ⟨_, rfl⟩ := h'
        simp only [dropComma, List.length_cons] at hs ⊢
        omega

/-- Reads elements to the end of the text, leaving out those that say nothing. -/
def readAll (s : Text) : Except Fault (List Element) :=
  match s with
  | [] => .ok []
  | c :: s =>
    match _h : readElement (c :: s) with
    | .error e => .error e
    | .ok (e, rest) => (readAll rest).map fun es => if e.isVoid then es else e :: es
termination_by s.length
decreasing_by exact length_of_readElement _h

end MessageHead.Element
