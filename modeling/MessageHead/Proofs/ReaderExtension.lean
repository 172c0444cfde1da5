/-
Reading a longer text. When a semicolon and something without quotes is put
behind a text, the readers of names, values and pairs do what they did before
and leave that much more (`Extends`): nothing they met reaches past the
semicolon, because quotes that are open at the end of the text stay open. For
parameters this says how reading goes on behind those of the shorter text
(`readParameters_extend`).
-/
import MessageHead.Proofs.ElementRoundTrip

namespace MessageHead

namespace Quoted

/-- What is read is read off the characters that skipping takes, whatever follows them. -/
theorem raw_of_read? {s value rest : Text} (h : read? s = some (value, rest)) :
    ∃ raw, skip? s = some (raw, rest) ∧ ∀ t, read? (raw ++ t) = some (value, t) := by
  rw [read?_eq] at h
  obtain ⟨⟨raw, rest'⟩, hs, he⟩ := Option.map_eq_some_iff.1 h
  simp only [Prod.mk.injEq] at he
  obtain ⟨rfl, rfl⟩ := he
  refine ⟨raw, hs, fun t => ?_⟩
  rw [read?_eq, skip?_of_modes (modes_of_skip? hs).1 (modes_of_skip? hs).2]
  rfl

theorem read?_append {s value rest : Text} (h : read? s = some (value, rest)) (t : Text) :
    read? (s ++ t) = some (value, rest ++ t) := by
  obtain ⟨raw, hs, hr⟩ := raw_of_read? h
  rw [← append_of_skip? hs, List.append_assoc, hr]

theorem read?_append_eq_none {s t : Text} (ht : '"' ∉ t) (h : read? s = none) : read? (s ++ t) = none := by
  rw [read?_eq, Option.map_eq_none_iff] at h ⊢
  exact skip?_append_eq_none ht h

theorem length_lt_of_read? {s value rest : Text} (h : read? s = some (value, rest)) :
    value.length < (Escape.decode s).length := by
  fun_induction read? s generalizing value rest with
  | case1 => simp at h
  | case2 =>
    simp only [Option.some.injEq, Prod.mk.injEq] at h
    obtain ⟨rfl, -⟩ := h
    simp [Escape.decode]
  | case3 c s ih =>
    obtain ⟨⟨value', rest'⟩, h', he⟩ := Option.map_eq_some_iff.1 h
    simp only [Prod.mk.injEq] at he
    obtain ⟨rfl, -⟩ := he
    have := ih h'
    rw [Escape.decode, List.length_cons, List.length_cons]
    omega
  | case4 c s hq hb ih =>
    obtain ⟨⟨value', rest'⟩, h', he⟩ := Option.map_eq_some_iff.1 h
    simp only [Prod.mk.injEq] at he
    obtain ⟨rfl, -⟩ := he
    have := ih h'
    rw [Escape.decode, List.length_cons, List.length_cons]
    · omega
    · exact hb

end Quoted

namespace Element

variable {α β : Type}

/-- What a reader makes of a text with `t` behind it: the same, with `t` behind
what it leaves, and an error if it made one of the text. -/
def Extends (t : Text) (r r' : Except Fault (α × Text)) : Prop :=
  match r with
  | .ok (a, rest) => r' = .ok (a, rest ++ t)
  | .error _ => ∃ fault, r' = .error fault

theorem Extends.map {t : Text} {r r' : Except Fault (α × Text)} (h : Extends t r r') (f : α → β) :
    Extends t (r.map fun (a, rest) => (f a, rest)) (r'.map fun (a, rest) => (f a, rest)) := by
  cases r with
  | ok p =>
    have h : r' = .ok (p.1, p.2 ++ t) := h
    rw [h]
    rfl
  | error e =>
    obtain ⟨fault, rfl⟩ : ∃ fault, r' = .error fault := h
    exact ⟨fault, rfl⟩

variable {t : Text}

theorem readRaw_extends {stop : Char → Bool} (hstop : stop ';' = true) (ht : '"' ∉ t) (s : Text) :
    Extends (';' :: t) (readRaw stop s) (readRaw stop (s ++ ';' :: t)) := by
  fun_induction readRaw stop s with
  | case1 => rw [List.nil_append, readRaw, if_pos hstop]; rfl
  | case2 c s hc => rw [List.cons_append, readRaw, if_pos hc]; rfl
  | case3 c s hc hq hs =>
    have hcq : c = '"' := by simpa using hq
    subst hcq
    have ht' : '"' ∉ ';' :: t := by simpa using ht
    rw [List.cons_append, readRaw_quote_none hc (Quoted.skip?_append_eq_none ht' hs)]
    exact ⟨_, rfl⟩
  | case4 c s hc hq quoted rest hs ih =>
    have hcq : c = '"' := by simpa using hq
    subst hcq
    rw [List.cons_append, readRaw_quote hc (Quoted.skip?_append hs _)]
    exact ih.map ('"' :: quoted ++ ·)
  | case5 c s hc hq ih =>
    rw [List.cons_append, readRaw, if_neg hc, if_neg hq]
    exact ih.map (c :: ·)

theorem readToken_extends {stop : Char → Bool} (hstop : stop ';' = true) (ht : '"' ∉ t) (s : Text) :
    Extends (';' :: t) (readToken stop s) (readToken stop (s ++ ';' :: t)) :=
  (readRaw_extends hstop ht s).map Text.trim

theorem dropWhile_spacing_append (s t : Text) :
    (s ++ ';' :: t).dropWhile isSpacing = s.dropWhile isSpacing ++ ';' :: t := by
  rw [List.dropWhile_append]
  split
  · rename_i h
    rw [List.isEmpty_iff.1 h]
    rfl
  · rfl

theorem closeValue_extends (value rest : Text) :
    Extends (';' :: t) (closeValue value rest) (closeValue value (rest ++ ';' :: t)) := by
  unfold closeValue
  rw [dropWhile_spacing_append]
  cases rest.dropWhile isSpacing with
  | nil => rfl
  | cons c rest =>
    simp only [List.cons_append]
    split
    · rfl
    · exact ⟨_, rfl⟩

theorem readValue_extends (ht : '"' ∉ t) (s : Text) :
    Extends (';' :: t) (readValue s) (readValue (s ++ ';' :: t)) := by
  obtain ⟨a, ha, ⟨body, rfl⟩ | ⟨u, rfl, hu⟩⟩ := exists_spacing s
  · rw [List.append_assoc, List.cons_append]
    cases hr : Quoted.read? body with
    | none =>
      have ht' : '"' ∉ ';' :: t := by simpa using ht
      rw [readValue_quote_none ha hr, readValue_quote_none ha (Quoted.read?_append_eq_none ht' hr)]
      exact ⟨_, rfl⟩
    | some p =>
      rw [readValue_quote ha hr, readValue_quote ha (Quoted.read?_append hr _)]
      exact closeValue_extends p.1 p.2
  · have hut : StopsAt startsBare (u ++ ';' :: t) := hu.append (.cons rfl t)
    rw [List.append_assoc, readValue_bare ha hu, readValue_bare ha hut]
    exact readToken_extends rfl ht u

theorem readPair_extends (ht : '"' ∉ t) (s : Text) :
    Extends (';' :: t) (readPair s) (readPair (s ++ ';' :: t)) := by
  have hn : Extends (';' :: t) (readToken endsName s) (readToken endsName (s ++ ';' :: t)) :=
    readToken_extends rfl ht s
  cases hs : readToken endsName s with
  | error e =>
    rw [hs] at hn
    obtain ⟨fault, hf⟩ := hn
    unfold readPair
    rw [hs, hf]
    exact ⟨_, rfl⟩
  | ok p =>
    obtain ⟨n, rest⟩ := p
    rw [hs] at hn
    have hn : readToken endsName (s ++ ';' :: t) = .ok (n, rest ++ ';' :: t) := hn
    by_cases hr : ∃ u, rest = '=' :: u
    · obtain ⟨u, rfl⟩ := hr
      rw [readPair_value hs, readPair_value hn]
      exact (readValue_extends ht u).map fun v => Parameter.mk n (some v)
    · have hr' : ∀ u, rest ++ ';' :: t ≠ '=' :: u := by
        intro u he
        cases rest with
        | nil => simp at he
        | cons c rest =>
          rw [List.cons_append, List.cons.injEq] at he
          exact hr ⟨rest, by rw [he.1]⟩
      rw [readPair_name hs fun u he => hr ⟨u, he⟩, readPair_name hn hr']
      rfl

/-- What reading parameters makes of a text with a semicolon and `t` behind it:
the parameters behind the semicolon follow, unless a comma stopped it before. -/
def Continues (t : Text) (r r' : Except Fault (List Parameter × Text)) : Prop :=
  match r with
  | .ok (ps, []) => r' = (readParameters (';' :: t)).map fun (qs, rest) => (ps ++ qs, rest)
  | .ok (ps, c :: rest) => r' = .ok (ps, c :: rest ++ ';' :: t)
  | .error _ => ∃ fault, r' = .error fault

theorem Continues.cons {r r' : Except Fault (List Parameter × Text)} (h : Continues t r r') (p : Parameter) :
    Continues t (r.map fun (ps, rest) => (if p.name.isEmpty then ps else p :: ps, rest))
      (r'.map fun (ps, rest) => (if p.name.isEmpty then ps else p :: ps, rest)) := by
  cases r with
  | error e =>
    obtain ⟨fault, rfl⟩ : ∃ fault, r' = .error fault := h
    exact ⟨fault, rfl⟩
  | ok q =>
    obtain ⟨ps, left⟩ := q
    cases left with
    | nil =>
      have h : r' = (readParameters (';' :: t)).map fun (qs, rest) => (ps ++ qs, rest) := h
      rw [h]
      show _ = (readParameters (';' :: t)).map _
      cases readParameters (';' :: t) with
      | error e => rfl
      | ok q =>
        simp only [Except.map]
        split <;> rfl
    | cons c left =>
      have h : r' = .ok (ps, c :: left ++ ';' :: t) := h
      rw [h]
      rfl

/-- **Reading the parameters of a longer text** goes on behind those of the
shorter one, unless a comma stopped it. -/
theorem readParameters_continues (ht : '"' ∉ t) (s : Text) :
    Continues t (readParameters s) (readParameters (s ++ ';' :: t)) := by
  fun_induction readParameters s with
  | case1 s e he =>
    have hp := readPair_extends ht s
    rw [he] at hp
    obtain ⟨fault, hf⟩ := hp
    exact ⟨fault, readParameters_of_error hf⟩
  | case2 s p rest he ih =>
    have hp := readPair_extends ht s
    rw [he] at hp
    have hp : readPair (s ++ ';' :: t) = .ok (p, rest ++ ';' :: t) := hp
    rw [List.cons_append, readParameters_of_readPair hp]
    exact ih.cons p
  | case3 s hs =>
    cases s with
    | nil =>
      show readParameters (';' :: t) = (readParameters (';' :: t)).map _
      cases readParameters (';' :: t) <;> rfl
    | cons c s =>
      show readParameters (c :: s ++ ';' :: t) = _
      rw [List.cons_append, readParameters]
      rintro u hu
      exact hs s (by rw [(List.cons.inj hu).1])

/-- Visible text behind a closing quote begins with a delimiter, or there is an
error; it then holds no parameters of its own. -/
theorem closeValue_visible {s : Text} (hs : s ≠ []) (hv : ∀ c ∈ s, Text.Visible c) (value rest : Text) :
    closeValue value (s ++ rest) = .ok (value, s ++ rest) ∨
      readParameters s = .ok ([], s) ∧ ∃ fault, closeValue value (s ++ rest) = .error fault := by
  obtain ⟨c, u, rfl⟩ := List.exists_cons_of_ne_nil hs
  have hspace : isSpacing c = false := by
    cases hc : isSpacing c with
    | false => rfl
    | true =>
      have hb := isBlank_of_isSpacing hc
      rw [(hv c (by simp)).not_blank] at hb
      cases hb
  have hdrop : (c :: u ++ rest).dropWhile isSpacing = c :: u ++ rest :=
    Text.dropWhile_eq_self (by simpa using hspace)
  unfold closeValue
  rw [hdrop]
  simp only [List.cons_append]
  by_cases hc : endsValue c = true
  · exact .inl (if_pos hc)
  · refine .inr ⟨?_, _, if_neg hc⟩
    rw [readParameters]
    intro w hw
    obtain ⟨rfl, -⟩ := List.cons.inj hw
    exact hc rfl

end Element

end MessageHead
