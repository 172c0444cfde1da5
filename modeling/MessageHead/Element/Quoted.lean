/-
Quoted texts inside a header value. Both readers here start behind the opening quote: `skip?`
finds where the text ends, `read?` also resolves its escapes. `split?` cuts a value at a
delimiter wherever that stands outside quotes.
-/
import MessageHead.Error

namespace MessageHead.Quoted

/-- Cuts `s` behind the closing quote. A backslash hides the character after it; one that
ends the text hides nothing. -/
def skip? : Text → Option (Text × Text)
  | [] => none
  | '"' :: s => some (['"'], s)
  | '\\' :: c :: s => (skip? s).map fun (raw, rest) => ('\\' :: c :: raw, rest)
  | c :: s => (skip? s).map fun (raw, rest) => (c :: raw, rest)

/-- The quoted text, its escapes resolved, and what follows the closing quote. -/
def read? : Text → Option (Text × Text)
  | [] => none
  | '"' :: s => some ([], s)
  | '\\' :: c :: s => (read? s).map fun (value, rest) => (c :: value, rest)
  | c :: s => (read? s).map fun (value, rest) => (c :: value, rest)

theorem append_of_skip? {s raw rest : Text} (h : skip? s = some (raw, rest)) :
    raw ++ rest = s := by
  fun_induction skip? s generalizing raw rest with
  | case1 => simp at h
  | case2 =>
    simp only [Option.some.injEq, Prod.mk.injEq] at h
    obtain ⟨rfl, rfl⟩ := h
    rfl
  | case3 c s ih =>
    obtain ⟨⟨raw', rest'⟩, h', he⟩ := Option.map_eq_some_iff.1 h
    simp only [Prod.mk.injEq] at he
    obtain ⟨rfl, rfl⟩ := he
    simp [ih h']
  | case4 c s _ _ ih =>
    obtain ⟨⟨raw', rest'⟩, h', he⟩ := Option.map_eq_some_iff.1 h
    simp only [Prod.mk.injEq] at he
    obtain ⟨rfl, rfl⟩ := he
    simp [ih h']

theorem skip?_suffix {s raw rest : Text} (h : skip? s = some (raw, rest)) : rest <:+ s :=
  ⟨raw, append_of_skip? h⟩

theorem read?_suffix {s value rest : Text} (h : read? s = some (value, rest)) : rest <:+ s := by
  fun_induction read? s generalizing value rest with
  | case1 => simp at h
  | case2 =>
    simp only [Option.some.injEq, Prod.mk.injEq] at h
    obtain ⟨_, rfl⟩ := h
    exact List.suffix_cons _ _
  | case3 c s ih =>
    obtain ⟨⟨value', rest'⟩, h', he⟩ := Option.map_eq_some_iff.1 h
    simp only [Prod.mk.injEq] at he
    obtain ⟨_, rfl⟩ := he
    exact ((ih h').trans (List.suffix_cons _ _)).trans (List.suffix_cons _ _)
  | case4 c s _ _ ih =>
    obtain ⟨⟨value', rest'⟩, h', he⟩ := Option.map_eq_some_iff.1 h
    simp only [Prod.mk.injEq] at he
    obtain ⟨_, rfl⟩ := he
    exact (ih h').trans (List.suffix_cons _ _)

/-- Puts `front` before the first of the segments. -/
def extendFirst (front : Text) : List Text → List Text
  | [] => [front]
  | segment :: more => (front ++ segment) :: more

/-- Cuts `s` at every `delimiter` that stands outside quotes. The segments keep their quotes
and their blanks. -/
def split? (delimiter : Char) (s : Text) : Except ParseError (List Text) :=
  match s with
  | [] => .ok [[]]
  | c :: s =>
    if c == '"' then
      match _h : skip? s with
      | none => .error (.unterminatedQuote (c :: s))
      | some (raw, rest) => (split? delimiter rest).map (extendFirst (c :: raw))
    else if c == delimiter then (split? delimiter s).map ([] :: ·)
    else (split? delimiter s).map (extendFirst [c])
termination_by s.length
decreasing_by
  · have := (skip?_suffix _h).length_le
    simp only [List.length_cons]; omega
  · simp
  · simp

/-- What stands between the quotes of a text that begins and ends with one. -/
def inner? : Text → Option Text
  | '"' :: s => if s.getLast? = some '"' then some s.dropLast else none
  | _ => none

/-- `s` without one layer of quotes around it, when it has one; otherwise `s`. -/
def unquote (s : Text) : Text := (inner? s).getD s

end MessageHead.Quoted
