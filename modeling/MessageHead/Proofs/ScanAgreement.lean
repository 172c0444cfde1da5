/-
The scan of `MessageHead.Element.Scan` and the readers it stands beside agree.

At every offset at which a scan function starts, it does what the reader does on the rest of the
text; `answer` turns what the reader leaves into the offset at which the scan stops.
-/
import MessageHead.Proofs.ScanPieces
import MessageHead.Proofs.ElementRoundTrip

namespace MessageHead.Scan

open Element (Fault isSpacing endsName endsValue)
open Utf8 (size)

variable {s rest : Text} {pos upper : Nat}

/-! ## Quotes -/

/-- A quote or a backslash. -/
def isMark (c : Char) : Bool := c == '"' || c == '\\'

theorem ascii_isMark : Ascii isMark := (ascii_eq (by decide)).or (ascii_eq (by decide))

/-- What neither closes a quoted text nor hides anything: another character, or a backslash at the end. -/
theorem inert_cases {c : Char} (hq : c = '"' → False) (hbs : ∀ d t, c = '\\' → rest = d :: t → False) :
    isMark c = false ∨ c = '\\' ∧ rest = [] := by
  by_cases hc : c = '\\'
  · cases rest with
    | nil => exact .inr ⟨hc, rfl⟩
    | cons d rest => exact (hbs d rest hc rfl).elim
  · have hne : c ≠ '"' := hq
    exact .inl (by simp [isMark, hc, hne])

theorem skipFrom_pass {start p : Nat} {b : UInt8} (hlt : p < size s) (hb : byte s p = pure b)
    (h : isAscii isMark b = false) : skipFrom s start p = skipFrom s start (p + 1) := by
  obtain ⟨hq, hbs⟩ := isAscii_or h
  rw [skipFrom, round_of_byte hlt hb]
  simp [hq, hbs]

/-- What a skip from a text leaves, as an offset; `opened` is the error's text. -/
def quoteEnd (upper : Nat) (opened : Text) : Option (Text × Text) → Scan Nat
  | some (_, left) => pure (upper - size left)
  | none => throw (.unterminatedQuote opened)

theorem quoteEnd_map (f : Text → Text) (upper : Nat) (opened : Text) (r : Option (Text × Text)) :
    quoteEnd upper opened (r.map fun (raw, left) => (f raw, left)) = quoteEnd upper opened r := by
  cases r <;> rfl

/-- **Skipping by offsets is skipping by characters.** -/
theorem skipFrom_eq {start : Nat} {opened : Text} (hopen : piece? s start (size s) = some opened)
    (h : piece? s pos (size s) = some rest) :
    skipFrom s start pos = quoteEnd (size s) opened (Quoted.skip? rest) := by
  fun_induction Quoted.skip? rest generalizing pos with
  | case1 =>
    rw [skipFrom, round_nil h, piece, hopen]
    rfl
  | case2 rest =>
    obtain ⟨b, hp, hround⟩ := round_cons h
    have hend : pos + (1 + size rest) = size s := (end_of_piece? h).1
    rw [skipFrom, hround, hp _ (ascii_eq (by decide)), hp _ (ascii_eq (by decide))]
    show pure (pos + 1) = pure (size s - size rest)
    congr 1
    omega
  | case3 c rest ih =>
    obtain ⟨b, hp, hround⟩ := round_cons h
    have hc : piece? s (pos + 1) (size s) = some (c :: rest) := piece?_cons h
    have hlt : pos + 1 < size s := pos_lt_of_piece? hc
    rw [skipFrom, hround, hp _ (ascii_eq (by decide)), if_pos (by simpa using hlt),
      quoteEnd_map (fun raw => '\\' :: c :: raw), ← ih (piece?_cons hc)]
    -- The second byte is the first one of what is hidden.
    exact pass ascii_isMark (fun _ _ => skipFrom_pass) hc c.utf8Size_pos (.inl Nat.one_pos)
  | case4 c rest hq hbs ih =>
    rw [quoteEnd_map (c :: ·), ← ih (piece?_cons h)]
    rcases inert_cases hq hbs with hmark | ⟨rfl, rfl⟩
    · exact pass_first ascii_isMark (fun _ _ => skipFrom_pass) h hmark
    · obtain ⟨b, hp, hround⟩ := round_cons h
      have hend : pos + 1 = size s := (end_of_piece? h).1
      rw [skipFrom, hround, hp _ (ascii_eq (by decide)), hp _ (ascii_eq (by decide)), if_neg (by simp; omega)]
      rfl

theorem skipQuoted_eq (h : piece? s pos (size s) = some ('"' :: rest)) :
    skipQuoted s pos = quoteEnd (size s) ('"' :: rest) (Quoted.skip? rest) :=
  skipFrom_eq h (piece?_cons h)

theorem piece?_skip {raw left : Text} (h : piece? s pos upper = some ('"' :: rest))
    (hs : Quoted.skip? rest = some (raw, left)) :
    piece? s pos (upper - size left) = some ('"' :: raw) ∧ piece? s (upper - size left) upper = some left ∧
      pos < upper - size left := by
  obtain rfl := Quoted.append_of_skip? hs
  have hused : piece? s pos (upper - size left) = some ('"' :: raw) := piece?_used h
  exact ⟨hused, piece?_suffix h ((List.suffix_append _ _).trans (List.suffix_cons _ _)), pos_lt_of_piece? hused⟩

/-- A quote or the delimiter. -/
def isCut (delimiter c : Char) : Bool := c == '"' || c == delimiter

theorem splitFrom_pass {d : UInt8} (hd : d.toNat < 0x80) {start p : Nat} {b : UInt8} (hlt : p < size s)
    (hb : byte s p = pure b) (h : isAscii (isCut (Char.ofNat d.toNat)) b = false) :
    splitFrom s d start p = splitFrom s d start (p + 1) := by
  obtain ⟨hq, hcut⟩ := isAscii_or h
  rw [isAscii_eq_beq hd] at hcut
  rw [splitFrom, round_of_byte hlt hb]
  simp [hq, hcut]

theorem splitFrom_quote (d : UInt8) (start : Nat) (h : piece? s pos (size s) = some ('"' :: rest)) :
    splitFrom s d start pos = (do
      let next ← quoteEnd (size s) ('"' :: rest) (Quoted.skip? rest)
      if pos < next then splitFrom s d start next else stuck) := by
  obtain ⟨b, hp, hround⟩ := round_cons h
  rw [splitFrom, hround, hp _ (ascii_eq (by decide)), if_pos (beq_self_eq_true _), skipQuoted_eq h]

/-- **Splitting by offsets is splitting by characters**, with what the segment has so far put in front. -/
theorem splitFrom_eq {d : UInt8} (hd : d.toNat < 0x80) {start : Nat} {segment : Text}
    (hs : piece? s start pos = some segment) (h : piece? s pos (size s) = some rest) :
    splitFrom s d start pos =
      ExceptT.mk (some ((Quoted.split? (Char.ofNat d.toNat) rest).map (Quoted.extendFirst segment))) := by
  have hcode : (Char.ofNat d.toNat).toNat < 0x80 := by rwa [Utf8.toNat_charOfNat (by omega)]
  generalize hD : Char.ofNat d.toNat = D at hcode
  fun_induction Quoted.split? D rest generalizing start pos segment with
  | case1 =>
    have hend : pos = size s := (end_of_piece? h).1
    rw [splitFrom, round_nil h, piece, ← hend, hs]
    simp only [Except.map, Quoted.extendFirst, List.append_nil]
    rfl
  | case2 c rest hq hskip =>
    obtain rfl : c = '"' := by simpa using hq
    rw [splitFrom_quote d start h, hskip]
    rfl
  | case3 c rest hq raw left hskip ih =>
    obtain rfl : c = '"' := by simpa using hq
    obtain ⟨hquoted, hleft, hlt⟩ := piece?_skip h hskip
    rw [splitFrom_quote d start h, hskip, Quoted.map_extendFirst, ← ih (piece?_join hs hquoted) hleft]
    exact if_pos hlt
  | case4 c rest hq hcd ih =>
    obtain rfl : c = D := by simpa using hcd
    obtain ⟨b, hp, hround⟩ := round_cons h
    have hcut : (b == d) = true := by rw [← isAscii_eq_beq hd, hD, hp _ (ascii_eq hcode), beq_self_eq_true]
    have hmark : isAscii (· == '"') b = false := by
      rw [hp _ (ascii_eq (by decide))]
      simpa using hq
    have hrest := piece?_mark h hcode
    rw [splitFrom, hround, if_neg (by simp [hmark]), if_pos hcut, piece, hs, ih (piece?_nil hrest) hrest]
    cases hr : Quoted.split? c rest with
    | error e => rfl
    | ok gs =>
      obtain ⟨g, gs, rfl⟩ := List.exists_cons_of_ne_nil (Quoted.split?_ne_nil hr)
      simp only [Except.map, Quoted.extendFirst, List.nil_append, List.append_nil]
      rfl
  | case5 c rest hq hcd ih =>
    have hstop : isCut (Char.ofNat d.toNat) c = false := by
      rw [hD, isCut, Bool.or_eq_false_iff]
      exact ⟨by simpa using hq, by simpa using hcd⟩
    have hone : piece? s pos (pos + c.utf8Size) = some [c] := piece?_front (a := [c]) h
    have hascii : Ascii (isCut (Char.ofNat d.toNat)) := by
      rw [hD]
      exact (ascii_eq (by decide)).or (ascii_eq hcode)
    rw [pass_first hascii (fun _ _ => splitFrom_pass hd) h hstop, ih (piece?_join hs hone) (piece?_cons h),
      Quoted.map_extendFirst]

/-- **The scan splits every text, and as the reader does.** -/
theorem split_eq {d : UInt8} (hd : d.toNat < 0x80) (s : Text) :
    (split s d).run = some (Quoted.split? (Char.ofNat d.toNat) s) := by
  have hwhole : piece? s 0 (size s) = some s := piece?_eq_some_iff.2 ⟨[], [], by simp, rfl, by simp⟩
  rw [split, splitFrom_eq hd (piece?_nil hwhole) hwhole]
  cases hr : Quoted.split? (Char.ofNat d.toNat) s with
  | error e => rfl
  | ok gs =>
    obtain ⟨g, gs, rfl⟩ := List.exists_cons_of_ne_nil (Quoted.split?_ne_nil hr)
    rfl

/-! ## Answers -/

/-- The error of a fault in what lies before `upper`. -/
def raise (s : Text) (upper : Nat) : Fault → ParseError
  | .unterminatedQuote opened => .unterminatedQuote opened
  | .unexpected found left => .unexpectedCharacter s found (upper - size left)

/-- What a reader answers, with an offset in place of what it leaves. -/
def answer {α : Type} (s : Text) (upper : Nat) : Except Fault (α × Text) → Scan (α × Nat)
  | .ok (a, left) => pure (a, upper - size left)
  | .error fault => throw (raise s upper fault)

theorem ascii_isSpacing : Ascii isSpacing := by
  intro c hc
  simp only [isSpacing, Bool.or_eq_true, beq_iff_eq] at hc
  rcases hc with ((rfl | rfl) | rfl) | rfl <;> decide

theorem ascii_endsName : Ascii endsName := by
  intro c hc
  simp only [endsName, Bool.or_eq_true, beq_iff_eq] at hc
  rcases hc with (rfl | rfl) | rfl <;> decide

theorem ascii_endsValue : Ascii endsValue := fun c hc => ascii_endsName c (Element.endsValue_name hc)

theorem skipSpacing_eq (h : piece? s pos upper = some rest) :
    skipSpacing s upper pos = pure (upper - size (rest.dropWhile isSpacing)) := by
  induction rest generalizing pos with
  | nil =>
    rw [skipSpacing, round_nil h, pos_eq h]
    rfl
  | cons c rest ih =>
    obtain ⟨b, hp, hround⟩ := round_cons h
    rw [skipSpacing, hround, hp _ ascii_isSpacing]
    by_cases hc : isSpacing c = true
    · rw [if_pos hc, ih (piece?_mark h (ascii_isSpacing c hc)), List.dropWhile_cons_of_pos hc]
    · rw [if_neg hc, List.dropWhile_cons_of_neg hc, ← pos_eq h]

/-! ## Tokens -/

section

variable {stop : Char → Bool}

theorem tokenEnd_pass {p : Nat} {b : UInt8} (hlt : p < upper) (hb : byte s p = pure b)
    (h : isAscii (fun c => stop c || c == '"') b = false) :
    tokenEnd s upper stop p = tokenEnd s upper stop (p + 1) := by
  obtain ⟨hs, hq⟩ := isAscii_or h
  rw [tokenEnd, round_of_byte hlt hb]
  simp [hs, hq]

theorem tokenEnd_quote (hstop : Ascii stop) (hq : ¬stop '"' = true) (h : piece? s pos upper = some ('"' :: rest)) :
    tokenEnd s upper stop pos = (do
      let next ← quoteEnd upper ('"' :: rest) (Quoted.skip? rest)
      if pos < next then tokenEnd s upper stop next else stuck) := by
  obtain ⟨b, hp, hround⟩ := round_cons h
  obtain ⟨inside, hinside, hsize, hrest⟩ := piece?_inside h
  rw [← hsize] at hrest
  rw [tokenEnd, hround, hp _ hstop, if_neg hq, hp _ (ascii_eq (by decide)), if_pos (beq_self_eq_true _), piece,
    hinside, ← hsize, ← skipQuoted_eq hrest]
  rfl

theorem snd_answer_map {α β : Type} (f : α → β) (r : Except Fault (α × Text)) :
    Prod.snd <$> answer s upper (r.map fun (a, left) => (f a, left)) = Prod.snd <$> answer s upper r := by
  cases r <;> rfl

/-- **A token ends where the reader stops.** -/
theorem tokenEnd_eq (hstop : Ascii stop) (h : piece? s pos upper = some rest) :
    tokenEnd s upper stop pos = Prod.snd <$> answer s upper (Element.readRaw stop rest) := by
  fun_induction Element.readRaw stop rest generalizing pos with
  | case1 =>
    rw [tokenEnd, round_nil h, pos_eq h]
    rfl
  | case2 c rest hc =>
    obtain ⟨b, hp, hround⟩ := round_cons h
    rw [tokenEnd, hround, hp _ hstop, if_pos hc, pos_eq h]
    rfl
  | case3 c rest hc hq hskip =>
    obtain rfl : c = '"' := by simpa using hq
    rw [tokenEnd_quote hstop hc h, hskip]
    rfl
  | case4 c rest hc hq raw left hskip ih =>
    obtain rfl : c = '"' := by simpa using hq
    obtain ⟨-, hleft, hlt⟩ := piece?_skip h hskip
    rw [tokenEnd_quote hstop hc h, hskip, snd_answer_map ('"' :: raw ++ ·), ← ih hleft]
    exact if_pos hlt
  | case5 c rest hc hq ih =>
    have hpass : (stop c || c == '"') = false := by simp [hc, hq]
    rw [pass_first (hstop.or (ascii_eq (by decide))) (fun _ _ => tokenEnd_pass) h hpass, ih (piece?_cons h),
      snd_answer_map (c :: ·)]

theorem readToken_eq (hstop : Ascii stop) (h : piece? s pos upper = some rest) :
    readToken s upper stop pos = answer s upper (Element.readToken stop rest) := by
  rw [readToken, tokenEnd_eq hstop h, Element.readToken]
  cases hr : Element.readRaw stop rest with
  | error fault => rfl
  | ok r =>
    obtain ⟨raw, left⟩ := r
    obtain ⟨rfl, -⟩ := Element.append_of_readRaw hr
    show (piece s pos (upper - size left) >>= _) = _
    rw [piece, piece?_used h]
    rfl

end

/-! ## Quoted values -/

theorem readFrom_pass {start segment p : Nat} {out : Text} {b : UInt8} (hlt : p < upper) (hb : byte s p = pure b)
    (h : isAscii isMark b = false) :
    readFrom s upper start out segment p = readFrom s upper start out segment (p + 1) := by
  obtain ⟨hq, hbs⟩ := isAscii_or h
  rw [readFrom, round_of_byte hlt hb]
  simp [hq, hbs]

/-- What was read of a quoted text, behind what was copied before. -/
def readBehind (front opened : Text) : Option (Text × Text) → Except Fault (Text × Text)
  | some (value, left) => .ok (front ++ value, left)
  | none => .error (.unterminatedQuote opened)

theorem readBehind_cons (front opened : Text) (c : Char) (r : Option (Text × Text)) :
    readBehind front opened (r.map fun (value, left) => (c :: value, left)) = readBehind (front ++ [c]) opened r := by
  cases r with
  | none => rfl
  | some p => simp [readBehind]

/-- **Copying pieces resolves escapes** as reading character by character does. -/
theorem readFrom_eq {start segment : Nat} {out copied opened : Text} (hopen : piece? s start upper = some opened)
    (hc : piece? s segment pos = some copied) (h : piece? s pos upper = some rest) :
    readFrom s upper start out segment pos =
      answer s upper (readBehind (out ++ copied) opened (Quoted.read? rest)) := by
  fun_induction Quoted.read? rest generalizing pos segment out copied with
  | case1 =>
    rw [readFrom, round_nil h, piece, hopen]
    rfl
  | case2 rest =>
    obtain ⟨b, hp, hround⟩ := round_cons h
    have hend : pos + (1 + size rest) = upper := (end_of_piece? h).1
    have hnext : pos + 1 = upper - size rest := by omega
    rw [readFrom, hround, hp _ (ascii_eq (by decide)), hp _ (ascii_eq (by decide)), piece, hc, hnext, readBehind,
      List.append_nil]
    rfl
  | case3 c rest ih =>
    obtain ⟨b, hp, hround⟩ := round_cons h
    have hnext : piece? s (pos + 1) upper = some (c :: rest) := piece?_cons h
    have hlt : pos + 1 < upper := pos_lt_of_piece? hnext
    obtain ⟨behind, hon⟩ := piece?_on hnext
    have hleft := piece?_cons hnext
    rw [readFrom, hround, hp _ (ascii_eq (by decide)), if_pos (by simpa using hlt), piece, hc, piece, hon,
      readBehind_cons]
    show readFrom s upper start (out ++ copied ++ [c]) (pos + 1 + c.utf8Size) (pos + 1 + c.utf8Size) = _
    rw [ih (piece?_nil hleft) hleft, List.append_nil]
  | case4 c rest hq hbs ih =>
    have hone : piece? s pos (pos + c.utf8Size) = some [c] := piece?_front (a := [c]) h
    rw [readBehind_cons, List.append_assoc, ← ih (piece?_join hc hone) (piece?_cons h)]
    rcases inert_cases hq hbs with hmark | ⟨rfl, rfl⟩
    · exact pass_first ascii_isMark (fun _ _ => readFrom_pass) h hmark
    · obtain ⟨b, hp, hround⟩ := round_cons h
      have hend : pos + 1 = upper := (end_of_piece? h).1
      rw [readFrom, hround, hp _ (ascii_eq (by decide)), hp _ (ascii_eq (by decide)), if_neg (by simp; omega)]
      rfl

theorem readQuoted_eq (h : piece? s pos upper = some ('"' :: rest)) :
    readQuoted s upper pos = answer s upper (readBehind [] ('"' :: rest) (Quoted.read? rest)) := by
  have hbody : piece? s (pos + 1) upper = some rest := piece?_cons h
  exact readFrom_eq h (piece?_nil hbody) hbody

theorem closeValue_eq (value : Text) (h : piece? s pos upper = some rest) :
    closeValue s upper value pos = answer s upper (Element.closeValue value rest) := by
  have hleft := piece?_suffix h (List.dropWhile_suffix isSpacing)
  rw [closeValue, skipSpacing_eq h, pure_bind, Element.closeValue]
  generalize rest.dropWhile isSpacing = left at hleft ⊢
  obtain ⟨next, hpeek, hnext⟩ := peek_eq hleft
  rw [hpeek, pure_bind, (hnext _ ascii_endsValue).2]
  cases left with
  | nil => rfl
  | cons c left =>
    by_cases hc : endsValue c = true
    · simp only [List.head?_cons, Option.all_some, hc, if_true]
      rfl
    · obtain ⟨behind, hon⟩ := piece?_on hleft
      simp only [List.head?_cons, Option.all_some, hc, piece, hon]
      rfl

theorem readValue_eq (h : piece? s pos upper = some rest) :
    readValue s upper pos = answer s upper (Element.readValue rest) := by
  have hleft := piece?_suffix h (List.dropWhile_suffix isSpacing)
  rw [readValue, skipSpacing_eq h, pure_bind]
  obtain ⟨next, hpeek, hnext⟩ := peek_eq hleft
  rw [hpeek, pure_bind, (hnext _ (ascii_eq (by decide))).1]
  obtain ⟨a, ha, ⟨body, rfl⟩ | ⟨u, rfl, hu⟩⟩ := Element.exists_spacing rest
  · rw [Element.dropWhile_spacing ha (by simp [isSpacing])] at hleft ⊢
    rw [if_pos (head_is_iff.2 ⟨body, rfl⟩), readQuoted_eq hleft]
    cases hr : Quoted.read? body with
    | none =>
      rw [Element.readValue_quote_none ha hr]
      rfl
    | some r =>
      obtain ⟨value, left⟩ := r
      rw [Element.readValue_quote ha hr]
      exact closeValue_eq value (piece?_suffix hleft ((Quoted.read?_suffix hr).trans (List.suffix_cons _ _)))
  · rw [Element.dropWhile_spacing ha hu.not_spacing] at hleft ⊢
    rw [if_neg, readToken_eq ascii_endsValue hleft, Element.readValue_bare ha hu]
    intro hq
    obtain ⟨t, rfl⟩ := head_is_iff.1 hq
    exact absurd (hu '"' rfl) (by decide)

/-! ## Elements -/

theorem answer_map {α β : Type} (f : α → β) (r : Except Fault (α × Text)) :
    answer s upper (r.map fun (a, left) => (f a, left)) = (fun (a, next) => (f a, next)) <$> answer s upper r := by
  cases r <;> rfl

theorem readPair_eq (h : piece? s pos upper = some rest) :
    readPair s upper pos = answer s upper (Element.readPair rest) := by
  rw [readPair, readToken_eq ascii_endsName h]
  cases hr : Element.readToken endsName rest with
  | error fault =>
    rw [Element.readPair, hr]
    rfl
  | ok r =>
    obtain ⟨name, left⟩ := r
    have hleft := piece?_suffix h (Element.readToken_suffix hr).1
    obtain ⟨next, hpeek, hnext⟩ := peek_eq hleft
    show (peek s upper (upper - size left) >>= _) = _
    rw [hpeek, pure_bind, (hnext _ (ascii_eq (by decide))).1]
    by_cases hc : ∃ t, left = '=' :: t
    · rw [if_pos (head_is_iff.2 hc)]
      obtain ⟨t, rfl⟩ := hc
      rw [readValue_eq (piece?_mark hleft (by decide)), Element.readPair_value hr,
        answer_map fun v => (⟨name, some v⟩ : Parameter)]
      rfl
    · rw [if_neg (mt head_is_iff.1 hc), Element.readPair_name hr fun t ht => hc ⟨t, ht⟩]
      rfl

theorem readParameters_eq (h : piece? s pos upper = some rest) :
    readParameters s upper pos = answer s upper (Element.readParameters rest) := by
  fun_induction Element.readParameters rest generalizing pos with
  | case1 rest fault hr =>
    obtain ⟨b, hp, hround⟩ := round_cons h
    rw [readParameters, hround, hp _ (ascii_eq (by decide)), if_pos (beq_self_eq_true _),
      readPair_eq (piece?_mark h (by decide)), hr]
    rfl
  | case2 rest p left hr ih =>
    obtain ⟨b, hp, hround⟩ := round_cons h
    have hs := (Element.readPair_suffix hr).1
    rw [readParameters, hround, hp _ (ascii_eq (by decide)), if_pos (beq_self_eq_true _),
      readPair_eq (piece?_mark h (by decide)), hr, answer_map fun ps => if p.name.isEmpty then ps else p :: ps,
      ← ih (piece?_suffix h (hs.trans (List.suffix_cons _ _)))]
    show (if pos < upper - size left then _ else stuck) = _
    rw [if_pos (lt_of_suffix h hs)]
    rfl
  | case3 rest hne =>
    cases rest with
    | nil =>
      rw [readParameters, round_nil h, pos_eq h]
      rfl
    | cons c rest =>
      obtain ⟨b, hp, hround⟩ := round_cons h
      have hc : c ≠ ';' := fun he => hne rest (by rw [he])
      rw [readParameters, hround, hp _ (ascii_eq (by decide)), if_neg (by simpa using hc), pos_eq h]
      rfl

/-- **An element is read alike**: head pair, parameters, and the comma behind them. -/
theorem readElement_eq (h : piece? s pos upper = some rest) :
    readElement s upper pos = answer s upper (Element.readElement rest) := by
  rw [readElement, readPair_eq h, Element.readElement]
  cases hr : Element.readPair rest with
  | error fault => rfl
  | ok r =>
    obtain ⟨head, left⟩ := r
    have hleft := piece?_suffix h (Element.readPair_suffix hr).1
    show (readParameters s upper (upper - size left) >>= _) = _
    rw [readParameters_eq hleft]
    show _ = answer s upper ((Element.readParameters left).map _)
    cases hps : Element.readParameters left with
    | error fault => rfl
    | ok r =>
      obtain ⟨ps, left⟩ := r
      have hleft := piece?_suffix hleft (Element.readParameters_suffix hps)
      obtain ⟨next, hpeek, hnext⟩ := peek_eq hleft
      show (peek s upper (upper - size left) >>= _) = _
      rw [hpeek, pure_bind, (hnext _ (ascii_eq (by decide))).1]
      by_cases hc : ∃ t, left = ',' :: t
      · rw [if_pos (head_is_iff.2 hc)]
        obtain ⟨t, rfl⟩ := hc
        rw [pos_eq (piece?_mark hleft (by decide))]
        rfl
      · rw [if_neg (mt head_is_iff.1 hc)]
        have hkeep : Element.dropComma left = left := Element.dropComma.eq_2 left fun t ht => hc ⟨t, ht⟩
        simp only [Except.map, hkeep]
        rfl

theorem readElement_lt {c : Char} {left : Text} {e : Element} (h : piece? s pos upper = some (c :: rest))
    (hr : Element.readElement (c :: rest) = .ok (e, left)) : pos < upper - size left := by
  rcases List.suffix_cons_iff.1 (Element.readElement_suffix hr) with rfl | hs
  · exact absurd (Element.length_of_readElement hr) (Nat.lt_irrefl _)
  · exact lt_of_suffix h hs

theorem readAll_eq (h : piece? s pos upper = some rest) :
    readAll s upper pos = answer s upper ((Element.readAll rest).map (·, [])) := by
  fun_induction Element.readAll rest generalizing pos with
  | case1 =>
    rw [readAll, round_nil h, pos_eq h]
    rfl
  | case2 c rest fault hr =>
    rw [readAll, if_pos (pos_lt_of_piece? h), readElement_eq h, hr]
    rfl
  | case3 c rest e left hr ih =>
    have hs := Element.readElement_suffix hr
    have hleft := piece?_suffix h hs
    rw [readAll, if_pos (pos_lt_of_piece? h), readElement_eq h, hr]
    show (if pos < upper - size left then _ else stuck) = _
    rw [if_pos (readElement_lt h hr), ih hleft]
    cases Element.readAll left <;> rfl

/-! ## Windows -/

/-- What the window cuts off the text: its piece, and behind that all that it does not reach. -/
theorem cut?_eq_some {buffer unread : Text} {w : Window}
    (h : piece? buffer w.pos (min w.upper (size buffer)) = some unread) :
    ∃ behind, w.cut? buffer = some (unread, behind) ∧ size buffer - size behind = min w.upper (size buffer) := by
  obtain ⟨front, behind, hb, hpos, hupper⟩ := piece?_eq_some_iff.1 h
  refine ⟨behind, ?_, ?_⟩
  · have hinside : Utf8.cutAtByte? (min w.upper (size buffer)) buffer = some (front ++ unread, behind) :=
      Utf8.cutAtByte?_eq_some_iff.2 ⟨by simpa using hb, by rw [Utf8.size_append]; omega⟩
    have hunread : Utf8.cutAtByte? w.pos (front ++ unread) = some (front, unread) :=
      Utf8.cutAtByte?_eq_some_iff.2 ⟨rfl, hpos⟩
    simp [Window.cut?, hinside, hunread]
  · have hsize := congrArg size hb
    simp only [Utf8.size_append] at hsize
    omega

theorem cut?_eq_none {buffer : Text} {w : Window}
    (h : piece? buffer w.pos (min w.upper (size buffer)) = none) : w.cut? buffer = none := by
  rw [piece?] at h
  rw [Window.cut?]
  cases hi : Utf8.cutAtByte? (min w.upper (size buffer)) buffer with
  | none => rfl
  | some r =>
    obtain ⟨inside, behind⟩ := r
    simp only [hi, Option.bind_eq_bind, Option.bind_some] at h ⊢
    cases hu : Utf8.cutAtByte? w.pos inside with
    | none => rfl
    | some r => simp [hu] at h

/-- A window is accepted just when a piece can be cut out for it. -/
theorem accepts_iff {buffer : Text} {pos upper : Nat} :
    (upper < pos || !isBoundary buffer pos || !isBoundary buffer upper) = false ↔
      ∃ unread, piece? buffer pos upper = some unread := by
  rw [exists_piece?_iff]
  simp [Bool.or_eq_false_iff, and_assoc]

/-- **The two readers of windows agree**, on every buffer and every window. -/
theorem parseIn_eq (buffer : Text) (w : Window) : parseIn buffer w = some (Element.parseIn buffer w) := by
  cases h : piece? buffer w.pos (min w.upper (size buffer)) with
  | none =>
    have hno : (decide (min w.upper (size buffer) < w.pos) || !isBoundary buffer w.pos ||
        !isBoundary buffer (min w.upper (size buffer))) = true := by
      rw [← Bool.not_eq_false, accepts_iff, h]
      simp
    simp only [parseIn, hno, if_true, Element.parseIn, cut?_eq_none h]
    rfl
  | some unread =>
    obtain ⟨behind, hcut, hsize⟩ := cut?_eq_some h
    simp only [parseIn, accepts_iff.2 ⟨unread, h⟩, Element.parseIn, hcut, readAll_eq h]
    cases Element.readAll unread with
    | error fault =>
      have hfault : fault.toError buffer behind = raise buffer (min w.upper (size buffer)) fault := by
        cases fault with
        | unterminatedQuote opened => rfl
        | unexpected found left => rw [Fault.toError, raise, hsize]
      simp only [hfault]
      rfl
    | ok es => cases es <;> rfl

theorem parse_eq (value : Text) : parse value = some (Element.parse value) := by
  rw [parse, parseIn_eq]
  rfl

end MessageHead.Scan
