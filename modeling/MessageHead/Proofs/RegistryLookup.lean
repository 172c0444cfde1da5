/-
Looking up what is listed.

An extension comes to the same on registering and on looking up, but what it came to may come
to something else again: blanks go before dots do, and those behind the dots stay. So a listed
extension ends in no blank, begins with no dot and has no capital letters (`Normal`), and it is
found under itself with a dot in front. Without the dot it is found only where what it comes to
is listed as well, as it is when no blank begins it (`Normal.normalize_eq`).

The media type of an entry is the first one that was registered under its name, and that under
an extension the first one that was paired with it. Two media types of one name are equal when
none has a slash in its main type (`equal_of_lower_name`), and none that is read has one.
-/
import MessageHead.Proofs.MediaTypeEquality
import MessageHead.Proofs.RegistryOrder

namespace MessageHead.Registry

variable {cs : List Call} {rows : List Row} {r : Registry} {m n : MediaType} {en : Registration}
  {ext e e' : Text} {ms : List MediaType}

/-! ## What extensions come to -/

theorem toLower_eq_dot (c : Char) : (c.toLower == '.') = (c == '.') := by
  rw [Bool.eq_iff_iff, beq_iff_eq, beq_iff_eq, Text.toLower_eq_iff (by decide)]

/-- The case may go first. -/
theorem normalizeExtension_eq (ext : Text) :
    normalizeExtension ext = (Text.trim (Text.lower ext)).dropWhile (· == '.') := by
  unfold normalizeExtension
  rw [Text.lower_dropWhile toLower_eq_dot, Text.lower_trim]

theorem normalizeExtension_congr (h : Text.lower e' = Text.lower e) : normalizeExtension e' = normalizeExtension e := by
  rw [normalizeExtension_eq, normalizeExtension_eq, h]

/-- What holds of a listed extension. -/
structure Normal (e : Text) : Prop where
  head : ∀ c ∈ e.head?, c ≠ '.'
  last : ∀ c ∈ e.getLast?, isBlank c = false
  lower : Text.lower e = e

theorem normal_normalizeExtension (ext : Text) : Normal (normalizeExtension ext) where
  head c hc := by
    rw [normalizeExtension_eq] at hc
    have := List.head?_dropWhile_not (· == '.') (Text.trim (Text.lower ext))
    rw [hc] at this
    simpa using this
  last c hc := by
    rw [normalizeExtension_eq] at hc
    refine (Text.trimmed_trim (Text.lower ext)).2 c ?_
    obtain ⟨t, ht⟩ := List.dropWhile_suffix (· == '.') (l := Text.trim (Text.lower ext))
    rw [← ht, List.getLast?_append, hc]
    rfl
  lower := by
    rw [normalizeExtension, Text.lower_lower]

theorem Normal.normalize_dot (h : Normal e) : normalizeExtension ('.' :: e) = e := by
  have htrimmed : Text.Trimmed ('.' :: e) := by
    refine ⟨fun c hc => ?_, fun c hc => ?_⟩
    · cases hc
      decide
    · rw [List.getLast?_cons] at hc
      cases hlast : e.getLast? with
      | none =>
        rw [hlast] at hc
        cases hc
        decide
      | some d =>
        rw [hlast] at hc
        cases hc
        exact h.last _ hlast
  have hdot : Text.lower ('.' :: e) = '.' :: e := congrArg ('.' :: ·) h.lower
  rw [normalizeExtension_eq, hdot, Text.trim_eq_self htrimmed, List.dropWhile_cons_of_pos (by decide)]
  exact Text.dropWhile_eq_self fun c hc => by simpa using h.head c hc

/-- A listed extension that no blank begins comes to itself without the dot, too. -/
theorem Normal.normalize_eq (h : Normal e) (hb : Text.Flush e) : normalizeExtension e = e := by
  rw [normalizeExtension_eq, h.lower, Text.trim_eq_self ⟨hb, h.last⟩]
  exact Text.dropWhile_eq_self fun c hc => by simpa using h.head c hc

/-! ## Media types of one name -/

/-- A name has one main type without a slash. -/
theorem equal_of_lower_name (hm : Held m) (hn : Held n) (hms : '/' ∉ m.mainType)
    (hns : '/' ∉ n.mainType) (h : Text.lower m.name = Text.lower n.name) : m.equal n = true := by
  have not_mem : ∀ {s : Text}, '/' ∉ s → '/' ∉ Text.lower s := fun hs => by
    rwa [← List.count_eq_zero, Text.count_lower (by decide), List.count_eq_zero]
  rw [hm.lower_name, hn.lower_name] at h
  have hcut := congrArg (Text.cut '/') h
  rw [Text.cut_append (not_mem hms), Text.cut_append (not_mem hns), Option.some.injEq, Prod.mk.injEq] at hcut
  refine MediaType.equal_iff_sorted.2 ⟨Text.sameFold_iff.2 hcut.1, Text.sameFold_iff.2 hcut.2, ?_⟩
  rw [MediaType.sortedParameters, MediaType.sortedParameters, hm.bare, hn.bare]

/-- A call that registers no media type with a slash in its main type. -/
def Call.Unslashed : Call → Prop
  | register m _ _ => '/' ∉ m.mainType
  | load _ => True

theorem not_mem_of_parse {s : Text} (h : MediaType.parse s = .ok m) : '/' ∉ m.mainType := by
  obtain ⟨g, -, -, -, rfl⟩ := MediaType.parse_eq_ok h
  exact (MediaType.trimmed_readName g).2.2

theorem parse_of_readLine? {line : Text} {row : Row} (h : readLine? line = some row) :
    ∃ key, MediaType.parse key = .ok row.1 := by
  unfold readLine? at h
  split at h
  · cases h
  · rename_i key value _
    split at h
    · cases h
    · rename_i m hm
      cases h
      exact ⟨key, hm⟩

theorem not_mem_of_unslashed {c : Call} (h : c.Unslashed) : ∀ row ∈ c.rows, '/' ∉ row.1.mainType := by
  cases c with
  | register m description extensions =>
    intro row hrow
    rw [List.mem_singleton.1 hrow]
    exact h
  | load source =>
    intro row hrow
    obtain ⟨line, -, hline⟩ := List.mem_filterMap.1 hrow
    obtain ⟨key, hkey⟩ := parse_of_readLine? hline
    exact not_mem_of_parse hkey

/-! ## The media type of an entry -/

/-- A change under the key of a media type makes an entry of no other media type. -/
theorem mediaType_upsert {g : Registration → Registration} (hg : ∀ e, (g e).mediaType = e.mediaType)
    (h : n ∈ ((r.entries.upsert (· == ext) ext ⟨m, [], []⟩ g).map Prod.snd).map Registration.mediaType) :
    n ∈ r.registrations.map Registration.mediaType ∨ n = m := by
  rw [List.map_map, OrderedTable.map_upsert fun _ e => hg e, List.mem_append, ← List.map_map] at h
  refine h.imp_right fun hnew => ?_
  split at hnew
  · cases hnew
  · exact List.mem_singleton.1 hnew

theorem mediaType_enter {row : Row} (h : n ∈ (enter r row).registrations.map Registration.mediaType) :
    n ∈ r.registrations.map Registration.mediaType ∨ n = row.1.bare := by
  have hadd : ∀ (r : Registry) (ext : Text),
      n ∈ (addExtension row.1.bare r ext).registrations.map Registration.mediaType →
        n ∈ r.registrations.map Registration.mediaType ∨ n = row.1.bare := by
    intro r ext hn
    rcases addExtension_cases row.1.bare r ext with ⟨-, heq⟩ | ⟨-, heq⟩
    · rw [heq] at hn
      exact .inl hn
    · rw [heq] at hn
      exact mediaType_upsert (g := fun e => { e with extensions := e.extensions ++ [normalizeExtension ext] })
        (fun _ => rfl) hn
  revert h
  refine enter_induction (P := fun r' => n ∈ r'.registrations.map Registration.mediaType → _) ?_ ?_
  · exact mediaType_upsert fun e => by split <;> rfl
  · exact fun r' ext _ ih hn => (hadd r' ext hn).elim ih .inr

theorem mediaType_rows (h : n ∈ (rows.foldl enter r).registrations.map Registration.mediaType) :
    n ∈ r.registrations.map Registration.mediaType ∨ ∃ row ∈ rows, n = row.1.bare := by
  revert h
  refine List.foldlRecOn (motive := fun r' : Registry => n ∈ r'.registrations.map Registration.mediaType → _)
    rows _ .inl ?_
  intro r' ih row hrow hn
  rcases mediaType_enter hn with hn | rfl
  · exact ih hn
  · exact .inr ⟨row, hrow, rfl⟩

theorem mediaType_after (hen : en ∈ (after cs).registrations) :
    ∃ row ∈ cs.flatMap Call.rows, en.mediaType = row.1.bare := by
  have hmem := List.mem_map_of_mem (f := Registration.mediaType) hen
  rw [after_eq] at hmem
  exact (mediaType_rows hmem).resolve_left List.not_mem_nil

theorem Indexed.extensionsOf_registration (h : Indexed r) (hen : en ∈ r.registrations) :
    r.extensionsOf (Text.lower en.mediaType.name) = en.extensions := by
  obtain ⟨p, hp, rfl⟩ := List.mem_map.1 hen
  rw [← (h.entered p hp).key_eq, h.extensionsOf_eq hp]

/-! ## Finding -/

/-- Looking the extension up finds the media type. -/
def Finds (r : Registry) (ext : Text) (m : MediaType) : Prop := ∃ n ∈ r.typesOf ext, n.equal m = true

/-- A media type that is equal was the first of its name to be paired with the extension. -/
def PairedAlike (rows : List Row) (ext : Text) (m : MediaType) : Prop :=
  ∃ i n, PairedFirst rows ext i n ∧ n.equal m = true

theorem InOrder.mem_iff (ho : InOrder rows ext ms) : m ∈ ms ↔ ∃ i, PairedFirst rows ext i m := by
  obtain ⟨ps, rfl, -, hmem⟩ := ho
  simp only [List.mem_map, Prod.exists, exists_eq_right, hmem]

/-- **What is found is told by the rows.** -/
theorem finds_iff_paired (cs : List Call) (ext : Text) (m : MediaType) :
    Finds (after cs) ext m ↔ PairedAlike (cs.flatMap Call.rows) (normalizeExtension ext) m := by
  have hmem : ∀ n, n ∈ (after cs).typesOf ext ↔ ∃ i, PairedFirst (cs.flatMap Call.rows) (normalizeExtension ext) i n :=
    fun _ => ((told_after cs).ordered (normalizeExtension ext)).mem_iff
  unfold Finds PairedAlike
  simp only [hmem, ← exists_and_right]
  exact exists_comm

/-- **What is found is told by the entry**, when no main type has a slash. -/
theorem finds_iff_listed (hcs : ∀ c ∈ cs, c.Unslashed) (hen : en ∈ (after cs).registrations) (ext : Text) :
    Finds (after cs) ext en.mediaType ↔ normalizeExtension ext ∈ en.extensions := by
  have told := told_after cs
  have unslashed : ∀ row ∈ cs.flatMap Call.rows, '/' ∉ row.1.mainType := by
    intro row hrow
    obtain ⟨c, hc, hrow⟩ := List.mem_flatMap.1 hrow
    exact not_mem_of_unslashed (hcs c hc) row hrow
  obtain ⟨first, hfirst, hmade⟩ := mediaType_after hen
  have hheld : Held en.mediaType := hmade ▸ held_bare first.1
  rw [← told.indexed.extensionsOf_registration hen, told.indexed.paired]
  constructor
  · rintro ⟨n, hn, heq⟩
    exact ⟨n, hn, ((told.indexed.typesUnder_distinct _).2 n hn).lower_name_of_equal hheld heq⟩
  · rintro ⟨n, hn, hname⟩
    obtain ⟨i, hi⟩ := (told.ordered (normalizeExtension ext)).mem_iff.1 hn
    obtain ⟨row, hrow, -, rfl⟩ := hi.pairs
    rw [hmade] at hname ⊢
    exact ⟨row.1.bare, hn, equal_of_lower_name (held_bare row.1) (held_bare first.1)
      (unslashed row (List.mem_of_getElem? hrow)) (unslashed first hfirst) hname⟩

theorem normal_of_listed (hen : en ∈ (after cs).registrations) (he : e ∈ en.extensions) : Normal e := by
  have told := told_after cs
  rw [← told.indexed.extensionsOf_registration hen, told.paired] at he
  obtain ⟨row, -, ⟨-, ext, -, rfl⟩, -⟩ := he
  exact normal_normalizeExtension ext

theorem typeOfFile?_append (r : Registry) (he : '.' ∉ e) (stem : Text) :
    r.typeOfFile? (stem ++ '.' :: e) = (r.typesOf e).head? := by
  rw [typeOfFile?, Text.afterLast_append he, Option.bind_some]

/-- **Looking up a listed extension**, in letters of any case. With a dot in front the media
type of the entry is found unless another one of its name, that is not equal, was paired with
the extension first; so it always is when no media type is registered with a slash in its main
type. Without the dot it is what the extension comes to that is looked up, and this is the
extension itself when it begins with no blank; the media type is found exactly when that is
listed too. A file with the extension stands for the first media type that is found. -/
theorem listed_found (cs : List Call) (hen : en ∈ (after cs).registrations) (he : e ∈ en.extensions)
    (hcase : Text.sameFold e' e = true) :
    (Finds (after cs) ('.' :: e') en.mediaType ↔ PairedAlike (cs.flatMap Call.rows) e en.mediaType) ∧
      (Finds (after cs) e' en.mediaType ↔
        PairedAlike (cs.flatMap Call.rows) (normalizeExtension e) en.mediaType) ∧
      ((∀ c ∈ cs, c.Unslashed) → Finds (after cs) ('.' :: e') en.mediaType ∧
        (Finds (after cs) e' en.mediaType ↔ normalizeExtension e ∈ en.extensions)) ∧
      (Text.Flush e → normalizeExtension e = e) ∧
      ('.' ∉ e → ∀ stem, (after cs).typeOfFile? (stem ++ '.' :: e) = ((after cs).typesOf e).head?) := by
  have normal := normal_of_listed hen he
  have hcase := Text.sameFold_iff.1 hcase
  have hplain : normalizeExtension e' = normalizeExtension e := normalizeExtension_congr hcase
  have hdot : normalizeExtension ('.' :: e') = e := by
    have hlower : Text.lower ('.' :: e') = Text.lower ('.' :: e) := congrArg ('.' :: ·) hcase
    rw [normalizeExtension_congr hlower]
    exact normal.normalize_dot
  refine ⟨?_, ?_, fun hcs => ⟨?_, ?_⟩, normal.normalize_eq, fun hno => typeOfFile?_append _ hno⟩
  · rw [finds_iff_paired, hdot]
  · rw [finds_iff_paired, hplain]
  · rw [finds_iff_listed hcs hen, hdot]
    exact he
  · rw [finds_iff_listed hcs hen, hplain]

/-- Extensions of a table with dots and blanks around them and one inside, in capital letters. -/
def dottedTable : List Call := [.load "t/x = | ..Z , TAR.gz".toList, .register (.ofParts ['T'] ['X'] []) [] [['.', 'z']]]

theorem listed_found_dotted :
    (after dottedTable).registrations = [⟨⟨['t'], ['x'], [], ['t', '/', 'x']⟩, [], [['z'], "tar.gz".toList]⟩] ∧
      (∀ c ∈ dottedTable, c.Unslashed) ∧ Text.sameFold ['Z'] ['z'] = true ∧ '.' ∉ ['z'] ∧
      Finds (after dottedTable) ['.', 'Z'] ⟨['t'], ['x'], [], ['t', '/', 'x']⟩ ∧ Finds (after dottedTable) ['Z'] ⟨['t'], ['x'], [], ['t', '/', 'x']⟩ ∧
      ((after dottedTable).typesOf ['z']).head? = some ⟨['t'], ['x'], [], ['t', '/', 'x']⟩ ∧
      ∀ stem, (after dottedTable).typeOfFile? (stem ++ ['.', 'z']) = some ⟨['t'], ['x'], [], ['t', '/', 'x']⟩ := by
  have hentries : (after dottedTable).registrations = [⟨⟨['t'], ['x'], [], ['t', '/', 'x']⟩, [], [['z'], "tar.gz".toList]⟩] := by
    decide +kernel
  have hcs : ∀ c ∈ dottedTable, c.Unslashed := by simp [dottedTable, Call.Unslashed, MediaType.ofParts]
  have hhead : ((after dottedTable).typesOf ['z']).head? = some ⟨['t'], ['x'], [], ['t', '/', 'x']⟩ := by decide +kernel
  have hen : ⟨⟨['t'], ['x'], [], ['t', '/', 'x']⟩, [], [['z'], "tar.gz".toList]⟩ ∈ (after dottedTable).registrations := by
    rw [hentries]
    exact List.mem_singleton_self _
  have hcase : Text.sameFold ['Z'] ['z'] = true := by decide
  obtain ⟨-, -, hfound, hself, hfile⟩ := listed_found dottedTable hen (by decide) hcase
  obtain ⟨hdot, hplain⟩ := hfound hcs
  have hlisted : normalizeExtension ['z'] ∈ [['z'], "tar.gz".toList] := by
    rw [hself (by decide)]
    exact List.mem_cons_self
  exact ⟨hentries, hcs, hcase, by decide, hdot, hplain.2 hlisted, hhead,
    fun stem => (hfile (by decide) stem).trans hhead⟩

/-- A blank behind the dot is listed with the extension, which is found with a dot in front and
not without it, nor in a file name. -/
theorem listed_found_blank :
    let r := after [.register (.ofParts ['a'] ['b'] []) [] [['.', ' ', 'x']]]
    r.registrations = [⟨⟨['a'], ['b'], [], ['a', '/', 'b']⟩, [], [[' ', 'x']]⟩] ∧
      r.typesOf ['.', ' ', 'x'] = [⟨['a'], ['b'], [], ['a', '/', 'b']⟩] ∧ r.typesOf [' ', 'x'] = [] ∧
      ¬Finds r [' ', 'x'] ⟨['a'], ['b'], [], ['a', '/', 'b']⟩ ∧ r.typeOfFile? ['f', '.', ' ', 'x'] = none := by
  intro r
  have hnone : r.typesOf [' ', 'x'] = [] := by decide
  refine ⟨by decide, by decide, hnone, ?_, by decide⟩
  rintro ⟨n, hn, -⟩
  rw [hnone] at hn
  exact List.not_mem_nil hn

/-- Two media types of one name that are not equal share an entry: what is under the extension of
the second is not the media type of the entry. -/
example :
    let r := after [.register (.ofParts ['a', '/', 'b'] ['c'] []) [] [],
      .register (.ofParts ['A'] ['b', '/', 'c'] []) [] [['y']]]
    r.registrations = [⟨.ofParts ['a', '/', 'b'] ['c'] [], [], [['y']]⟩] ∧
      r.typesOf ['y'] = [.ofParts ['A'] ['b', '/', 'c'] []] := by
  decide

end MessageHead.Registry
