/-
Cookies written into a request and read back.

Reading a cookie takes one layer of quotes off every value, and writing it puts
quotes only around a value with a blank in it, without escaping anything. So a
value that needed its quotes for a semicolon, a quote or the blanks at its ends
is written without them. The cookies that come back nevertheless are exactly
those that are `Faithful`: what is written for them is read as what it was
written for, segment by segment (`Rereads`).

For the hard half, let a cookie with the same attributes have been read. Then
every segment was an attribute of its own, since a further one takes a semicolon
that names and values then lack; and each segment holds as many semicolons as
the attribute it was written for, so the text was cut where it had been joined.
-/
import Mathlib.Data.List.Basic
import MessageHead.Cookie.Header
import MessageHead.Proofs.QuotedReaders
import MessageHead.Proofs.TableFacts

namespace MessageHead.Cookie

open Quoted (Whole)

/-! ## Which cookies survive -/

/-- A key as it is read. -/
structure IsKey (k : Text) : Prop where
  nonempty : k ≠ []
  trimmed : Text.Trimmed k
  plain : '=' ∉ k

/-- A value that reads back without quotes around it. -/
def Literal (v : Text) : Prop := Text.Trimmed v ∧ Quoted.inner? v = none

/-- A cookie that is written so that it reads back: it has a name that can be a
key; values are literal, save that of the cookie when a blank puts it in quotes;
and what is written for name and value, and for each attribute, is one segment. -/
structure Faithful (c : Cookie) : Prop where
  name : ∃ n, c.name? = some n ∧ IsKey n
  value : ' ' ∈ c.value?.getD [] ∨ Literal (c.value?.getD [])
  pair : ∀ t, c.renderPair? = some t → Whole (· == ';') t
  attributes : ∀ k v, (k, some v) ∈ c.attributes → k ≠ nameKey → k ≠ valueKey →
    Literal v ∧ Whole (· == ';') (k ++ '=' :: v)

/-- An attribute as it counts here: a cookie without a value has an empty one. -/
def fill (p : Text × Option Text) : Text × Option Text :=
  if p.1 = valueKey then (p.1, some (p.2.getD [])) else p

/-! ## Reading segments -/

theorem unquote_trim_eq_self_iff {v : Text} : Quoted.unquote (Text.trim v) = v ↔ Literal v := by
  constructor
  · intro h
    have ht : Text.trim v = v := by
      obtain ⟨a, b, -, -, hv⟩ := Text.exists_trim v
      have hle : (Quoted.unquote (Text.trim v)).length ≤ (Text.trim v).length := by
        unfold Quoted.unquote
        cases hi : Quoted.inner? (Text.trim v) with
        | none => simp
        | some t =>
          have hl := congrArg List.length (Quoted.eq_of_inner? hi)
          simp only [List.length_append, List.length_cons] at hl
          rw [Option.getD_some]
          omega
      rw [h] at hle
      have hlen := congrArg List.length hv
      simp only [List.length_append] at hlen
      have ha : a = [] := List.length_eq_zero_iff.1 (by omega)
      have hb : b = [] := List.length_eq_zero_iff.1 (by omega)
      rw [ha, hb] at hv
      simpa using hv.symm
    rw [ht] at h
    exact ⟨Text.trim_eq_self_iff.1 ht, Quoted.unquote_eq_self_iff.1 h⟩
  · rintro ⟨ht, hi⟩
    rw [Text.trim_eq_self ht, Quoted.unquote_eq_self_iff.2 hi]

theorem readSegment_key {k : Text} (h : '=' ∉ k) : readSegment k = (k, none) := by
  rw [readSegment, Text.cut_eq_none h]

theorem readSegment_pair {f k : Text} (hf : Text.Blank f) (hk : IsKey k) (v : Text) :
    readSegment (Text.trim (f ++ k ++ '=' :: v)) = (k, some (Quoted.unquote (Text.trim v))) := by
  obtain ⟨r, htrim, hr⟩ := Text.trim_pair hf hk.nonempty hk.trimmed v
  rw [htrim, readSegment, Text.cut_append hk.plain]
  simp only [Text.trim_eq_self hk.trimmed, hr]

theorem count_readSegment (g : Text) :
    ((readSegment g).1 ++ (readSegment g).2.getD []).count ';' = g.count ';' := by
  rcases Text.cut_cases '=' g with ⟨-, hcut⟩ | ⟨a, b, he, -, hcut⟩
  · simp only [readSegment, hcut, Option.getD_none, List.append_nil]
  · simp only [readSegment, hcut, Option.getD_some]
    rw [he, List.count_append, List.count_append, List.count_cons_of_ne (by decide),
      Text.count_trim (by decide), Quoted.count_unquote (by decide), Text.count_trim (by decide)]

theorem count_spell_read (gs : List Text) :
    (OrderedTable.spell (·.getD []) (gs.map readSegment)).count ';' = gs.flatten.count ';' := by
  induction gs with
  | nil => rfl
  | cons g gs ih =>
    have hg := count_readSegment g
    simp only [OrderedTable.spell, List.map_cons, List.flatMap_cons, List.flatten_cons,
      List.count_append] at ih hg ⊢
    omega

/-! ## What reading returns -/

/-- What holds of an attribute that was read. A key alone is a segment. -/
structure ReadableAttribute (p : Text × Option Text) : Prop where
  key : IsKey p.1
  whole : p.2 = none → Whole (· == ';') p.1

/-- What holds of a cookie that was read: name and value come first, and no other
attribute has their keys. -/
structure Readable (c : Cookie) (name value : Option Text) (others : OrderedTable Text (Option Text)) :
    Prop where
  attributes_eq : c.attributes = (nameKey, name) :: (valueKey, value) :: others
  distinct : OrderedTable.Distinct id c.attributes
  others : ∀ p ∈ others, ReadableAttribute p

/-- The attributes of the first segment. -/
def opening (first : Text) : OrderedTable Text (Option Text) :=
  [(nameKey, some (readSegment first).1), (valueKey, (readSegment first).2)]

theorem foldlM_addSegment {t : OrderedTable Text (Option Text)} {gs : List Text} {c : Cookie} :
    gs.foldlM addSegment ⟨t⟩ = some c ↔
      (∀ g ∈ gs, (readSegment g).1 ≠ []) ∧ c = ⟨OrderedTable.putAll id t (gs.map readSegment)⟩ := by
  induction gs generalizing t with
  | nil =>
    simp only [List.foldlM_nil, List.map_nil, OrderedTable.putAll, List.foldl_nil]
    constructor
    · intro h
      exact ⟨by simp, by cases h; rfl⟩
    · rintro ⟨-, rfl⟩
      rfl
  | cons g gs ih =>
    rw [List.foldlM_cons]
    by_cases hg : (readSegment g).1 = []
    · have hadd : addSegment ⟨t⟩ g = none := by simp [addSegment, hg]
      rw [hadd]
      simp [hg]
    · have hadd : addSegment ⟨t⟩ g = some ⟨OrderedTable.put (fun k => id k == id (readSegment g).1)
          (readSegment g).1 (readSegment g).2 t⟩ := by
        simp only [addSegment, List.isEmpty_iff, if_neg hg, id]
      rw [hadd]
      simp only [Option.bind_eq_bind, Option.bind_some, ih, List.forall_mem_cons]
      constructor
      · rintro ⟨h, rfl⟩
        exact ⟨⟨hg, h⟩, rfl⟩
      · rintro ⟨⟨-, h⟩, rfl⟩
        exact ⟨h, rfl⟩

theorem parse_of_segments {s first : Text} {gs more : List Text} (hs : Quoted.split? ';' s = .ok gs)
    (hg : (gs.map Text.trim).filter (fun g => !g.isEmpty) = first :: more) :
    parse s = if (readSegment first).1.isEmpty then .error (.invalidCookie s) else
      match more.foldlM addSegment ⟨opening first⟩ with
      | none => .error (.invalidCookie s)
      | some c => .ok c := by
  unfold parse segments
  rw [hs]
  simp only [Except.map, hg]
  rfl

theorem parse_eq_ok_iff {s : Text} {c : Cookie} :
    parse s = .ok c ↔ ∃ gs first more, Quoted.split? ';' s = .ok gs ∧
      (gs.map Text.trim).filter (fun g => !g.isEmpty) = first :: more ∧
      (∀ g ∈ first :: more, (readSegment g).1 ≠ []) ∧
      c = ⟨OrderedTable.putAll id (opening first) (more.map readSegment)⟩ := by
  constructor
  · intro h
    cases hs : Quoted.split? ';' s with
    | error e =>
      unfold parse segments at h
      rw [hs] at h
      cases h
    | ok gs =>
      cases hg : (gs.map Text.trim).filter (fun g => !g.isEmpty) with
      | nil =>
        unfold parse segments at h
        rw [hs] at h
        simp only [Except.map, hg, reduceCtorEq] at h
      | cons first more =>
        rw [parse_of_segments hs hg] at h
        split at h
        · cases h
        · rename_i hne
          split at h
          · cases h
          · rename_i c' hfold
            cases h
            obtain ⟨hmore, hc⟩ := foldlM_addSegment.1 hfold
            have hall : ∀ g ∈ first :: more, (readSegment g).1 ≠ [] := by
              intro g hg
              rcases List.mem_cons.1 hg with rfl | hg
              · simpa using hne
              · exact hmore g hg
            exact ⟨gs, first, more, rfl, hg, hall, hc⟩
  · rintro ⟨gs, first, more, hs, hg, hall, hc⟩
    have hfold := foldlM_addSegment.2 ⟨fun g hg => hall g (by simp [hg]), hc⟩
    rw [parse_of_segments hs hg, if_neg (by simpa using hall first (by simp)), hfold]

theorem readableAttribute_of_read {g : Text} (hg : Whole (· == ';') g)
    (hne : (readSegment (Text.trim g)).1 ≠ []) :
    ReadableAttribute (readSegment (Text.trim g)) := by
  rcases Text.cut_cases '=' (Text.trim g) with ⟨hno, hcut⟩ | ⟨a, b, -, hno, hcut⟩
  · have hr : readSegment (Text.trim g) = (Text.trim g, none) := by simp only [readSegment, hcut]
    rw [hr] at hne ⊢
    exact ⟨⟨hne, Text.trimmed_trim g, hno⟩, fun _ => hg.trim⟩
  · have hr : readSegment (Text.trim g) = (Text.trim a, some (Quoted.unquote (Text.trim b))) := by
      simp only [readSegment, hcut]
    rw [hr] at hne ⊢
    exact ⟨⟨hne, Text.trimmed_trim a, fun h => hno (Text.mem_of_mem_trim h)⟩, by simp⟩

theorem readableAttribute_reserved {k : Text} (hk : k = nameKey ∨ k = valueKey) (v : Option Text) :
    ReadableAttribute (k, v) := by
  rcases hk with rfl | rfl
  · exact ⟨⟨(by decide : nameKey ≠ []), (by decide : Text.Trimmed nameKey), (by decide : '=' ∉ nameKey)⟩,
      fun _ => (by decide : Whole (· == ';') nameKey)⟩
  · exact ⟨⟨(by decide : valueKey ≠ []), (by decide : Text.Trimmed valueKey), (by decide : '=' ∉ valueKey)⟩,
      fun _ => (by decide : Whole (· == ';') valueKey)⟩

/-- **What reading returns is readable.** -/
theorem readable_of_parse {s : Text} {c : Cookie} (h : parse s = .ok c) :
    ∃ name value others, Readable c name value others := by
  obtain ⟨gs, first, more, hs, hg, hall, rfl⟩ := parse_eq_ok_iff.1 h
  obtain ⟨-, -, hw⟩ := (Quoted.split?_eq_ok_iff (by decide)).1 hs
  have hreads : ∀ e ∈ OrderedTable.putAll id (opening first) (more.map readSegment), ReadableAttribute e := by
    refine OrderedTable.forall_putAll id (I := fun k v => ReadableAttribute (k, v)) ?_ ?_ ?_
    · rintro k k' v v' hk - h'
      have hk : k = k' := hk
      rw [hk]
      exact h'
    · intro e he
      refine readableAttribute_reserved ?_ _
      simp only [opening, List.mem_cons, List.not_mem_nil, or_false] at he
      rcases he with rfl | rfl
      · exact .inl rfl
      · exact .inr rfl
    · intro e he
      obtain ⟨m, hm, rfl⟩ := List.mem_map.1 he
      have hmem : m ∈ (gs.map Text.trim).filter (fun g => !g.isEmpty) := by
        rw [hg]
        simp [hm]
      obtain ⟨g, hgm, rfl⟩ := List.mem_map.1 (List.mem_filter.1 hmem).1
      exact readableAttribute_of_read (hw g hgm) (hall _ (by simp [hm]))
  have hdistinct :
      OrderedTable.Distinct id (OrderedTable.putAll id (opening first) (more.map readSegment)) := by
    refine OrderedTable.Distinct.putAll ?_ _
    show [nameKey, valueKey].Nodup
    decide
  -- The two reserved keys were there first and stay in front.
  obtain ⟨ks, hks⟩ := OrderedTable.keys_putAll (f := id) (opening first) (more.map readSegment)
  have hks : (OrderedTable.putAll id (opening first) (more.map readSegment)).map Prod.fst =
    nameKey :: valueKey :: ks := hks
  obtain ⟨⟨k₁, name⟩, rest, ht, hk₁, hrest⟩ := List.map_eq_cons_iff.1 hks
  obtain ⟨⟨k₂, value⟩, others, rfl, hk₂, -⟩ := List.map_eq_cons_iff.1 hrest
  have hk₁ : k₁ = nameKey := hk₁
  have hk₂ : k₂ = valueKey := hk₂
  subst hk₁ hk₂
  rw [ht] at hreads
  exact ⟨name, value, others, ht, hdistinct, fun p hp => hreads p (by simp [hp])⟩

/-! ## What is written -/

/-- Name and value as they are written. -/
def pairText (n v : Text) : Text := if v.contains ' ' then n ++ '=' :: '"' :: v ++ ['"'] else n ++ '=' :: v

/-- An attribute as it is written between the semicolons around it. -/
def attributeText (p : Text × Option Text) : Text :=
  ' ' :: p.1 ++ match p.2 with
    | some v => '=' :: v
    | none => []

variable {c : Cookie} {name value : Option Text} {others : OrderedTable Text (Option Text)}

theorem Readable.name?_eq (h : Readable c name value others) : c.name? = name := by
  have hn : Text.sameFold nameKey nameKey = true := by decide
  unfold name? get? OrderedTable.get? OrderedTable.first?
  simp only [h.attributes_eq, List.find?_cons, hn, Option.map_some, Option.join_some]

theorem Readable.value?_eq (h : Readable c name value others) : c.value? = value := by
  have hn : Text.sameFold nameKey valueKey = false := by decide
  have hv : Text.sameFold valueKey valueKey = true := by decide
  unfold value? get? OrderedTable.get? OrderedTable.first?
  simp only [h.attributes_eq, List.find?_cons, hn, hv, Option.map_some, Option.join_some]

theorem Readable.key_ne (h : Readable c name value others) {p : Text × Option Text} (hp : p ∈ others) :
    p.1 ≠ nameKey ∧ p.1 ≠ valueKey := by
  have hd := h.distinct
  unfold OrderedTable.Distinct at hd
  rw [h.attributes_eq] at hd
  simp only [List.map_cons, id, List.nodup_cons, List.mem_cons, not_or] at hd
  have hm : p.1 ∈ others.map fun e => e.1 := List.mem_map.2 ⟨p, hp, rfl⟩
  refine ⟨?_, ?_⟩
  · intro he
    exact hd.1.2 (he ▸ hm)
  · intro he
    exact hd.2.1 (he ▸ hm)

theorem renderPair?_eq (n : Text) (h : Readable c (some n) value others) :
    c.renderPair? = some (pairText n (value.getD [])) := by
  unfold renderPair?
  rw [h.name?_eq, h.value?_eq]
  rfl

theorem renderRequest?_eq {n : Text} (h : Readable c (some n) value others) :
    c.renderRequest? = some (Text.join [';'] (pairText n (value.getD []) :: others.map attributeText)) := by
  have skip : ∀ v, renderAttribute (nameKey, v) = [] ∧ renderAttribute (valueKey, v) = [] :=
      fun v => ⟨rfl, rfl⟩
  have rest : others.flatMap renderAttribute = (others.map attributeText).flatMap ([';'] ++ ·) := by
    rw [List.flatMap_map]
    refine List.flatMap_congr fun p hp => ?_
    obtain ⟨hn, hv⟩ := h.key_ne hp
    rw [renderAttribute, if_neg (by simp [hn, hv])]
    rfl
  unfold renderRequest?
  rw [renderPair?_eq n h, h.attributes_eq, List.flatMap_cons, List.flatMap_cons, (skip _).1, (skip _).2, rest,
    Text.join_eq_flatMap]
  rfl

theorem readSegment_pairText {n : Text} (hn : IsKey n) (v : Text) :
    readSegment (Text.trim (pairText n v)) =
      (n, some (if ' ' ∈ v then v else Quoted.unquote (Text.trim v))) := by
  unfold pairText
  by_cases hv : ' ' ∈ v
  · have ht : Text.Trimmed ('"' :: v ++ ['"']) :=
      Text.Trimmed.surround (a := ['"']) (b := ['"']) (by decide) (by decide) (by simp) (by simp) v
    have := readSegment_pair Text.Blank.nil hn ('"' :: v ++ ['"'])
    rw [Text.trim_eq_self ht, Quoted.unquote_quoted] at this
    simpa [hv] using this
  · have := readSegment_pair Text.Blank.nil hn v
    simpa [hv] using this

theorem readSegment_attributeText {p : Text × Option Text} (hp : IsKey p.1) :
    readSegment (Text.trim (attributeText p)) = (p.1, p.2.map fun v => Quoted.unquote (Text.trim v)) := by
  obtain ⟨k, v⟩ := p
  have hb : Text.Blank [' '] := by decide
  cases v with
  | some v => exact readSegment_pair hb hp v
  | none =>
    have htrim : Text.trim (attributeText (k, none)) = k := Text.trim_append hb hp.trimmed Text.Blank.nil
    rw [htrim, readSegment_key hp.plain]
    rfl

/-- A name is read from the front of what is written for it only if it is a key. -/
theorem isKey_of_readSegment {n v : Text} (hne : n ≠ [])
    (h : (readSegment (Text.trim (pairText n v))).1 = n) :
    IsKey n := by
  have heq : '=' ∈ pairText n v := by
    unfold pairText
    split <;> simp
  rcases Text.cut_cases '=' (Text.trim (pairText n v)) with ⟨hno, -⟩ | ⟨a, b, -, hno, hcut⟩
  · refine absurd ?_ hno
    rw [← List.count_pos_iff, Text.count_trim (by decide)]
    exact List.count_pos_iff.2 heq
  · simp only [readSegment, hcut] at h
    rw [← h]
    exact ⟨h ▸ hne, Text.trimmed_trim a, fun hm => hno (Text.mem_of_mem_trim hm)⟩

/-! ## Reading what was written -/

/-- What is written for name and value and for each attribute is one segment, and
is read as what it was written for. -/
structure Rereads (n v : Text) (others : List (Text × Option Text)) : Prop where
  whole : ∀ u ∈ pairText n v :: others.map attributeText, Whole (· == ';') u
  nonempty : n ≠ []
  name : (readSegment (Text.trim (pairText n v))).1 = n
  value : (readSegment (Text.trim (pairText n v))).2.getD [] = v
  others : ∀ p ∈ others, readSegment (Text.trim (attributeText p)) = p

theorem Rereads.isKey {n v : Text} (h : Rereads n v others) : IsKey n :=
  isKey_of_readSegment h.nonempty h.name

theorem Rereads.pair {n v : Text} (h : Rereads n v others) :
    readSegment (Text.trim (pairText n v)) = (n, some v) := by
  have hv := h.value
  rw [readSegment_pairText h.isKey, Option.getD_some] at hv
  rw [readSegment_pairText h.isKey, hv]

theorem Rereads.keys {n v : Text} (h : Rereads n v others) (ho : ∀ p ∈ others, ReadableAttribute p) :
    ∀ u ∈ pairText n v :: others.map attributeText, (readSegment (Text.trim u)).1 ≠ [] := by
  intro u hu
  rcases List.mem_cons.1 hu with rfl | hu
  · rw [h.name]
    exact h.nonempty
  · obtain ⟨p, hp, rfl⟩ := List.mem_map.1 hu
    rw [h.others p hp]
    exact (ho p hp).key.nonempty

theorem Rereads.faithful {n : Text} (hr : Rereads n (value.getD []) others)
    (h : Readable c (some n) value others) :
    Faithful c where
  name := ⟨n, h.name?_eq, hr.isKey⟩
  value := by
    rw [h.value?_eq]
    by_cases hb : ' ' ∈ value.getD []
    · exact .inl hb
    · have hv := hr.value
      rw [readSegment_pairText hr.isKey, if_neg hb] at hv
      exact .inr (unquote_trim_eq_self_iff.1 hv)
  pair := by
    intro t ht
    rw [renderPair?_eq n h, Option.some.injEq] at ht
    rw [← ht]
    exact hr.whole _ (by simp)
  attributes := by
    intro k v hm hkn hkv
    have hp : (k, some v) ∈ others := by
      rw [h.attributes_eq] at hm
      simpa [hkn, hkv] using hm
    have hread := hr.others _ hp
    rw [readSegment_attributeText (h.others _ hp).key, Option.map_some] at hread
    simp only [Prod.mk.injEq, Option.some.injEq, true_and] at hread
    have hwhole := hr.whole (attributeText (k, some v)) (by simp [List.mem_map.2 ⟨_, hp, rfl⟩])
    exact ⟨unquote_trim_eq_self_iff.1 hread, hwhole.tail (by decide)⟩

theorem Faithful.rereads {n : Text} (hf : Faithful c) (h : Readable c (some n) value others) :
    Rereads n (value.getD []) others := by
  have hn : IsKey n := by
    obtain ⟨n', hn', hk⟩ := hf.name
    rw [h.name?_eq, Option.some.injEq] at hn'
    rw [hn']
    exact hk
  have hother : ∀ p ∈ others, ∀ v, p.2 = some v → Literal v ∧ Whole (· == ';') (p.1 ++ '=' :: v) := by
    rintro ⟨k, w⟩ hp v rfl
    obtain ⟨hkn, hkv⟩ := h.key_ne hp
    exact hf.attributes k v (by rw [h.attributes_eq]; simp [hp]) hkn hkv
  have hpair : readSegment (Text.trim (pairText n (value.getD []))) = (n, some (value.getD [])) := by
    have hv := hf.value
    rw [h.value?_eq] at hv
    rw [readSegment_pairText hn]
    by_cases hb : ' ' ∈ value.getD []
    · rw [if_pos hb]
    · rw [if_neg hb, unquote_trim_eq_self_iff.2 (hv.resolve_left hb)]
  refine ⟨?_, hn.nonempty, by rw [hpair], by rw [hpair]; rfl, ?_⟩
  · intro u hu
    rcases List.mem_cons.1 hu with rfl | hu
    · exact hf.pair _ (renderPair?_eq n h)
    · obtain ⟨⟨k, v⟩, hp, rfl⟩ := List.mem_map.1 hu
      cases v with
      | none => exact Whole.cons (by decide) (by decide) (by simpa using (h.others _ hp).whole rfl)
      | some v => exact Whole.cons (by decide) (by decide) (hother _ hp v rfl).2
  · rintro ⟨k, v⟩ hp
    rw [readSegment_attributeText (h.others _ hp).key]
    cases v with
    | none => rfl
    | some v => rw [Option.map_some, unquote_trim_eq_self_iff.2 (hother _ hp v rfl).1]

/-! ## Counting semicolons -/

theorem count_pairText (n v : Text) : (pairText n v).count ';' = (n ++ v).count ';' := by
  unfold pairText
  split
  · simp
  · simp

theorem count_attributeText (p : Text × Option Text) :
    (attributeText p).count ';' = (p.1 ++ p.2.getD []).count ';' := by
  obtain ⟨k, v⟩ := p
  cases v <;> simp [attributeText]

theorem count_segments (gs : List Text) :
    ((gs.map Text.trim).filter fun g => !g.isEmpty).flatten.count ';' = gs.flatten.count ';' := by
  rw [List.flatten_filter_not_isEmpty]
  induction gs with
  | nil => rfl
  | cons g gs ih =>
    rw [List.map_cons, List.flatten_cons, List.flatten_cons, List.count_append, List.count_append,
      Text.count_trim (by decide), ih]

theorem count_spell_fill (t : OrderedTable Text (Option Text)) :
    (OrderedTable.spell (·.getD []) (t.map fill)).count ';' =
      (OrderedTable.spell (·.getD []) t).count ';' := by
  induction t with
  | nil => rfl
  | cons p t ih =>
    have hp : ((fill p).1 ++ (fill p).2.getD []) = p.1 ++ p.2.getD [] := by
      unfold fill
      split <;> rfl
    simp only [OrderedTable.spell, List.map_cons, List.flatMap_cons, List.count_append] at ih ⊢
    rw [ih, ← List.count_append, hp, List.count_append]

theorem count_spell_attributes (ps : OrderedTable Text (Option Text)) :
    (ps.map attributeText).flatten.count ';' = (OrderedTable.spell (·.getD []) ps).count ';' := by
  induction ps with
  | nil => rfl
  | cons p ps ih =>
    have hp := count_attributeText p
    simp only [OrderedTable.spell, List.map_cons, List.flatMap_cons, List.flatten_cons,
      List.count_append] at ih hp ⊢
    omega

theorem count_spell_opening (first : Text) :
    (OrderedTable.spell (·.getD []) (opening first)).count ';' = first.count ';' := by
  have reserved : nameKey.count ';' = 0 ∧ valueKey.count ';' = 0 := by decide
  have read := count_readSegment first
  simp only [opening, OrderedTable.spell, List.flatMap_cons, List.flatMap_nil, List.append_nil,
    List.count_append, reserved, Option.getD_some] at read ⊢
  omega

/-- The attributes of a cookie that was read have as many semicolons as what is
written for them, apart from those between. -/
theorem Readable.count (n : Text) (h : Readable c (some n) value others) :
    (OrderedTable.spell (·.getD []) c.attributes).count ';' =
      (pairText n (value.getD []) :: others.map attributeText).flatten.count ';' := by
  have reserved : nameKey.count ';' = 0 ∧ valueKey.count ';' = 0 := by decide
  rw [h.attributes_eq, List.flatten_cons, List.count_append, count_pairText, count_spell_attributes]
  simp only [OrderedTable.spell, List.flatMap_cons, List.count_append, reserved, Option.getD_some]
  omega

/-! ## Round trip -/

theorem fill_of_ne {p : Text × Option Text} (h : p.1 ≠ valueKey) : fill p = p := by rw [fill, if_neg h]

theorem eq_of_map_fill {c' : Cookie} {n : Text} {first : Text} {more : List Text}
    (h : Readable c (some n) value others)
    (hc' : c'.attributes = opening first ++ more.map readSegment)
    (he : c'.attributes.map fill = c.attributes.map fill) :
    (readSegment first).1 = n ∧ (readSegment first).2.getD [] = value.getD [] ∧
      more.map readSegment = others := by
  have name : ∀ v, fill (nameKey, v) = (nameKey, v) := fun v => rfl
  have fillValue : ∀ v, fill (valueKey, v) = (valueKey, some (v.getD [])) := fun v => rfl
  have kept : others.map fill = others := by
    conv => rhs; rw [← List.map_id others]
    exact List.map_congr_left fun p hp => fill_of_ne (h.key_ne hp).2
  rw [hc', h.attributes_eq] at he
  simp only [opening, List.cons_append, List.nil_append, List.map_cons, name, fillValue, kept,
    List.cons.injEq, Prod.mk.injEq, true_and, Option.some.injEq] at he
  obtain ⟨hn, hv, hm⟩ := he
  refine ⟨hn, hv, ?_⟩
  -- None of the attributes read is a second value, since none of the others is.
  rw [← hm]
  conv => lhs; rw [← List.map_id (more.map readSegment)]
  refine List.map_congr_left fun p hp => ?_
  have hmem : fill p ∈ others := by
    rw [← hm]
    exact List.mem_map.2 ⟨p, hp, rfl⟩
  have hkey : (fill p).1 = p.1 := by
    unfold fill
    split <;> rfl
  have := (h.key_ne hmem).2
  rw [hkey] at this
  exact (fill_of_ne this).symm

/-- A cookie that comes back was read from as many segments as were written:
each takes a semicolon, on both sides. -/
theorem length_segments {n first : Text} {gs more : List Text} (h : Readable c (some n) value others)
    (hs : Quoted.split? ';' (Text.join [';'] (pairText n (value.getD []) :: others.map attributeText)) =
      .ok gs)
    (hg : (gs.map Text.trim).filter (fun g => !g.isEmpty) = first :: more)
    (he : (OrderedTable.putAll id (opening first) (more.map readSegment)).map fill = c.attributes.map fill) :
    gs.length = others.length + 1 ∧ more.length = others.length ∧
      (OrderedTable.putAll id (opening first) (more.map readSegment)).length = more.length + 2 := by
  obtain ⟨hgne, hjoin, -⟩ := (Quoted.split?_eq_ok_iff (d := ';') (by decide)).1 hs
  have written :=
    Text.count_join ';' (List.cons_ne_nil (pairText n (value.getD [])) (others.map attributeText))
  have read := Text.count_join ';' hgne
  rw [hjoin, written, ← h.count n, ← count_spell_fill, ← he, count_spell_fill] at read
  have less := OrderedTable.count_spell_putAll_le id (·.getD []) ';' (opening first) (more.map readSegment)
  have kept := count_segments gs
  rw [hg, List.flatten_cons, List.count_append] at kept
  rw [count_spell_opening, count_spell_read] at less
  have fewer := OrderedTable.length_putAll_le id (opening first) (more.map readSegment)
  have most := List.length_filter_le (fun g : Text => !g.isEmpty) (gs.map Text.trim)
  have hlen := congrArg List.length he
  have hopen : (opening first).length = 2 := rfl
  rw [hg] at most
  simp only [h.attributes_eq, List.length_map, List.length_cons, hopen] at most fewer hlen read
  omega

/-- **A cookie that comes back was cut where it had been joined**: what was
written for name and value and for each attribute was one segment, and was read
as what it was written for. -/
theorem rereads_of_same {c' : Cookie} {n : Text} (h : Readable c (some n) value others)
    (hp : parse (Text.join [';'] (pairText n (value.getD []) :: others.map attributeText)) = .ok c')
    (he : c'.attributes.map fill = c.attributes.map fill) : Rereads n (value.getD []) others := by
  obtain ⟨gs, first, more, hs, hg, hall, rfl⟩ := parse_eq_ok_iff.1 hp
  obtain ⟨-, hjoin, hw⟩ := (Quoted.split?_eq_ok_iff (d := ';') (by decide)).1 hs
  obtain ⟨hgs, hmore, hput⟩ := length_segments h hs hg he
  have hlen : (OrderedTable.putAll id (opening first) (more.map readSegment)).length =
      (opening first).length + (more.map readSegment).length := by
    rw [hput, List.length_map]
    exact Nat.add_comm _ _
  obtain ⟨hn, hv, hm⟩ := eq_of_map_fill h (OrderedTable.putAll_eq_append id hlen) he
  have htrim : gs.map Text.trim = first :: more := by
    rw [← hg]
    refine (List.filter_eq_self.2 (List.length_filter_eq_length_iff.1 ?_)).symm
    rw [hg, List.length_map, List.length_cons, hgs, hmore]
  -- Segment by segment there are as many semicolons as were written.
  have trimmed : ∀ ts : List Text, ts.map (·.count ';') = (ts.map Text.trim).map (·.count ';') := by
    intro ts
    rw [List.map_map]
    exact List.map_congr_left fun t _ => (Text.count_trim (by decide) t).symm
  have counts : gs.map (·.count ';') =
      (pairText n (value.getD []) :: others.map attributeText).map (·.count ';') := by
    have hpair : first.count ';' = (pairText n (value.getD [])).count ';' := by
      rw [count_pairText, ← hn, ← hv, count_readSegment]
    have hrest : more.map (·.count ';') = (others.map attributeText).map (·.count ';') := by
      rw [← hm, List.map_map, List.map_map]
      refine List.map_congr_left fun m _ => ?_
      show m.count ';' = (attributeText (readSegment m)).count ';'
      rw [count_attributeText, count_readSegment]
    rw [trimmed, htrim, List.map_cons, List.map_cons, hpair, hrest]
  have hunits := Text.join_inj counts hjoin
  subst hunits
  simp only [List.map_cons, List.cons.injEq] at htrim
  obtain ⟨hfirst, hrest⟩ := htrim
  refine ⟨hw, ?_, by rw [hfirst, hn], by rw [hfirst, hv], ?_⟩
  · rw [← hn]
    exact hall first (by simp)
  · rw [← hrest, List.map_map, List.map_map] at hm
    exact List.map_inj_left.1 (hm.trans (List.map_id others).symm)

theorem parse_of_rereads {n : Text} (h : Readable c (some n) value others)
    (hr : Rereads n (value.getD []) others) :
    parse (Text.join [';'] (pairText n (value.getD []) :: others.map attributeText)) =
      .ok ⟨(nameKey, some n) :: (valueKey, some (value.getD [])) :: others⟩ := by
  have keys := hr.keys h.others
  have hmore : ((others.map attributeText).map Text.trim).map readSegment = others := by
    rw [List.map_map, List.map_map]
    conv => rhs; rw [← List.map_id others]
    exact List.map_congr_left hr.others
  refine parse_eq_ok_iff.2 ⟨_, Text.trim (pairText n (value.getD [])),
    (others.map attributeText).map Text.trim,
    (Quoted.split?_eq_ok_iff (by decide)).2 ⟨by simp, rfl, hr.whole⟩, ?_, ?_, ?_⟩
  · rw [← List.map_cons]
    refine List.filter_eq_self.2 fun t ht => ?_
    obtain ⟨u, hu, rfl⟩ := List.mem_map.1 ht
    cases hu' : Text.trim u with
    | nil =>
      have := keys u hu
      rw [hu'] at this
      exact absurd rfl this
    | cons => rfl
  · rw [← List.map_cons]
    intro t ht
    obtain ⟨u, hu, rfl⟩ := List.mem_map.1 ht
    exact keys u hu
  · have hd : OrderedTable.Distinct id ([(nameKey, some n), (valueKey, some (value.getD []))] ++ others) := by
      have := h.distinct
      unfold OrderedTable.Distinct at this ⊢
      rw [h.attributes_eq] at this
      exact this
    rw [hmore, opening, hr.pair, OrderedTable.putAll_append id hd]
    rfl

/-- **The round trip of cookies.** A cookie that was read, written into a request
and read again has the same attributes exactly when it is faithful. -/
theorem parse_renderRequest {s : Text} {c : Cookie} (h : parse s = .ok c) :
    (∃ t, c.renderRequest? = some t ∧ ∃ c', parse t = .ok c' ∧
      c'.attributes.map fill = c.attributes.map fill) ↔
      Faithful c := by
  obtain ⟨name, value, others, hr⟩ := readable_of_parse h
  constructor
  · rintro ⟨t, ht, c', hp, he⟩
    cases name with
    | none =>
      unfold renderRequest? renderPair? at ht
      rw [hr.name?_eq] at ht
      cases ht
    | some n =>
      rw [renderRequest?_eq hr, Option.some.injEq] at ht
      subst ht
      exact (rereads_of_same hr hp he).faithful hr
  · intro hf
    obtain ⟨n, hn, -⟩ := hf.name
    rw [hr.name?_eq] at hn
    subst hn
    refine ⟨_, renderRequest?_eq hr, _, parse_of_rereads hr (hf.rereads hr), ?_⟩
    rw [hr.attributes_eq]
    rfl

/-- A value that a blank keeps in quotes comes back, semicolon and all, and so
does an attribute without a value. -/
theorem parse_renderRequest_blank :
    parse ['a', '=', '"', 'x', ';', ' ', 'y', '"', ';', 'b'] =
      .ok ⟨[(nameKey, some ['a']), (valueKey, some ['x', ';', ' ', 'y']), (['b'], none)]⟩ ∧
    ∃ t, renderRequest? ⟨[(nameKey, some ['a']), (valueKey, some ['x', ';', ' ', 'y']), (['b'], none)]⟩ =
        some t ∧
      ∃ c', parse t = .ok c' ∧ c'.attributes.map fill =
        [(nameKey, some ['a']), (valueKey, some ['x', ';', ' ', 'y']), (['b'], none)].map fill := by
  have h : parse ['a', '=', '"', 'x', ';', ' ', 'y', '"', ';', 'b'] =
      .ok ⟨[(nameKey, some ['a']), (valueKey, some ['x', ';', ' ', 'y']), (['b'], none)]⟩ := by decide +kernel
  refine ⟨h, (parse_renderRequest h).2 ⟨⟨['a'], by decide, by decide, by decide, by decide⟩, ?_, ?_, ?_⟩⟩
  · exact .inl (by decide)
  · intro t ht
    cases ht
    decide
  · intro k v hm
    simp only [List.mem_cons, Prod.mk.injEq, reduceCtorEq, and_false, List.not_mem_nil, or_false] at hm
    rcases hm with ⟨rfl, -⟩ | ⟨rfl, -⟩
    · exact fun hk => absurd rfl hk
    · exact fun _ hk => absurd rfl hk

/-- A semicolon that came in quotes is written without them and ends the value. -/
theorem parse_renderRequest_semicolon :
    parse ['a', '=', '"', 'x', ';', 'y', '"'] =
      .ok ⟨[(nameKey, some ['a']), (valueKey, some ['x', ';', 'y'])]⟩ ∧
    renderRequest? ⟨[(nameKey, some ['a']), (valueKey, some ['x', ';', 'y'])]⟩ =
      some ['a', '=', 'x', ';', 'y'] ∧
    parse ['a', '=', 'x', ';', 'y'] = .ok ⟨[(nameKey, some ['a']), (valueKey, some ['x']), (['y'], none)]⟩ ∧
    [(nameKey, some ['a']), (valueKey, some ['x']), (['y'], none)].map fill ≠
      [(nameKey, some ['a']), (valueKey, some ['x', ';', 'y'])].map fill := by
  refine ⟨by decide +kernel, by decide +kernel, by decide +kernel, by decide⟩

end MessageHead.Cookie
