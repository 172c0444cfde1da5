/-
Cookies that are added to a message and read out of it again.

A cookie is written segment by segment without escapes, so it comes back when no segment
is cut or trimmed on the way (`Sendable`). What changes make of a name and a value has no
look-alike of the two reserved keys (`Made.exact`); its attributes are therefore laid out
as those of a cookie that was read (`Sendable.readable`), and the round trip of these
applies.

Each cookie is a header value of its own and is read by itself. One without a name is no
value at all.
-/
import MessageHead.Message
import MessageHead.Proofs.CookiePlaces
import MessageHead.Proofs.HeaderHistory

namespace MessageHead.Cookie

open Quoted (Whole)

/-! ## Cookies that can be sent -/

/-- A cookie of a name and a value. -/
inductive New : Cookie → Prop
  | ofNameValue (name value : Text) : New (.ofNameValue name value)

/-- A key that is written as it is. -/
structure SendableKey (k : Text) : Prop where
  nonempty : k ≠ []
  trimmed : Text.Trimmed k
  free : '=' ∉ k ∧ ';' ∉ k ∧ '"' ∉ k

/-- A value that is written as it is. -/
structure SendableValue (v : Text) : Prop where
  trimmed : Text.Trimmed v
  free : ';' ∉ v ∧ '"' ∉ v

/-- A cookie that changes made of a name and a value and that has both still. All keys
and values can be written as they are; the value of the cookie may have blanks at its
ends if a space puts it in quotes. -/
structure Sendable (c : Cookie) : Prop where
  made : Made New c
  name : ∃ n, c.name? = some n ∧ SendableKey n
  value : ∃ v, c.value? = some v ∧ ('"' ∉ v ∧ ';' ∉ v ∧ '\\' ∉ v) ∧ (' ' ∈ v ∨ Text.Trimmed v)
  others : ∀ p ∈ c.attributes, p.1 ≠ nameKey → p.1 ≠ valueKey →
    SendableKey p.1 ∧ ∀ v, p.2 = some v → SendableValue v

theorem SendableKey.isKey {k : Text} (h : SendableKey k) : IsKey k := ⟨h.nonempty, h.trimmed, h.free.1⟩

theorem whole_of_not_mem {s : Text} (hs : ';' ∉ s) (hq : '"' ∉ s) : Whole (· == ';') s :=
  Whole.of_not_mem hq fun c hc => by
    have hne : c ≠ ';' := fun h => hs (h ▸ hc)
    simpa using hne

/-! ## Look-alikes -/

/-- A key that is found as one of the reserved keys is that key. -/
def Exact (k : Text) : Prop :=
  (Text.sameFold k nameKey = true → k = nameKey) ∧ (Text.sameFold k valueKey = true → k = valueKey)

variable {c c' : Cookie}

theorem Step.exact (hs : Step c c') (h : ∀ p ∈ c.attributes, Exact p.1) : ∀ p ∈ c'.attributes, Exact p.1 := by
  have name : Exact nameKey := ⟨fun _ => rfl, fun hv => absurd hv (by decide)⟩
  have value : Exact valueKey := ⟨fun hn => absurd hn (by decide), fun _ => rfl⟩
  have erased : ∀ q, ∀ p ∈ OrderedTable.erase q c.attributes, Exact p.1 :=
    fun q p hp => h p (List.mem_of_mem_eraseP hp)
  cases hs with
  | setName n => exact List.forall_mem_cons.2 ⟨name, erased _⟩
  | setValue v =>
    refine List.forall_mem_append.2 ⟨fun p hp => erased _ p (List.mem_of_mem_take hp), ?_⟩
    exact List.forall_mem_cons.2 ⟨value, fun p hp => erased _ p (List.mem_of_mem_drop hp)⟩
  | @put key v hn hv =>
    have new : Exact key := ⟨fun h => absurd h (by simp [hn]), fun h => absurd h (by simp [hv])⟩
    exact OrderedTable.forall_put (I := fun k _ => Exact k) h new fun p hp _ => h p hp
  | remove key => exact erased (Text.sameFold · key)

theorem New.laid (h : New c) : ∃ name value others, Laid c name value others := by
  cases h with
  | ofNameValue n v => exact ⟨_, _, _, Laid.ofNameValue n v⟩

theorem Made.exact (h : Made New c) : ∀ p ∈ c.attributes, Exact p.1 := by
  refine h.invariant (fun c hc => ?_) fun c c' hc hs => hs.exact hc
  cases hc with
  | ofNameValue n v =>
    have hname : ∀ p ∈ (Cookie.setName {} n).attributes, Exact p.1 := (Step.setName n).exact (by simp)
    exact (Step.setValue v).exact hname

/-- Without look-alikes, the name and the value are what is found as such. -/
theorem Laid.reads {name value : Option (Option Text)} {others : OrderedTable Text (Option Text)}
    (h : Laid c name value others) (hx : ∀ p ∈ c.attributes, Exact p.1) :
    c.name? = name.join ∧ c.value? = value.join := by
  have hmem : ∀ p ∈ others, p ∈ c.attributes := fun p hp => by
    rw [h.attributes_eq]
    exact List.mem_append_right _ hp
  have hn : OrderedTable.get? (Text.sameFold · nameKey) others = none :=
    OrderedTable.get?_eq_none fun p hp => by
      simpa using fun hf => (h.others p hp).1 ((hx p (hmem p hp)).1 hf)
  have hv : OrderedTable.get? (Text.sameFold · valueKey) others = none :=
    OrderedTable.get?_eq_none fun p hp => by
      simpa using fun hf => (h.others p hp).2 ((hx p (hmem p hp)).2 hf)
  have front : ∀ o : Option (Option Text),
      OrderedTable.get? (Text.sameFold · nameKey) (o.map (nameKey, ·)).toList = o ∧
      OrderedTable.get? (Text.sameFold · valueKey) (o.map (valueKey, ·)).toList = o ∧
      OrderedTable.get? (Text.sameFold · nameKey) (o.map (valueKey, ·)).toList = none ∧
      OrderedTable.get? (Text.sameFold · valueKey) (o.map (nameKey, ·)).toList = none := by
    intro o
    cases o with
    | none => exact ⟨rfl, rfl, rfl, rfl⟩
    | some v => exact ⟨rfl, rfl, rfl, rfl⟩
  unfold name? value? get?
  rw [h.attributes_eq, layout]
  simp only [OrderedTable.get?_append, hn, hv, front, Option.or_none, Option.none_or, and_self]

/-- **A cookie that can be sent is laid out as one that was read.** -/
theorem Sendable.readable (h : Sendable c) : ∃ n v others, Readable c (some n) (some v) others := by
  obtain ⟨n, hn, -⟩ := h.name
  obtain ⟨v, hv, -⟩ := h.value
  obtain ⟨name, value, others, hl⟩ := h.made.laid fun _ => New.laid
  obtain ⟨hname, hvalue⟩ := hl.reads h.made.exact
  rw [hn] at hname
  rw [hv] at hvalue
  obtain rfl : name = some (some n) := Option.join_eq_some_iff.1 hname.symm
  obtain rfl : value = some (some v) := Option.join_eq_some_iff.1 hvalue.symm
  refine ⟨n, v, others, hl.attributes_eq, hl.nodup_keys, fun p hp => ?_⟩
  obtain ⟨hpn, hpv⟩ := hl.others p hp
  have hk := (h.others p (by rw [hl.attributes_eq]; simp [layout, hp]) hpn hpv).1
  exact ⟨hk.isKey, fun _ => whole_of_not_mem hk.free.2.1 hk.free.2.2⟩

/-! ## Writing -/

theorem whole_pair {k v : Text} (hk : SendableKey k) (hv : Whole (· == ';') v) :
    Whole (· == ';') (k ++ '=' :: v) :=
  (whole_of_not_mem hk.free.2.1 hk.free.2.2).append
    (Whole.cons (c := '=') (by decide) (by decide) hv)

theorem whole_pairText {n v : Text} (hn : SendableKey n) (hv : '"' ∉ v ∧ ';' ∉ v ∧ '\\' ∉ v) :
    Whole (· == ';') (pairText n v) := by
  obtain ⟨hq, hs, hb⟩ := hv
  unfold pairText
  split
  · have quoted : Whole (· == ';') (Escape.quote v) := Whole.quote (by decide) v
    rw [Escape.quote, Quoted.encode_eq_self hq hb] at quoted
    simpa using whole_pair hn quoted
  · exact whole_pair hn (whole_of_not_mem hs hq)

theorem renderPair?_of_reads {n v : Text} (hn : c.name? = some n) (hv : c.value? = some v) :
    c.renderPair? = some (pairText n v) := by
  unfold renderPair?
  rw [hn, hv]
  rfl

theorem Sendable.faithful (h : Sendable c) : Faithful c where
  name := by
    obtain ⟨n, hn, hk⟩ := h.name
    exact ⟨n, hn, hk.isKey⟩
  value := by
    obtain ⟨v, hv, hfree, hb⟩ := h.value
    rw [hv, Option.getD_some]
    exact hb.imp_right fun ht => ⟨ht, Quoted.inner?_eq_none hfree.1⟩
  pair := by
    obtain ⟨n, hn, hk⟩ := h.name
    obtain ⟨v, hv, hfree, -⟩ := h.value
    intro t ht
    rw [renderPair?_of_reads hn hv, Option.some.injEq] at ht
    rw [← ht]
    exact whole_pairText hk hfree
  attributes := by
    intro k v hm hkn hkv
    obtain ⟨hk, hv⟩ := h.others (k, some v) hm hkn hkv
    have hv := hv v rfl
    exact ⟨⟨hv.trimmed, Quoted.inner?_eq_none hv.free.2⟩, whole_pair hk (whole_of_not_mem hv.free.1 hv.free.2)⟩

/-- **A cookie that can be sent is read out of what a request holds for it.** -/
theorem Sendable.parse_request (h : Sendable c) : ∃ t, c.renderRequest? = some t ∧ parse t = .ok c := by
  obtain ⟨n, v, others, hr⟩ := h.readable
  refine ⟨_, renderRequest?_eq hr, ?_⟩
  rw [parse_of_rereads hr (h.faithful.rereads hr), Option.getD_some, ← hr.attributes_eq]

/-- A response holds for a cookie what a request holds for its name and value. -/
theorem renderResponse?_eq {n v : Text} (hn : c.name? = some n) (hv : c.value? = some v) :
    c.renderResponse? = (ofNameValue n v).renderRequest? := by
  have hpair : (ofNameValue n v).renderPair? = some (pairText n v) := renderPair?_of_reads rfl rfl
  have hnone : (ofNameValue n v).attributes.flatMap renderAttribute = [] := rfl
  rw [renderResponse?, renderRequest?, renderPair?_of_reads hn hv, hpair, hnone, Option.map_some, List.append_nil]

theorem Sendable.ofNameValue {n v : Text} (h : Sendable c) (hn : c.name? = some n) (hv : c.value? = some v) :
    Sendable (ofNameValue n v) where
  made := .start (.ofNameValue n v)
  name := by
    obtain ⟨n', hn', hk⟩ := h.name
    obtain rfl : n = n' := Option.some.inj (hn.symm.trans hn')
    exact ⟨n, rfl, hk⟩
  value := by
    obtain ⟨v', hv', hfree⟩ := h.value
    obtain rfl : v = v' := Option.some.inj (hv.symm.trans hv')
    exact ⟨v, rfl, hfree⟩
  others := by
    intro p hp hpn hpv
    have hp : p ∈ [(nameKey, some n), (valueKey, some v)] := hp
    simp only [List.mem_cons, List.not_mem_nil, or_false] at hp
    rcases hp with rfl | rfl
    · exact absurd rfl hpn
    · exact absurd rfl hpv

/-- **Its name and value are read out of what a response holds for it.** -/
theorem Sendable.parse_response (h : Sendable c) : ∃ t, c.renderResponse? = some t ∧
    parse t = .ok (.ofNameValue (c.name?.getD []) (c.value?.getD [])) := by
  obtain ⟨n, hn, -⟩ := h.name
  obtain ⟨v, hv, -⟩ := h.value
  rw [renderResponse?_eq hn hv, hn, hv]
  exact (h.ofNameValue hn hv).parse_request

/-! ## Adding -/

/-- The cookies that have a name. -/
def named (cs : List Cookie) : List Cookie := cs.filter fun c => c.name?.isSome

theorem named_cons_of_none (hn : c.name? = none) (cs : List Cookie) : named (c :: cs) = named cs :=
  List.filter_cons_of_neg (by simp [hn])

theorem named_cons_of_some {n : Text} (hn : c.name? = some n) (cs : List Cookie) :
    named (c :: cs) = c :: named cs :=
  List.filter_cons_of_pos (by rw [hn]; rfl)

/-- A way of adding cookies to a message: what is written for one is a value of the
field, and one without a name is not written. -/
structure Adds (add : Message → Cookie → Message) (render : Cookie → Option Text) (field : Text) : Prop where
  written : ∀ {m c t}, render c = some t → add m c = { m with headers := m.headers.add field t }
  left : ∀ {m c}, render c = none → add m c = m
  nameless : ∀ {c : Cookie}, c.name? = none → render c = none

variable {add : Message → Cookie → Message} {render : Cookie → Option Text} {field : Text}

theorem Adds.foldl_named (ha : Adds add render field) (m : Message) (cs : List Cookie) :
    cs.foldl add m = (named cs).foldl add m := by
  induction cs generalizing m with
  | nil => rfl
  | cons c cs ih =>
    cases hn : c.name? with
    | none => rw [named_cons_of_none hn, List.foldl_cons, ha.left (ha.nameless hn), ih]
    | some n => rw [named_cons_of_some hn, List.foldl_cons, List.foldl_cons, ih]

theorem Adds.values?_foldl (ha : Adds add render field) (m : Message) (cs : List Cookie) :
    ((cs.foldl add m).headers.values? field).getD [] =
      (m.headers.values? field).getD [] ++ cs.filterMap render := by
  induction cs generalizing m with
  | nil => simp
  | cons c cs ih =>
    rw [List.foldl_cons, ih]
    cases hr : render c with
    | none => rw [ha.left hr, List.filterMap_cons_none hr]
    | some t =>
      have hvalues : (m.headers.add field t).values? field =
          some ((m.headers.values? field).getD [] ++ [t]) := by
        unfold Headers.add
        rw [Headers.values?_modify, if_pos (Text.sameFold_self field)]
      rw [ha.written hr, List.filterMap_cons_some hr, hvalues, Option.getD_some, List.append_assoc,
        List.singleton_append]

theorem Adds.mapM_parse (ha : Adds add render field) {back : Cookie → Cookie} {cs : List Cookie}
    (h : ∀ c ∈ cs, c.name? = none ∨ ∃ t, render c = some t ∧ parse t = .ok (back c)) :
    (cs.filterMap render).mapM parse = .ok ((named cs).map back) := by
  induction cs with
  | nil => rfl
  | cons c cs ih =>
    obtain ⟨hc, hcs⟩ := List.forall_mem_cons.1 h
    cases hn : c.name? with
    | none => rw [List.filterMap_cons_none (ha.nameless hn), named_cons_of_none hn, ih hcs]
    | some n =>
      obtain ⟨t, hr, ht⟩ := hc.resolve_left (by simp [hn])
      rw [List.filterMap_cons_some hr, named_cons_of_some hn, List.mapM_cons, ht, ih hcs]
      rfl

theorem Adds.cookies_foldl (ha : Adds add render field) {back : Cookie → Cookie} {cs : List Cookie}
    (h : ∀ c ∈ cs, c.name? = none ∨ ∃ t, render c = some t ∧ parse t = .ok (back c)) {m : Message}
    (hm : m.headers.values? field = none) :
    (cs.foldl add m).headers.cookies field = .ok ((named cs).map back) := by
  unfold Headers.cookies
  rw [ha.values?_foldl, hm, Option.getD_none, List.nil_append, ha.mapM_parse h]

theorem renderPair?_eq_none (hn : c.name? = none) : c.renderPair? = none := by
  rw [renderPair?, hn, Option.map_none]

theorem adds_request : Adds Request.addCookie renderRequest? Request.Field.cookie.name where
  written h := by rw [Request.addCookie, h]
  left h := by rw [Request.addCookie, h]
  nameless h := by rw [renderRequest?, renderPair?_eq_none h, Option.map_none]

theorem adds_response : Adds Response.addCookie renderResponse? Response.setCookieName where
  written h := by rw [Response.addCookie, h]
  left h := by rw [Response.addCookie, h]
  nameless := renderPair?_eq_none

/-! ## Messages -/

/-- **Cookies come back from a message.** Cookies that can be sent are added one after the
other, and between them others without a name. A request that had no cookies gives back
exactly those with a name, in order, and a response that had none the name and the value
of each. The message is the same as if those without a name had not been added. -/
theorem cookies_of_added (m : Message) {cs : List Cookie} (h : ∀ c ∈ cs, c.name? = none ∨ Sendable c) :
    (m.headers.values? Request.Field.cookie.name = none →
      Request.cookies (cs.foldl Request.addCookie m) = .ok (named cs)) ∧
    (m.headers.values? Response.setCookieName = none →
      Response.cookies (cs.foldl Response.addCookie m) =
        .ok ((named cs).map fun c => ofNameValue (c.name?.getD []) (c.value?.getD []))) ∧
    cs.foldl Request.addCookie m = (named cs).foldl Request.addCookie m ∧
    cs.foldl Response.addCookie m = (named cs).foldl Response.addCookie m := by
  refine ⟨fun hm => ?_, fun hm => ?_, adds_request.foldl_named m cs, adds_response.foldl_named m cs⟩
  · have hback : (cs.foldl Request.addCookie m).headers.cookies Request.Field.cookie.name =
        .ok ((named cs).map id) :=
      adds_request.cookies_foldl (fun c hc => (h c hc).imp_right Sendable.parse_request) hm
    rwa [List.map_id] at hback
  · exact adds_response.cookies_foldl (fun c hc => (h c hc).imp_right Sendable.parse_response) hm

/-- A cookie with a blank at the end of its value and two attributes, of which one has no
value and the other an empty one. -/
def visit : Cookie :=
  ((ofNameValue ['i', 'd'] ['a', ' ']).set ['P', 'a', 't', 'h'] (some [])).set ['S', 'e', 'c', 'u', 'r', 'e'] none

/-- A visit between two cookies without a name. -/
theorem cookies_of_added_visit :
    Request.cookies ([{}, visit, visit.remove nameKey].foldl Request.addCookie {}) = .ok [visit] ∧
    Response.cookies ([{}, visit, visit.remove nameKey].foldl Response.addCookie {}) =
      .ok [ofNameValue ['i', 'd'] ['a', ' ']] := by
  have others : ∀ p ∈ visit.attributes, p.1 ≠ nameKey → p.1 ≠ valueKey →
      SendableKey p.1 ∧ ∀ v, p.2 = some v → SendableValue v := by
    intro p hp hn hv
    have hp : p ∈ [(nameKey, some ['i', 'd']), (valueKey, some ['a', ' ']), (['P', 'a', 't', 'h'], some []),
        (['S', 'e', 'c', 'u', 'r', 'e'], none)] := hp
    simp only [List.mem_cons, List.not_mem_nil, or_false] at hp
    rcases hp with rfl | rfl | rfl | rfl
    · exact absurd rfl hn
    · exact absurd rfl hv
    · refine ⟨⟨by decide, by decide, by decide⟩, ?_⟩
      rintro v ⟨⟩
      exact ⟨by decide, by decide⟩
    · exact ⟨⟨by decide, by decide, by decide⟩, by simp⟩
  have sendable : Sendable visit :=
    { made := .change (.set ['S', 'e', 'c', 'u', 'r', 'e'] none)
        (.change (.set ['P', 'a', 't', 'h'] (some [])) (.start (.ofNameValue ['i', 'd'] ['a', ' '])))
      name := ⟨['i', 'd'], by decide, by decide, by decide, by decide⟩
      value := ⟨['a', ' '], by decide, by decide, by decide⟩
      others := others }
  have all : ∀ c ∈ [({} : Cookie), visit, visit.remove nameKey], c.name? = none ∨ Sendable c := by
    intro c hc
    simp only [List.mem_cons, List.not_mem_nil, or_false] at hc
    rcases hc with rfl | rfl | rfl
    · exact .inl rfl
    · exact .inr sendable
    · exact .inl (by decide)
  exact ⟨(cookies_of_added {} all).1 rfl, (cookies_of_added {} all).2.1 rfl⟩

end MessageHead.Cookie
