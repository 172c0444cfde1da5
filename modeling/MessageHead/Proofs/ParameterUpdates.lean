/-
Setting the parameters of a media type.

A parameter is set in place or appended, under a name that is compared without its case. The
first parameter of a name is the one that is set and the one that is found, so the laws of
setting hold of any list. That no name comes twice (`Built.distinct`) is what makes two
settings of different names come to equal media types in either order: equality then asks
for the answers alone (`equal_iff_alike`), and these do not tell the order. Type, subtype and
the name that was put together of them are copied by a setting.
-/
import MessageHead.Proofs.CharsetCodecs
import MessageHead.Proofs.MediaTypeEquality

namespace MessageHead.MediaType

variable {m m' : MediaType} {name other value : Text}

/-! ## Made of parts -/

theorem Built.subtype_ne_nil (h : Built m) : m.subtype ≠ [] := by
  induction h with
  | ofParts main sub ps => exact orWildcard_ne_nil sub
  | parse h => exact (readable_of_parse h).name.sub_ne
  | withParameter name value _ ih => exact ih
  | withCharset c _ ih => exact ih
  | bare => exact orWildcard_ne_nil _

/-- What every media type has, however it was made. -/
structure Formed (m : MediaType) : Prop where
  distinct : OrderedTable.Distinct Text.lower m.parameters
  subtype_ne : m.subtype ≠ []
  name_eq : m.name = m.mainType ++ '/' :: m.subtype

theorem Built.formed (h : Built m) : Formed m := ⟨h.distinct, h.subtype_ne_nil, h.name_eq⟩

/-! ## One parameter set -/

/-- The second media type is the first one with a parameter set: it has that value, and no
other answer has changed. The names are those of before in their order and as they were
written, with the new one at the end if there was none that is the same. -/
structure Updated (m : MediaType) (name value : Text) (m' : MediaType) : Prop where
  set : m'.parameter? name = some value
  others : ∀ other, Text.sameFold name other = false → m'.parameter? other = m.parameter? other
  mainType : m'.mainType = m.mainType
  subtype : m'.subtype = m.subtype
  name_eq : m'.name = m.name
  names : m'.parameters.map Prod.fst =
    m.parameters.map Prod.fst ++ if (m.parameter? name).isSome then [] else [name]

theorem parameter?_withParameter (m : MediaType) (name value other : Text) :
    (m.withParameter name value).parameter? other =
      if Text.sameFold name other then some value else m.parameter? other :=
  OrderedTable.get?_put Text.lower name value m.parameters other.lower

theorem names_withParameter (m : MediaType) (name value : Text) :
    (m.withParameter name value).parameters.map Prod.fst =
      m.parameters.map Prod.fst ++ if (m.parameter? name).isSome then [] else [name] := by
  have hkeys := OrderedTable.keys_upsert (Text.sameFold · name) name value (fun _ => value) m.parameters
  rwa [OrderedTable.has_eq_isSome] at hkeys

theorem updated_withParameter (m : MediaType) (name value : Text) :
    Updated m name value (m.withParameter name value) where
  set := by rw [parameter?_withParameter, if_pos (Text.sameFold_self name)]
  others other hne := by rw [parameter?_withParameter, hne, if_neg Bool.false_ne_true]
  mainType := rfl
  subtype := rfl
  name_eq := rfl
  names := names_withParameter m name value

/-! ## Two parameters set -/

theorem alike_withParameter (m : MediaType) (hne : Text.sameFold name other = false) (v w : Text) :
    Alike ((m.withParameter name v).withParameter other w) ((m.withParameter other w).withParameter name v) where
  mainType := Text.sameFold_self _
  subtype := Text.sameFold_self _
  parameter n := by
    simp only [parameter?_withParameter]
    by_cases hn : Text.sameFold name n = true
    · have hon : Text.sameFold other n = false := by
        rw [Text.sameFold_comm, ← Text.sameFold_congr hn]
        exact hne
      rw [if_pos hn, if_neg (by simp [hon]), if_pos hn]
    · rw [if_neg hn, if_neg hn]

/-! ## The charset -/

theorem ofMediaType_withCharset (m : MediaType) {c : Charset} (hc : c.isLegacy = false) :
    ∃ ct, ContentType.ofMediaType (m.withCharset c) = .ok ct ∧ ct.mediaType = m.withCharset c ∧
      ct.charset = some c := by
  have hnamed : (m.withCharset c).charset? = some c.name := (updated_withParameter m charsetName c.name).set
  unfold ContentType.ofMediaType
  simp only [hnamed, Charset.ofName_name hc]
  exact ⟨_, rfl, rfl, rfl⟩

/-- **What setting parameters does to a media type**, however the media type was made. Its
parameter names are distinct and its subtype is there; a parameter that is set has its value
and leaves all else as it was; two that are set under different names may be set in either
order; and a content type is made of it with any charset of the six defined here, whatever
charset it named before. -/
theorem parameters_set (hm : Built m) :
    Formed m ∧
      (∀ name value, Updated m name value (m.withParameter name value)) ∧
      (∀ name other v w, Text.sameFold name other = false →
        ((m.withParameter name v).withParameter other w).equal
          ((m.withParameter other w).withParameter name v) = true) ∧
      ∀ c : Charset, c.isLegacy = false →
        ∃ ct, ContentType.ofMediaType (m.withCharset c) = .ok ct ∧ ct.mediaType = m.withCharset c ∧
          ct.charset = some c := by
  refine ⟨hm.formed, updated_withParameter m, fun name other v w hne => ?_, fun c => ofMediaType_withCharset m⟩
  have hfirst : Built ((m.withParameter name v).withParameter other w) :=
    .withParameter other w (.withParameter name v hm)
  have hsecond : Built ((m.withParameter other w).withParameter name v) :=
    .withParameter name v (.withParameter other w hm)
  exact (equal_iff_alike hfirst hsecond).2 (alike_withParameter m hne v w)

/-- A media type that was read and names no charset there is. Its parameters are set in other
letters than they were written in. -/
theorem parameters_set_unknown_charset :
    ∃ m, parse "text/plain; Charset=x; a=1".toList = .ok m ∧ Built m ∧
      ContentType.ofMediaType m = .error ⟨['x']⟩ ∧
      (∃ ct, ContentType.ofMediaType (m.withCharset .utf16LE) = .ok ct ∧ ct.mediaType = m.withCharset .utf16LE ∧
        ct.charset = some .utf16LE) ∧
      (m.withCharset .utf16LE).parameters = [("Charset".toList, "UTF-16LE".toList), (['a'], ['1'])] ∧
      Text.sameFold ['A'] ['b'] = false ∧
      ((m.withParameter ['A'] ['2']).withParameter ['b'] []).parameters =
        [("Charset".toList, ['x']), (['a'], ['2']), (['b'], [])] ∧
      ((m.withParameter ['A'] ['2']).withParameter ['b'] []).equal
        ((m.withParameter ['b'] []).withParameter ['A'] ['2']) = true := by
  have hread : parse "text/plain; Charset=x; a=1".toList =
      .ok ⟨"text".toList, "plain".toList, [("Charset".toList, ['x']), (['a'], ['1'])], "text/plain".toList⟩ := by
    decide +kernel
  have hne : Text.sameFold ['A'] ['b'] = false := by decide
  obtain ⟨-, -, hcommute, hcharset⟩ := parameters_set (.parse hread)
  exact ⟨_, hread, .parse hread, by decide +kernel, hcharset .utf16LE rfl, by decide, hne, by decide,
    hcommute ['A'] ['b'] ['2'] [] hne⟩

end MessageHead.MediaType
