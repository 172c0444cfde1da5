/-
Extended file names in any charset. The reader resolves every charset there is,
and then builds the disposition that it has read, as a writer does. A disposition
holds its header value, and a file name is written in three charsets only
(`Writable`), so what was read in another one is refused after all
(`parse_extended`), whatever plain file name stands beside it.
-/
import MessageHead.Proofs.DispositionRoundTrip

namespace MessageHead

theorem ExtendedValue.label_of_read {x f : Text} {cs : Charset} (h : read x = .ok (cs, f)) :
    ∃ label rest, Text.cut '\'' x = some (label, rest) ∧ Charset.ofName label = .ok cs := by
  unfold read at h
  split at h
  · cases h
  · rename_i label lang text hf
    simp only [fields?, Option.bind_eq_bind, Option.bind_eq_some_iff, Prod.exists, Option.pure_def,
      Option.some.injEq, Prod.mk.injEq] at hf
    obtain ⟨label', rest, hcut, _, _, _, rfl, -, -⟩ := hf
    split at h
    · cases h
    · split at h
      · cases h
      · rename_i hn
        cases h
        exact ⟨label', rest, hcut, hn⟩

namespace Disposition

variable {s x f : Text} {cs : Charset} {e : Element} {es : List Element}

/-! ## What is written -/

/-- A charset that a file name is written in: US-ASCII, which needs no extended value, or one
that has extended values. -/
def Writable (cs : Charset) : Prop := cs = .usAscii ∨ Charset.Extended cs

theorem renderFilename_writable (h : Writable cs) (f : Text) : ∃ filed, renderFilename f (some cs) = .ok filed := by
  rcases h with rfl | rfl | rfl <;> exact ⟨_, rfl⟩

theorem renderFilename_of_not_writable (h : ¬Writable cs) (f : Text) :
    renderFilename f (some cs) = .error (.unsupportedCharset cs.name) := by
  unfold Writable Charset.Extended at h
  cases cs with
  | usAscii | iso8859_1 | utf8 => simp at h
  | utf16 | utf16BE | utf16LE | legacy l => rfl

/-! ## What is read -/

theorem parse_of_read (hp : Element.parse s = .ok (e :: es)) (hk : Text.trim e.name ≠ [])
    (hx : (e.parameter? "filename*".toList).bind Parameter.value = some x)
    (hr : ExtendedValue.read x = .ok (cs, f)) :
    parse s = ((renderFilename f (some cs)).map fun filed =>
      (⟨e.name, (e.parameter? "name".toList).bind Parameter.value, some f, some cs,
        e.name ++ nameText ((e.parameter? "name".toList).bind Parameter.value) ++ filed⟩ : Disposition)).mapError
        .precondition := by
  have hf : readFilename e = .ok (some f, some cs) := readFilename_eq_iff.2 ⟨x, hx, hr⟩
  rw [← build_filename hk]
  unfold parse
  simp only [hp, hf]

/-- **A readable extended file name is accepted exactly in a charset that file names are
written in.** In any other charset the header is refused as something that cannot be
written. -/
theorem parse_extended (hp : Element.parse s = .ok (e :: es)) (hk : Text.trim e.name ≠ [])
    (hx : (e.parameter? "filename*".toList).bind Parameter.value = some x)
    (hf : ExtendedValue.decode x = .ok f) :
    ∃ label rest cs, Text.cut '\'' x = some (label, rest) ∧ Charset.ofName label = .ok cs ∧
      ((∃ d, parse s = .ok d ∧ d.filename = some f ∧ d.kind = e.name) ↔ Writable cs) ∧
      (¬Writable cs → parse s = .error (.precondition (.unsupportedCharset cs.name))) := by
  obtain ⟨⟨cs, f'⟩, hr, rfl⟩ := Element.map_eq_ok.1 hf
  obtain ⟨label, rest, hcut, hn⟩ := ExtendedValue.label_of_read hr
  have hread := parse_of_read hp hk hx hr
  have refused : ¬Writable cs → parse s = .error (.precondition (.unsupportedCharset cs.name)) := by
    intro hw
    rw [hread, renderFilename_of_not_writable hw]
    rfl
  refine ⟨label, rest, cs, hcut, hn, ?_, refused⟩
  constructor
  · rintro ⟨d, hd, -⟩
    by_cases hw : Writable cs
    · exact hw
    · rw [refused hw] at hd
      cases hd
  · intro hw
    obtain ⟨filed, hfiled⟩ := renderFilename_writable hw f'
    rw [hfiled] at hread
    exact ⟨_, hread, rfl, rfl⟩

/-- A plain file name that no decoder takes, and an extended one with a language. -/
def twoNames : Element :=
  ⟨['a'], none, [⟨"filename".toList, some "=?x?B?y?=".toList⟩, ⟨"FileName*".toList, some "latin1'en'%A3%20r".toList⟩]⟩

/-- The extended file name is accepted, whatever the plain one is. -/
theorem parse_extended_latin :
    Element.parse "a;filename=\"=?x?B?y?=\";FileName*=\"latin1'en'%A3%20r\"".toList = .ok [twoNames] ∧
      EncodedWord.decode "=?x?B?y?=".toList = .error (.parse (.invalidEncodedValue "=?x?B?y?=".toList)) ∧
      ExtendedValue.decode "latin1'en'%A3%20r".toList = .ok "£ r".toList ∧
      ∃ d, parse "a;filename=\"=?x?B?y?=\";FileName*=\"latin1'en'%A3%20r\"".toList = .ok d ∧
        d.filename = some "£ r".toList ∧ d.kind = ['a'] := by
  have hplain : Element.Plain twoNames := by
    refine ⟨⟨by decide, by decide, by decide⟩, fun p hm => ?_⟩
    simp only [twoNames, List.mem_cons, List.not_mem_nil, or_false] at hm
    rcases hm with rfl | rfl <;> exact ⟨by decide, by decide, by decide⟩
  have hp : Element.parse "a;filename=\"=?x?B?y?=\";FileName*=\"latin1'en'%A3%20r\"".toList = .ok [twoNames] :=
    Element.parse_written_one hplain (Element.written_renderAll (by simp))
  have hx : (twoNames.parameter? "filename*".toList).bind Parameter.value = some "latin1'en'%A3%20r".toList := by
    decide
  have hf : ExtendedValue.decode "latin1'en'%A3%20r".toList = .ok "£ r".toList := by rfl
  obtain ⟨label, rest, cs, hcut, hn, hiff, -⟩ := parse_extended hp (by decide) hx hf
  have hlabel : Text.cut '\'' "latin1'en'%A3%20r".toList = some ("latin1".toList, "en'%A3%20r".toList) := by rfl
  have hlatin : Charset.ofName "latin1".toList = .ok .iso8859_1 := by rfl
  cases hlabel.symm.trans hcut
  cases hlatin.symm.trans hn
  exact ⟨hp, by rfl, hf, hiff.2 (.inr (.inr rfl))⟩

/-- A file name that is read in a charset of the common table is refused. -/
theorem parse_extended_legacy :
    ExtendedValue.decode "windows-1252''a".toList = .ok ['a'] ∧
      Element.parse "attachment; filename*=windows-1252''a".toList =
        .ok [⟨"attachment".toList, none, [⟨"filename*".toList, some "windows-1252''a".toList⟩]⟩] ∧
      parse "attachment; filename*=windows-1252''a".toList =
        .error (.precondition (.unsupportedCharset "windows-1252".toList)) := by
  have hr : ExtendedValue.read "windows-1252''a".toList =
      .ok (.legacy (.singleByte .windows1252), ['a']) := by rfl
  have hwritten : Element.Written
      [⟨"attachment".toList, none, [⟨"filename*".toList, some "windows-1252''a".toList⟩]⟩]
      "attachment; filename*=windows-1252''a".toList := by
    refine .one (.more (.name (a := []) (b := []) .nil .nil) (.one ?_))
    exact .value (a := [' ']) (b := []) (by decide) .nil
      (.bare (a := []) (b := []) ⟨by decide, by decide⟩ .nil .nil)
  have hplain : Element.Plain
      ⟨"attachment".toList, none, [⟨"filename*".toList, some "windows-1252''a".toList⟩]⟩ := by
    refine ⟨⟨by decide, by decide, by decide⟩, fun p hm => ?_⟩
    rw [List.mem_singleton.1 hm]
    exact ⟨by decide, by decide, by decide⟩
  have hp := Element.parse_written_one hplain hwritten
  refine ⟨by rw [ExtendedValue.decode, hr]; rfl, hp, ?_⟩
  rw [parse_of_read hp (by decide) (by decide) hr]
  rfl

end Disposition

end MessageHead
