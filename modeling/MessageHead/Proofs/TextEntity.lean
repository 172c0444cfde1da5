/-
A text sent and received. It is written in a charset, and the request says so in its
content type; the standard providers read the content type back, find it textual by its
name and read the bytes in the charset that it names.

Nothing is lost on the way but what the charset lacks. The content type arrives as it was
set, since the name of a charset is written bare and has no blanks at its ends; and any
name that begins with `text/` and keeps to one line matches the pattern `text/.*`, whatever
its subtype holds.
-/
import MessageHead.Proofs.CharsetCodecs
import MessageHead.Proofs.ContentTypeMessage
import MessageHead.Proofs.PatternMatching
import MessageHead.Proofs.ProviderDispatch

namespace MessageHead

/-! ## Textual names -/

namespace Pattern.Expr

theorem chain_chars {input : Text} {set : RangeSet} {i n : Nat} (hn : i + n = input.length)
    (h : ∀ c ∈ input.drop i, set.contains c = true) :
    Chain ((chars set).Spans input) n i input.length := by
  induction n generalizing i with
  | zero => exact hn
  | succ n ih =>
    have hi : i < input.length := by omega
    rw [List.drop_eq_getElem_cons hi] at h
    have hset := h _ List.mem_cons_self
    exact ⟨i + 1, ⟨⟨_, List.getElem?_eq_getElem hi, hset⟩, rfl⟩,
      ih (by omega) fun c hc => h c (List.mem_cons_of_mem _ hc)⟩

end Pattern.Expr

namespace NamePatterns

open Pattern (Expr)

/-- The characters that do not end a line. -/
def inLine : RangeSet := ⟨[(0, 9), (11, 0x10FFFF)]⟩

/-- What the pattern `text/.*` is read as in its frame. -/
def textPattern : Expr :=
  .seq (.look .textStart) <| .seq (.chars ⟨[(84, 84), (116, 116)]⟩) <| .seq (.chars ⟨[(69, 69), (101, 101)]⟩) <|
    .seq (.chars ⟨[(88, 88), (120, 120)]⟩) <| .seq (.chars ⟨[(84, 84), (116, 116)]⟩) <| .seq (.literal ['/']) <|
      .seq (.times (.chars inLine) 0 none false) (.look .textEnd)

theorem textual_head : textual.exprs.head? = some textPattern := by decide +kernel

theorem inLine_contains {c : Char} (h : c ≠ '\n') : inLine.contains c = true := by
  have hle : c.toNat ≤ 0x10FFFF := Charset.toNat_le_last c
  have hne : c.toNat ≠ 10 := fun he => h (Char.toNat_inj.1 he)
  simp only [RangeSet.contains, inLine, RangeSet.covers, Bool.or_false]
  split
  · omega
  · split <;> simp <;> omega

/-- **A name that begins with `text/` and keeps to one line is textual.** -/
theorem textual_matchesName {subtype : Text} (h : '\n' ∉ subtype) :
    textual.matchesName ("text/".toList ++ subtype) = true := by
  refine List.any_eq_true.2 ⟨textPattern, List.mem_of_mem_head? textual_head, ?_⟩
  generalize hinput : "text/".toList ++ subtype = input
  have hlen : 5 + subtype.length = input.length := by rw [← hinput, List.length_append]; rfl
  have hrest : Pattern.Chain ((Expr.chars inLine).Spans input) subtype.length 5 input.length := by
    refine Expr.chain_chars hlen fun c hc => inLine_contains fun he => h ?_
    rw [← hinput] at hc
    exact he ▸ hc
  have hend : (Expr.look .textEnd).Spans input input.length input.length :=
    ⟨Option.isNone_iff_eq_none.2 (List.getElem?_eq_none (Nat.le_refl _)), rfl⟩
  subst hinput
  exact Expr.matchesIn_iff.2 ⟨0, _, Nat.zero_le _, 0, ⟨rfl, rfl⟩, 1, ⟨⟨'t', rfl, rfl⟩, rfl⟩,
    2, ⟨⟨'e', rfl, rfl⟩, rfl⟩, 3, ⟨⟨'x', rfl, rfl⟩, rfl⟩, 4, ⟨⟨'t', rfl, rfl⟩, rfl⟩, 5, ⟨⟨subtype, rfl⟩, rfl⟩,
    _, ⟨_, Nat.zero_le _, by simp, hrest⟩, hend⟩

end NamePatterns

/-! ## Textual messages -/

/-- The standard providers make a text of a message with a textual content type, in the
charset that it names; no further provider is asked. -/
theorem Providers.create_standard_textual {m : Message} {ct : ContentType} (hct : m.contentType? = some ct)
    (h : NamePatterns.textual.matchesName ct.name = true) (default : Charset) (bytes : Bytes) :
    (standard default).create m (.ofBytes bytes) =
      ⟨.ok (some ⟨some ct, .text ((ct.charsetOr default).decode bytes)⟩), [0]⟩ := by
  have haccepts : (Provider.text .textual default).accepts m = true := by
    show NamePatterns.textual.matchesMessage m = true
    rw [NamePatterns.matchesMessage, hct]
    exact h
  have hsettles : (Provider.text .textual default).Settles m (.ofBytes bytes)
      (.ok ⟨some ct, .text ((ct.charsetOr default).decode bytes)⟩) := by
    refine ⟨haccepts, ?_⟩
    simp only [Provider.text, hct]
    rfl
  exact create_cons_of_settles hsettles _

namespace ContentType

open MediaType (Plain needsQuotes)
open Element (PlainName)

/-- A media type as it is made for a text. -/
def textType (subtype : Text) (cs : Charset) : MediaType :=
  (MediaType.ofParts "text".toList subtype []).withCharset cs

variable {cs : Charset} {subtype : Text}

theorem textType_eq (h : subtype ≠ []) (cs : Charset) :
    textType subtype cs =
      ⟨"text".toList, subtype, [(MediaType.charsetName, cs.name)], "text".toList ++ '/' :: subtype⟩ := by
  rw [textType, MediaType.ofParts, if_neg (by simpa using h)]
  rfl

theorem plain_textType (h : PlainName subtype) (cs : Charset) : Plain (textType subtype cs) := by
  have htext : PlainName "text".toList := ⟨by decide, by decide, by decide⟩
  have hcharset : PlainName MediaType.charsetName := ⟨by decide, by decide, by decide⟩
  have hslash : '/' ∉ "text".toList := by decide
  rw [textType_eq h.nonempty]
  refine ⟨htext, hslash, h, fun p hp => ?_⟩
  rw [List.mem_singleton.1 hp]
  exact hcharset

theorem ofMediaType_textType (h : subtype ≠ []) (hcs : cs.isLegacy = false) :
    ofMediaType (textType subtype cs) = .ok ⟨textType subtype cs, some cs, [⟨MediaType.charsetName, some cs.name⟩]⟩ := by
  have hnamed : (textType subtype cs).charset? = some cs.name := by
    rw [textType_eq h]
    rfl
  rw [ofMediaType, hnamed]
  simp only [Charset.ofName_name hcs, textType_eq h]
  rfl

theorem contentType?_textType {ct : ContentType} (hs : PlainName subtype) (hcs : cs.isLegacy = false)
    (h : ofMediaType (textType subtype cs) = .ok ct) (r : Message) :
    (Request.setContentType r ct).contentType? = some ct := by
  have htrimmed : ∀ p ∈ (textType subtype cs).parameters, needsQuotes p.2 = false → Text.Trimmed p.2 := by
    rw [textType_eq hs.nonempty]
    intro p hp _
    rw [List.mem_singleton.1 hp]
    exact .of_visible fun c hc => (Charset.name_chars hcs c hc).1
  have hbuilt : MediaType.Built (textType subtype cs) := .withCharset cs (.ofParts "text".toList subtype [])
  have hread := parseLenient_ofMediaType ((plain_textType hs cs).elemental hbuilt) htrimmed h
  rw [Message.contentType?, ofHeaders_set hread r]

/-- **A text arrives as it was sent.** Its content type names one of the six charsets and
any subtype that delimits nothing and keeps to one line. Behind a message the standard
providers make an entity with the content type that was set, whatever else the message
holds; its body is the text exactly when the charset has all its characters. -/
theorem text_arrives (hcs : cs.isLegacy = false) (hs : PlainName subtype) (hline : '\n' ∉ subtype)
    (r : Message) (default : Charset) :
    ∃ ct, ofMediaType ((MediaType.ofParts "text".toList subtype []).withCharset cs) = .ok ct ∧
      ct.mediaType = (MediaType.ofParts "text".toList subtype []).withCharset cs ∧ ct.charset = some cs ∧
      ∀ t, (Providers.standard default).create (Request.setContentType r ct) (.ofBytes (cs.encode t)) =
        ⟨.ok (some ⟨some ct, .text t⟩), [0]⟩ ↔ cs.canEncode t = true := by
  have hmade := ofMediaType_textType hs.nonempty hcs
  refine ⟨_, hmade, rfl, rfl, fun t => ?_⟩
  have hname : NamePatterns.textual.matchesName (textType subtype cs).name = true := by
    rw [textType_eq hs.nonempty]
    exact NamePatterns.textual_matchesName hline
  rw [Providers.create_standard_textual (contentType?_textType hs hcs hmade r) hname]
  simp only [Providers.Outcome.mk.injEq, Except.ok.injEq, Option.some.injEq, Entity.mk.injEq, true_and, and_true,
    EntityBody.text.injEq]
  exact Charset.decode_encode_eq_self_iff hcs

/-- Behind a byte order mark a character of two units, in little-endian UTF-16 and with a
subtype that has a slash, an apostrophe and a backslash. ASCII lacks both characters. -/
theorem text_arrives_supplementary :
    PlainName "x/'\\ \t[é".toList ∧ '\n' ∉ "x/'\\ \t[é".toList ∧
      (∃ ct, ofMediaType ((MediaType.ofParts "text".toList "x/'\\ \t[é".toList []).withCharset .utf16LE) = .ok ct ∧
        ct.charset = some .utf16LE ∧
        (Providers.standard .utf8).create
            (Request.setContentType ⟨⟨[("content-type".toList, ["image/png".toList, "a".toList])]⟩, []⟩ ct)
            (.ofBytes [0xFF, 0xFE, 0x3D, 0xD8, 0x00, 0xDE]) =
          ⟨.ok (some ⟨some ct, .text ['\uFEFF', '😀']⟩), [0]⟩) ∧
      ∃ ct, ofMediaType ((MediaType.ofParts "text".toList "plain".toList []).withCharset .usAscii) = .ok ct ∧
        (Providers.standard .utf8).create (Request.setContentType {} ct)
            (.ofBytes (Charset.usAscii.encode ['\uFEFF', '😀'])) ≠
          ⟨.ok (some ⟨some ct, .text ['\uFEFF', '😀']⟩), [0]⟩ := by
  have hs : PlainName "x/'\\ \t[é".toList := ⟨by decide, by decide, by decide⟩
  have hline : '\n' ∉ "x/'\\ \t[é".toList := by decide
  have hplain : PlainName "plain".toList := ⟨by decide, by decide, by decide⟩
  have hwide : Charset.utf16LE.isLegacy = false := rfl
  have hascii : Charset.usAscii.isLegacy = false := rfl
  have hbytes : Charset.utf16LE.encode ['\uFEFF', '😀'] = [0xFF, 0xFE, 0x3D, 0xD8, 0x00, 0xDE] := by decide
  obtain ⟨ct, hmade, -, hcs, harrives⟩ := text_arrives hwide hs hline
    ⟨⟨[("content-type".toList, ["image/png".toList, "a".toList])]⟩, []⟩ .utf8
  obtain ⟨ct', hmade', -, -, harrives'⟩ := text_arrives hascii hplain (by decide) {} .utf8
  refine ⟨hs, hline, ⟨ct, hmade, hcs, ?_⟩, ct', hmade', fun h => absurd ((harrives' _).1 h) (by decide)⟩
  rw [← hbytes]
  exact (harrives _).2 rfl

end ContentType

end MessageHead
