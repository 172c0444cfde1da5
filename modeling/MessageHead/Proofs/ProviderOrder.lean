/-
Providers that never compete.

Where no two providers accept a message, at most one is asked, so what becomes of the message
does not depend on their order (`create_perm`). The standard providers never accept the same
message: both read its content type in the same way, and no name is matched by the patterns of
texts and by those of bytes.
-/
import MessageHead.Proofs.PatternEdges
import MessageHead.Proofs.ProviderDispatch

namespace MessageHead

/-- The providers do not both accept the message. -/
def Provider.Apart (m : Message) (p q : Provider) : Prop := ¬(p.accepts m = true ∧ q.accepts m = true)

namespace Providers

variable {p q : Provider} {ps qs : Providers} {m : Message} {r : Resource}

theorem result_cons_congr (p : Provider) (h : (create ps m r).result = (create qs m r).result) :
    (create (p :: ps) m r).result = (create (p :: qs) m r).result := by
  rcases passes_or_settles p m r with hp | ⟨x, hx⟩
  · rw [create_cons_of_passes hp, create_cons_of_passes hp]
    exact h
  · rw [create_cons_of_settles hx, create_cons_of_settles hx]

theorem result_cons_of_not_accepts (h : p.accepts m = false) (ps : Providers) :
    (create (p :: ps) m r).result = (create ps m r).result := by
  rw [create_cons_of_passes (.inl h)]

/-- Neighbours one of which does not accept the message can change places. -/
theorem result_swap (h : p.Apart m q) (ps : Providers) :
    (create (p :: q :: ps) m r).result = (create (q :: p :: ps) m r).result := by
  cases hp : p.accepts m with
  | false =>
    rw [result_cons_of_not_accepts hp]
    exact result_cons_congr q (result_cons_of_not_accepts hp ps).symm
  | true =>
    have hq : q.accepts m = false := by
      cases hq : q.accepts m with
      | false => rfl
      | true => exact absurd ⟨hp, hq⟩ h
    rw [result_cons_of_not_accepts hq]
    exact result_cons_congr p (result_cons_of_not_accepts hq ps)

/-- **Providers no two of which accept a message can be asked in any order.** -/
theorem create_perm (h : ps.Perm qs) (hapart : ps.Pairwise (Provider.Apart m)) :
    (create ps m r).result = (create qs m r).result := by
  induction h with
  | nil => rfl
  | cons p _ ih => exact result_cons_congr p (ih hapart.of_cons)
  | swap p q ps =>
    have hqp := (List.pairwise_cons.1 hapart).1 p List.mem_cons_self
    exact result_swap hqp ps
  | trans hpq _ ih ih' =>
    have hsymm : ∀ {a b : Provider}, a.Apart m b → b.Apart m a := fun h hba => h hba.symm
    exact (ih hapart).trans (ih' ((hpq.pairwise_iff hsymm).1 hapart))

theorem accept_perm (h : ps.Perm qs) : accept ps m = accept qs m := by
  rw [Bool.eq_iff_iff]
  simp only [accept, List.any_eq_true, h.mem_iff]

end Providers

/-! ## The standard providers -/

theorem Provider.apart_of_patterns {ps qs : NamePatterns} (h : ps.apart qs = true) (default : Charset) (m : Message) :
    (Provider.text ps default).Apart m (.bytes qs) := by
  show ¬(ps.matchesMessage m = true ∧ qs.matchesMessage m = true)
  unfold NamePatterns.matchesMessage
  cases m.contentType? with
  | none => simp
  | some ct => exact NamePatterns.not_both_of_apart h ct.name

/-- **The standard providers never compete.** No name is matched by the patterns of texts and by
those of bytes. So a provider of bytes and then one of texts make of every message what the
standard providers make of it, and accept the same messages. -/
theorem Providers.standard_swap :
    (∀ name, ¬(NamePatterns.textual.matchesName name = true ∧ NamePatterns.binary.matchesName name = true)) ∧
    ∀ default m r,
      (create [.bytes .binary, .text .textual default] m r).result = (create (standard default) m r).result ∧
      accept [.bytes .binary, .text .textual default] m = accept (standard default) m := by
  refine ⟨NamePatterns.not_both_of_apart NamePatterns.textual_apart_binary, fun default m r => ?_⟩
  have hperm : (standard default).Perm [.bytes .binary, .text .textual default] := .swap _ _ _
  have hapart : (standard default).Pairwise (Provider.Apart m) := by
    rw [standard, List.pairwise_pair]
    exact Provider.apart_of_patterns NamePatterns.textual_apart_binary default m
  exact ⟨(create_perm hperm hapart).symm, (accept_perm hperm).symm⟩

/-- All patterns are well formed, so none is left out. -/
example : NamePatterns.textual.exprs.length = 5 ∧ NamePatterns.binary.exprs.length = 5 := by decide +kernel

end MessageHead
