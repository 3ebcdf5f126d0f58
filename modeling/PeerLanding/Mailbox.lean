import Mathlib.Algebra.BigOperators.Group.List.Basic
import Mathlib.Algebra.GroupWithZero.Nat
import Mathlib.Data.List.Perm.Basic

/-! Processes with mailboxes. `receive` takes the first message that a pattern matches and
leaves the messages before it; messages in flight are a list from which any one may be
delivered next, so what is counted over them only depends on the list up to order. -/

namespace PeerLanding.Mailbox

variable {μ α : Type}

/-- `receive`: `f` gives what happens to a matched message, `none` where none matches. -/
def receive (f : μ → Option α) : List μ → Option (α × List μ)
  | [] => none
  | m :: ms =>
      match f m with
      | some a => some (a, ms)
      | none => (receive f ms).map fun p => (p.1, m :: p.2)

section Receive

variable {f : μ → Option α} {ms rest : List μ} {a : α}

theorem receive_eq_some (h : receive f ms = some (a, rest)) :
    ∃ before m after, ms = before ++ m :: after ∧ rest = before ++ after ∧
      f m = some a ∧ ∀ b ∈ before, f b = none := by
  induction ms generalizing rest with
  | nil => cases h
  | cons m ms ih =>
      simp only [receive] at h
      cases hm : f m with
      | some b =>
          simp only [hm, Option.some.injEq, Prod.mk.injEq] at h
          exact ⟨[], m, ms, rfl, h.2.symm, by rw [hm, h.1], fun b hb => by cases hb⟩
      | none =>
          simp only [hm, Option.map_eq_some_iff, Prod.mk.injEq] at h
          obtain ⟨⟨b, rest'⟩, later, rfl, rfl⟩ := h
          obtain ⟨before, m', after, rfl, rfl, taken, skipped⟩ := ih later
          refine ⟨m :: before, m', after, rfl, rfl, taken, ?_⟩
          intro b hb
          cases List.mem_cons.1 hb with
          | inl new => exact new ▸ hm
          | inr old => exact skipped b old

end Receive

section InFlight

variable {xs : List μ} {x : μ} {i : Nat}

theorem perm_eraseIdx (h : xs[i]? = some x) : xs.Perm (x :: xs.eraseIdx i) := by
  obtain ⟨inside, rfl⟩ := List.getElem?_eq_some_iff.1 h
  exact (List.getElem_cons_eraseIdx_perm inside).symm

theorem perm_set (h : xs[i]? = some x) (y : μ) : (xs.set i y).Perm (y :: xs.eraseIdx i) :=
  List.set_perm_cons_eraseIdx (List.getElem?_eq_some_iff.1 h).1 y

theorem countP_eraseIdx (h : xs[i]? = some x) (p : μ → Bool) :
    (xs.eraseIdx i).countP p + (if p x = true then 1 else 0) = xs.countP p := by
  rw [(perm_eraseIdx h).countP_eq p, List.countP_cons]

theorem le_sum (h : xs[i]? = some x) (w : μ → Nat) : w x ≤ (xs.map w).sum := by
  rw [((perm_eraseIdx h).map w).sum_eq, List.map_cons, List.sum_cons]
  exact Nat.le_add_right _ _

theorem sum_set (h : xs[i]? = some x) (w : μ → Nat) (y : μ) :
    ((xs.set i y).map w).sum + w x = (xs.map w).sum + w y := by
  rw [((perm_set h y).map w).sum_eq, ((perm_eraseIdx h).map w).sum_eq, List.map_cons,
    List.map_cons, List.sum_cons, List.sum_cons]
  omega

end InFlight

end PeerLanding.Mailbox
