import PeerLanding.Runs

/-! Systems whose steps are about one domain each. `Alike k` relates the states that domain `k`
cannot tell apart: it does not notice the steps of others, and its own steps of one shape start
from and lead to states that are alike. Then `k` sees of a run what it sees of the run that keeps
its steps alone, and neighbouring steps of two domains commute. -/

namespace PeerLanding.Unwinding

open Runs

variable {σ ℓ ρ κ μ : Type}

/-- The conditions on single steps. `Good` states are those reached by steps about known domains. -/
structure Separated (step : σ → ℓ → ρ → σ → Prop) (domain : ℓ → Option κ) (shape : ℓ → μ)
    (Known : κ → Prop) (Good : σ → Prop) (Alike : κ → σ → σ → Prop) : Prop where
  equiv : ∀ k, Equivalence (Alike k)
  domain_shape : ∀ {l l'}, shape l' = shape l → domain l' = domain l
  good : ∀ {s l r s'}, Good s → (∀ k ∈ domain l, Known k) → step s l r s' → Good s'
  spares : ∀ {k s l r s'}, step s l r s' → domain l ≠ some k → Alike k s s'
  enabled : ∀ {k s u l r s'}, Good s → Good u → Alike k s u → domain l = some k →
    step s l r s' → ∃ l' r' u', shape l' = shape l ∧ step u l' r' u'
  same : ∀ {k s u l l' r r' s' u'}, Alike k s u → domain l = some k → shape l' = shape l →
    step s l r s' → step u l' r' u' → r' = r ∧ Alike k s' u'
  stays : ∀ {k s l m r s'}, Good s → Good s' → step s l r s' → domain m = some k →
    domain l ≠ some k → ((∃ r u, step s m r u) ↔ ∃ r u, step s' m r u)

variable {step : σ → ℓ → ρ → σ → Prop} {domain : ℓ → Option κ} {shape : ℓ → μ}
  {Known : κ → Prop} {Good : σ → Prop} {Alike : κ → σ → σ → Prop} {start s s' : σ}
  {t t' : List (Transition σ ℓ ρ)} {k : κ}

theorem Separated.good_of_run (h : Separated step domain shape Known Good Alike)
    (good : Good start) (run : Run step start t s)
    (known : ∀ e ∈ t, ∀ k ∈ domain e.label, Known k) : Good s := by
  refine run.invariant_of_guard (fun _ s => Good s) (fun e => ∀ k ∈ domain e.label, Known k)
    known good ?_
  intro t s l r s' _ good hs about
  exact h.good good about hs

section Own

variable [DecidableEq κ]

def own (domain : ℓ → Option κ) (k : κ) (t : List (Transition σ ℓ ρ)) :
    List (Transition σ ℓ ρ) :=
  t.filter fun e => domain e.label = some k

theorem own_concat_self {e : Transition σ ℓ ρ} (mine : domain e.label = some k) :
    own domain k (t ++ [e]) = own domain k t ++ [e] := by
  simp [own, mine]

theorem own_concat_other {e : Transition σ ℓ ρ} (other : domain e.label ≠ some k) :
    own domain k (t ++ [e]) = own domain k t := by
  simp [own, other]

/-- What a run does in terms of shapes. -/
def shapes (shape : ℓ → μ) (t : List (Transition σ ℓ ρ)) : List μ := t.map fun e => shape e.label

/-- A run of the shapes of the own steps gives the same results and ends alike. -/
theorem Separated.alike_of_shapes (h : Separated step domain shape Known Good Alike)
    (run : Run step start t s) (run' : Run step start t' s')
    (kept : shapes shape t' = shapes shape (own domain k t)) :
    t'.map (·.result) = (own domain k t).map (·.result) ∧ Alike k s s' := by
  induction run generalizing t' s' with
  | nil =>
      obtain rfl : t' = [] := List.map_eq_nil_iff.1 kept
      exact ⟨rfl, run'.of_nil ▸ (h.equiv k).refl start⟩
  | @snoc t s s₁ l r run hs ih =>
      by_cases mine : domain l = some k
      · rw [own_concat_self mine, shapes, shapes, List.map_append] at kept
        obtain ⟨u, last, rfl, before, here⟩ := List.map_eq_append_iff.1 kept
        obtain ⟨e, rfl, same⟩ := List.map_eq_singleton_iff.1 here
        obtain ⟨start', hs', rfl⟩ := run'.of_snoc
        obtain ⟨results, alike⟩ := ih start' before
        obtain ⟨result, alike⟩ := h.same alike mine same hs hs'
        rw [own_concat_self mine, List.map_append, List.map_append, results]
        simp [result, alike]
      · rw [own_concat_other mine] at kept ⊢
        obtain ⟨results, alike⟩ := ih run' kept
        exact ⟨results, (h.equiv k).trans ((h.equiv k).symm (h.spares hs mine)) alike⟩

theorem Separated.exists_kept (h : Separated step domain shape Known Good Alike)
    (good : Good start) (run : Run step start t s)
    (known : ∀ e ∈ t, ∀ k ∈ domain e.label, Known k) :
    ∃ t' s', Run step start t' s' ∧ shapes shape t' = shapes shape (own domain k t) ∧
      (∀ e ∈ t', domain e.label = some k) := by
  induction run with
  | nil => exact ⟨[], start, .nil, rfl, fun _ he => by cases he⟩
  | @snoc t s s₁ l r run hs ih =>
      have before : ∀ e ∈ t, ∀ k ∈ domain e.label, Known k := fun e he =>
        known e (List.mem_append_left _ he)
      have about : ∀ k ∈ domain l, Known k :=
        known _ (List.mem_append_right t (List.mem_singleton_self _))
      obtain ⟨t', s', run', kept, mine'⟩ := ih before
      by_cases mine : domain l = some k
      · have known' : ∀ e ∈ t', ∀ k ∈ domain e.label, Known k := by
          intro e he other same
          rw [mine' e he] at same
          exact about other (mine.trans same)
        have alike := (h.alike_of_shapes run run' kept).2
        obtain ⟨l', r', s₁', same, hs'⟩ := h.enabled (h.good_of_run good run before)
          (h.good_of_run good run' known') alike mine hs
        refine ⟨_, s₁', .snoc run' hs', ?_, ?_⟩
        · rw [own_concat_self mine, shapes, shapes, List.map_append, List.map_append]
          exact congrArg₂ (· ++ ·) kept (congrArg (fun x => [x]) same)
        · intro e he
          rw [List.mem_append, List.mem_singleton] at he
          cases he with
          | inl old => exact mine' e old
          | inr new => exact new ▸ (h.domain_shape same).trans mine
      · rw [own_concat_other mine]
        exact ⟨t', s', run', kept, mine'⟩

end Own

/-- Neighbouring steps of two domains can be taken in the other order, with the same results, and
no domain notices. -/
theorem Separated.commute (h : Separated step domain shape Known Good Alike) {l₁ l₂ : ℓ}
    {r₁ r₂ : ρ} {m : σ} {a b : κ} (good : Good s) (about₁ : domain l₁ = some a)
    (about₂ : domain l₂ = some b) (apart : a ≠ b) (known₁ : Known a) (known₂ : Known b)
    (first : step s l₁ r₁ m) (second : step m l₂ r₂ s') :
    ∃ m' z, step s l₂ r₂ m' ∧ step m' l₁ r₁ z ∧ ∀ k, Alike k s' z := by
  have other₁ : domain l₁ ≠ some b := by
    rw [about₁]
    exact fun same => apart (Option.some.inj same)
  have other₂ : domain l₂ ≠ some a := by
    rw [about₂]
    exact fun same => apart (Option.some.inj same).symm
  have good_m : Good m := by
    refine h.good good ?_ first
    intro k about
    exact Option.some.inj (about₁.symm.trans about) ▸ known₁
  obtain ⟨r₂', m', second'⟩ := (h.stays good good_m first about₂ other₁).2 ⟨r₂, s', second⟩
  have good_m' : Good m' := by
    refine h.good good ?_ second'
    intro k about
    exact Option.some.inj (about₂.symm.trans about) ▸ known₂
  obtain ⟨r₁', z, first'⟩ := (h.stays good good_m' second' about₁ other₂).1 ⟨r₁, m, first⟩
  have unseen₁ := h.spares first other₁
  have unseen₂ := h.spares second' other₂
  obtain ⟨rfl, alike_b⟩ := h.same ((h.equiv b).symm unseen₁) about₂ rfl second second'
  obtain ⟨rfl, alike_a⟩ := h.same unseen₂ about₁ rfl first first'
  refine ⟨m', z, second', first', ?_⟩
  intro k
  by_cases is_b : domain l₂ = some k
  · obtain rfl : b = k := Option.some.inj (about₂.symm.trans is_b)
    exact (h.equiv b).trans alike_b (h.spares first' other₁)
  · have before := (h.equiv k).symm (h.spares second is_b)
    by_cases is_a : domain l₁ = some k
    · obtain rfl : a = k := Option.some.inj (about₁.symm.trans is_a)
      exact (h.equiv a).trans before alike_a
    · have back := (h.equiv k).symm (h.spares first is_a)
      have forth := (h.equiv k).trans (h.spares second' is_b) (h.spares first' is_a)
      exact (h.equiv k).trans before ((h.equiv k).trans back forth)

theorem Separated.commute_of_run (h : Separated step domain shape Known Good Alike)
    (good : Good start) (run : Run step start t s)
    (known : ∀ e ∈ t, ∀ k ∈ domain e.label, Known k) {u : List (Transition σ ℓ ρ)}
    {e e' : Transition σ ℓ ρ} (next : u ++ [e, e'] <+: t) {a b : κ}
    (about : domain e.label = some a) (about' : domain e'.label = some b) (apart : a ≠ b) :
    ∃ m z, step e.pre e'.label e'.result m ∧ step m e.label e.result z ∧
      ∀ k, Alike k e'.post z := by
  have split : u ++ [e, e'] = u ++ [e] ++ [e'] := (List.append_assoc u [e] [e']).symm
  obtain ⟨both, second⟩ := run.of_concat (split ▸ next)
  obtain ⟨before, first, joined⟩ := both.of_snoc
  have member : ∀ x ∈ u ++ [e, e'], x ∈ t := fun x hx => next.subset hx
  have good' : Good e.pre := h.good_of_run good before fun x hx => known x (member x (by simp [hx]))
  rw [joined] at second
  exact h.commute good' about about' apart (known e (member e (by simp)) a about)
    (known e' (member e' (by simp)) b about') first second

end PeerLanding.Unwinding
