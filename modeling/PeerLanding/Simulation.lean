import PeerLanding.Runs

/-! A step relation whose steps are matched by runs of another one. What is seen of a run is the
list of what is seen of its steps, and a step may show nothing. -/

namespace PeerLanding.Runs

variable {σ τ ℓ ℓ' ρ ρ' ω : Type}

/-- What a run of `step'` from `u` does to match a step that shows `shown` and ends in a state with
`Ends`. Its steps all have `good`. -/
def Answered (step' : τ → ℓ' → ρ' → τ → Prop) (good : Transition τ ℓ' ρ' → Prop)
    (seen' : Transition τ ℓ' ρ' → Option ω) (u : τ) (shown : List ω) (Ends : τ → Prop) : Prop :=
  ∃ v u', Run step' u v u' ∧ (∀ e ∈ v, good e) ∧ v.filterMap seen' = shown ∧ Ends u'

section Answered

variable {step' : τ → ℓ' → ρ' → τ → Prop} {good : Transition τ ℓ' ρ' → Prop}
  {seen' : Transition τ ℓ' ρ' → Option ω} {u : τ} {shown more : List ω} {Ends Ends' : τ → Prop}

theorem answered_nil (h : Ends u) : Answered step' good seen' u [] Ends :=
  ⟨[], u, .nil, by simp, rfl, h⟩

theorem answered_step {l : ℓ'} {r : ρ'} {u' : τ} (hs : step' u l r u') (hg : good ⟨u, l, r, u'⟩)
    (h : Ends u') : Answered step' good seen' u (seen' ⟨u, l, r, u'⟩).toList Ends := by
  refine ⟨[⟨u, l, r, u'⟩], u', Run.snoc .nil hs, by simpa using hg, ?_, h⟩
  exact filterMap_concat seen' [] _

theorem Answered.trans (h : Answered step' good seen' u shown Ends)
    (next : ∀ u', Ends u' → Answered step' good seen' u' more Ends') :
    Answered step' good seen' u (shown ++ more) Ends' := by
  obtain ⟨v, u', run, kept, rfl, ends⟩ := h
  obtain ⟨w, u'', run', kept', rfl, ends'⟩ := next u' ends
  refine ⟨v ++ w, u'', run.append run', ?_, List.filterMap_append, ends'⟩
  intro e he
  cases List.mem_append.1 he with
  | inl early => exact kept e early
  | inr late => exact kept' e late

end Answered

/-- Guarded steps from states related by `Rel` are matched, and end in related states. -/
def Simulated (step : σ → ℓ → ρ → σ → Prop) (guard : Transition σ ℓ ρ → Prop)
    (seen : Transition σ ℓ ρ → Option ω) (step' : τ → ℓ' → ρ' → τ → Prop)
    (good : Transition τ ℓ' ρ' → Prop) (seen' : Transition τ ℓ' ρ' → Option ω)
    (Rel : σ → τ → Prop) : Prop :=
  ∀ s l r s' u, Rel s u → step s l r s' → guard ⟨s, l, r, s'⟩ →
    Answered step' good seen' u (seen ⟨s, l, r, s'⟩).toList (Rel s')

/-- So are guarded runs, from end to end. -/
theorem Simulated.run {step : σ → ℓ → ρ → σ → Prop} {guard : Transition σ ℓ ρ → Prop}
    {seen : Transition σ ℓ ρ → Option ω} {step' : τ → ℓ' → ρ' → τ → Prop}
    {good : Transition τ ℓ' ρ' → Prop} {seen' : Transition τ ℓ' ρ' → Option ω}
    {Rel : σ → τ → Prop} {s s' : σ} {t : List (Transition σ ℓ ρ)} {u : τ}
    (sim : Simulated step guard seen step' good seen' Rel) (run : Run step s t s')
    (guarded : ∀ e ∈ t, guard e) (related : Rel s u) :
    Answered step' good seen' u (t.filterMap seen) (Rel s') := by
  refine run.invariant_of_guard
    (fun t s' => Answered step' good seen' u (t.filterMap seen) (Rel s')) guard guarded
    (answered_nil related) ?_
  intro t s l r s' _ ih hs hg
  rw [filterMap_concat]
  exact ih.trans fun u' now => sim s l r s' u' now hs hg

end PeerLanding.Runs
