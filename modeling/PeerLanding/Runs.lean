import Mathlib.Data.List.Basic

/-! Finite runs of a labelled step relation. A run records every step with the
states around it, so that what a run has done so far (answers counted, objects
created) is a function of the recorded list and never a field of the state. -/

namespace PeerLanding.Runs

variable {σ τ ℓ ρ : Type}

structure Transition (σ ℓ ρ : Type) where
  pre : σ
  label : ℓ
  result : ρ
  post : σ

def Transition.map (f : σ → τ) (e : Transition σ ℓ ρ) : Transition τ ℓ ρ :=
  ⟨f e.pre, e.label, e.result, f e.post⟩

@[simp] theorem Transition.map_label (f : σ → τ) (e : Transition σ ℓ ρ) :
    (e.map f).label = e.label := rfl

/-- The runs from `start`, with the newest step last. -/
inductive Run (step : σ → ℓ → ρ → σ → Prop) (start : σ) :
    List (Transition σ ℓ ρ) → σ → Prop
  | nil : Run step start [] start
  | snoc {t : List (Transition σ ℓ ρ)} {s s' : σ} {l : ℓ} {r : ρ} :
      Run step start t s → step s l r s' → Run step start (t ++ [⟨s, l, r, s'⟩]) s'

variable {step : σ → ℓ → ρ → σ → Prop} {start s : σ} {t : List (Transition σ ℓ ρ)}

/-- What holds at the start and survives every step holds at the end of every run. -/
theorem Run.invariant (Inv : List (Transition σ ℓ ρ) → σ → Prop)
    (h : Run step start t s) (zero : Inv [] start)
    (succ : ∀ t s l r s', Run step start t s → Inv t s → step s l r s' →
      Inv (t ++ [⟨s, l, r, s'⟩]) s') : Inv t s := by
  induction h with
  | nil => exact zero
  | snoc run hs ih => exact succ _ _ _ _ _ run ih hs

theorem Run.invariant_of_guard (Inv : List (Transition σ ℓ ρ) → σ → Prop)
    (guard : Transition σ ℓ ρ → Prop)
    (h : Run step start t s) (hg : ∀ e ∈ t, guard e) (zero : Inv [] start)
    (succ : ∀ t s l r s', Run step start t s → Inv t s → step s l r s' →
      guard ⟨s, l, r, s'⟩ → Inv (t ++ [⟨s, l, r, s'⟩]) s') : Inv t s := by
  induction h with
  | nil => exact zero
  | snoc run hs ih =>
      refine succ _ _ _ _ _ run (ih fun e he => hg e ?_) hs (hg _ ?_)
      · exact List.mem_append_left _ he
      · exact List.mem_append_right _ (List.mem_singleton_self _)

/-- A property that every guarded step keeps exactly when `ok` holds of the step is true in
every state of a guarded run exactly when `ok` holds of all its steps. -/
theorem Run.always_iff (P : σ → Prop) (guard ok : Transition σ ℓ ρ → Prop)
    (h : Run step start t s) (hg : ∀ e ∈ t, guard e) (zero : P start)
    (succ : ∀ t s l r s', Run step start t s → (∀ e ∈ t, guard e) → step s l r s' →
      guard ⟨s, l, r, s'⟩ → P s → (P s' ↔ ok ⟨s, l, r, s'⟩)) :
    (P s ∧ ∀ e ∈ t, P e.pre) ↔ ∀ e ∈ t, ok e := by
  induction h with
  | nil => simp [zero]
  | @snoc t s s' l r run hs ih =>
      have before : ∀ e ∈ t, guard e := fun e he => hg e (List.mem_append_left _ he)
      have here : guard ⟨s, l, r, s'⟩ := hg _ (List.mem_append_right _ (List.mem_singleton_self _))
      simp only [List.mem_append, List.mem_singleton, or_imp, forall_and, forall_eq, ← ih before]
      refine ⟨?_, ?_⟩
      · rintro ⟨after, past, now⟩
        exact ⟨⟨now, past⟩, (succ _ _ _ _ _ run before hs here now).1 after⟩
      · rintro ⟨⟨now, past⟩, kept⟩
        exact ⟨(succ _ _ _ _ _ run before hs here now).2 kept, past, now⟩

/-- `Q` holds as long as all steps are `ok`, and wherever it holds so does `P`. If the next step
has to be `ok` for `P` to go on, then `P` holds all along exactly when all steps are `ok`. -/
theorem Run.history_iff (P Q : List (Transition σ ℓ ρ) → σ → Prop) (ok : Transition σ ℓ ρ → Prop)
    (h : Run step start t s) (zero : Q [] start) (holds : ∀ t s, Q t s → P t s)
    (succ : ∀ t s l r s', Run step start t s → step s l r s' → ok ⟨s, l, r, s'⟩ → Q t s →
      Q (t ++ [⟨s, l, r, s'⟩]) s')
    (only : ∀ t s l r s', Run step start t s → step s l r s' → Q t s →
      P (t ++ [⟨s, l, r, s'⟩]) s' → ok ⟨s, l, r, s'⟩) :
    (P t s ∧ ∀ u e, u ++ [e] <+: t → P u e.pre) ↔ ∀ e ∈ t, ok e := by
  have kept : ∀ {t s}, Run step start t s → (∀ e ∈ t, ok e) → Q t s := by
    intro t s run all
    refine Run.invariant_of_guard Q ok run all zero ?_
    exact fun t s l r s' run before hs good => succ t s l r s' run hs good before
  induction h with
  | nil => simpa using holds _ _ zero
  | @snoc t s s' l r run hs ih =>
      refine ⟨?_, ?_⟩
      · rintro ⟨last, past⟩
        have before := ih.1 ⟨past t _ (List.prefix_refl _), fun u e he =>
          past u e (he.trans (List.prefix_append _ _))⟩
        intro e he
        cases List.mem_append.1 he with
        | inl old => exact before e old
        | inr new =>
            rw [List.mem_singleton.1 new]
            exact only _ _ _ _ _ run hs (kept run before) last
      · intro all
        have before := ih.2 fun e he => all e (List.mem_append_left _ he)
        refine ⟨holds _ _ (kept (run.snoc hs) all), fun u e he => ?_⟩
        cases List.prefix_concat_iff.1 he with
        | inl whole =>
            obtain ⟨rfl, same⟩ := List.append_inj' whole rfl
            rw [List.singleton_inj.1 same]
            exact before.1
        | inr old => exact before.2 u e old

theorem Run.exists_take {α : Type} (log : List (Transition σ ℓ ρ) → σ → List α)
    (h : Run step start t s) (zero : log [] start = [])
    (grows : ∀ t s l r s', Run step start t s → step s l r s' →
      ∃ new, log (t ++ [⟨s, l, r, s'⟩]) s' = log t s ++ new ∧ new.length ≤ 1)
    {n : Nat} (hn : n ≤ (log t s).length) :
    ∃ u z, u <+: t ∧ Run step start u z ∧ log u z = (log t s).take n := by
  induction h with
  | nil => exact ⟨[], start, List.prefix_refl _, .nil, by simp [zero]⟩
  | @snoc t s s' l r run hs ih =>
      obtain ⟨new, longer, short⟩ := grows t s l r s' run hs
      by_cases early : n ≤ (log t s).length
      · obtain ⟨u, z, before, reached, same⟩ := ih early
        refine ⟨u, z, before.trans (List.prefix_append _ _), reached, ?_⟩
        rw [same, longer, List.take_append_of_le_length early]
      · refine ⟨_, s', List.prefix_refl _, run.snoc hs, ?_⟩
        rw [longer, List.length_append] at hn
        rw [List.take_of_length_le]
        rw [longer, List.length_append]
        omega

theorem Run.append {u : List (Transition σ ℓ ρ)} {s' : σ}
    (h : Run step start t s) (hu : Run step s u s') : Run step start (t ++ u) s' := by
  induction hu with
  | nil => simpa using h
  | snoc _ hs ih => rw [← List.append_assoc]; exact .snoc ih hs

/-- Every recorded step was taken, after the steps recorded before it. -/
theorem Run.of_mem {e : Transition σ ℓ ρ} (h : Run step start t s) (he : e ∈ t) :
    ∃ u, Run step start u e.pre ∧ step e.pre e.label e.result e.post ∧ u ++ [e] <+: t := by
  induction h with
  | nil => cases he
  | snoc run hs ih =>
      rcases List.mem_append.1 he with he | he
      · obtain ⟨u, hu, hstep, hpre⟩ := ih he
        exact ⟨u, hu, hstep, hpre.trans (List.prefix_append _ _)⟩
      · obtain rfl := List.mem_singleton.1 he
        exact ⟨_, run, hs, List.prefix_refl _⟩

theorem Run.of_concat {u : List (Transition σ ℓ ρ)} {e : Transition σ ℓ ρ}
    (h : Run step start t s) (he : u ++ [e] <+: t) :
    Run step start u e.pre ∧ step e.pre e.label e.result e.post := by
  induction h with
  | nil => simp at he
  | snoc run hs ih =>
      rcases List.prefix_concat_iff.1 he with heq | old
      · obtain ⟨rfl, hlast⟩ := List.append_inj' heq rfl
        obtain rfl := List.singleton_inj.1 hlast
        exact ⟨run, hs⟩
      · exact ih old

theorem Run.of_nil (h : Run step start [] s) : s = start := by
  generalize empty : ([] : List (Transition σ ℓ ρ)) = t at h
  cases h with
  | nil => rfl
  | snoc _ _ => simp at empty

theorem Run.of_snoc {e : Transition σ ℓ ρ} (h : Run step start (t ++ [e]) s) :
    Run step start t e.pre ∧ step e.pre e.label e.result e.post ∧ s = e.post := by
  generalize whole : t ++ [e] = u at h
  cases h with
  | nil => simp at whole
  | snoc run hs =>
      obtain ⟨rfl, hlast⟩ := List.append_inj' whole rfl
      obtain rfl := List.singleton_inj.1 hlast
      exact ⟨run, hs, rfl⟩

/-- A map that turns steps into steps turns runs into runs. `Keep` is what the
map needs to know of the states it is used on. -/
theorem Run.map {step' : τ → ℓ → ρ → τ → Prop} (f : σ → τ) (Keep : σ → Prop)
    (h : Run step start t s) (zero : Keep start)
    (keep : ∀ s l r s', Keep s → step s l r s' → Keep s')
    (sim : ∀ s l r s', Keep s → step s l r s' → step' (f s) l r (f s')) :
    Run step' (f start) (t.map (Transition.map f)) (f s) ∧ Keep s := by
  induction h with
  | nil => exact ⟨.nil, zero⟩
  | snoc _ hs ih =>
      rw [List.map_append]
      exact ⟨.snoc ih.1 (sim _ _ _ _ ih.2 hs), keep _ _ _ _ ih.2 hs⟩

theorem filterMap_concat {α β : Type} (f : α → Option β) (t : List α) (e : α) :
    (t ++ [e]).filterMap f = t.filterMap f ++ (f e).toList := by
  rw [List.filterMap_append]
  cases found : f e <;> simp [found]

/-- `e` is the latest step of `t` with `P`, and `w` is what was recorded after it. -/
structure Latest (P : Transition σ ℓ ρ → Prop) (t : List (Transition σ ℓ ρ))
    (e : Transition σ ℓ ρ) (w : List (Transition σ ℓ ρ)) : Prop where
  split : ∃ v, t = v ++ e :: w
  holds : P e
  none_since : ∀ m ∈ w, ¬P m

section Latest

variable {P : Transition σ ℓ ρ → Prop} {e m : Transition σ ℓ ρ} {w : List (Transition σ ℓ ρ)}

theorem latest_concat_self (h : P m) : Latest P (t ++ [m]) m [] :=
  ⟨⟨t, rfl⟩, h, fun m hm => by cases hm⟩

theorem Latest.concat (h : Latest P t e w) (hm : ¬P m) : Latest P (t ++ [m]) e (w ++ [m]) := by
  obtain ⟨v, rfl⟩ := h.split
  refine ⟨⟨v, by simp⟩, h.holds, ?_⟩
  intro m' hm'
  rw [List.mem_append, List.mem_singleton] at hm'
  cases hm' with
  | inl old => exact h.none_since m' old
  | inr new => exact new ▸ hm

end Latest

def exec (next : σ → ℓ → Option (ρ × σ)) (s : σ) :
    List ℓ → Option (List (Transition σ ℓ ρ) × σ)
  | [] => some ([], s)
  | l :: ls =>
      match next s l with
      | none => none
      | some (r, s') => (exec next s' ls).map fun p => (⟨s, l, r, s'⟩ :: p.1, p.2)

theorem run_of_exec {next : σ → ℓ → Option (ρ × σ)} {ls : List ℓ} {s z : σ}
    {t : List (Transition σ ℓ ρ)} (h : exec next s ls = some (t, z)) :
    Run (fun s l r s' => next s l = some (r, s')) s t z := by
  induction ls generalizing s t with
  | nil =>
      simp only [exec, Option.some.injEq, Prod.mk.injEq] at h
      obtain ⟨rfl, rfl⟩ := h
      exact .nil
  | cons l ls ih =>
      simp only [exec] at h
      cases hn : next s l with
      | none => simp [hn] at h
      | some p =>
          obtain ⟨r, s'⟩ := p
          simp only [hn, Option.map_eq_some_iff, Prod.mk.injEq] at h
          obtain ⟨⟨u, z'⟩, hu, rfl, rfl⟩ := h
          exact Run.append (t := [⟨s, l, r, s'⟩]) (Run.snoc .nil hn) (ih hu)

theorem run_exec {next : σ → ℓ → Option (ρ × σ)} {ls : List ℓ} {s : σ}
    (h : (exec next s ls).isSome) :
    Run (fun s l r s' => next s l = some (r, s')) s ((exec next s ls).get h).1
      ((exec next s ls).get h).2 :=
  run_of_exec (Option.some_get h).symm

theorem exec_labels {next : σ → ℓ → Option (ρ × σ)} {ls : List ℓ} {s z : σ}
    {t : List (Transition σ ℓ ρ)} (h : exec next s ls = some (t, z)) :
    t.map (·.label) = ls := by
  induction ls generalizing s t with
  | nil =>
      simp only [exec, Option.some.injEq, Prod.mk.injEq] at h
      rw [← h.1, List.map_nil]
  | cons l ls ih =>
      simp only [exec] at h
      cases hn : next s l with
      | none => simp [hn] at h
      | some p =>
          simp only [hn, Option.map_eq_some_iff, Prod.mk.injEq] at h
          obtain ⟨⟨u, z'⟩, hu, rfl, rfl⟩ := h
          rw [List.map_cons, ih hu]

end PeerLanding.Runs
