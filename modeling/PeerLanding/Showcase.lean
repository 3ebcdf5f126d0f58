import PeerLanding.Runs

/-! Objects that are put on show before they are judged. A worker takes an object off its shelf,
marks it as good, exhibits it, judges it and then sets the mark to the verdict. The marks on show
are right as long as only good objects are exhibited and changes leave marked ones good. -/

namespace PeerLanding.Showcase

variable {κ ω : Type}

inductive Stage where
  | taken
  | marked
  | exhibited
  | judged (verdict : Bool)
  deriving DecidableEq

/-- The worker has marked its object, and has not set the mark again. -/
def Stage.vouches : Stage → Bool
  | .taken => false
  | _ => true

def Stage.onShow : Stage → Bool
  | .taken => false
  | .marked => false
  | _ => true

/-- Objects have numbers below `fresh`. A reader holds an object that it has found on show. -/
structure Case (κ ω : Type) where
  shelf : κ → Option Nat
  shown : κ → List Nat
  good : Nat → Prop
  mark : Nat → Bool
  hand : ω → Option (Nat × Stage)
  reader : Option Nat
  fresh : Nat

inductive Event where
  | change (b : Nat) (good : Prop)
  | exhibit (b : Nat)

inductive Case.Step [DecidableEq κ] [DecidableEq ω] (s : Case κ ω) :
    Option Event → Case κ ω → Prop
  | rest {reader : Option Nat} {fresh : Nat}
      (finds : ∀ b, reader = some b → s.reader = some b ∨ ∃ k, b ∈ s.shown k)
      (grows : s.fresh ≤ fresh) : s.Step none { s with reader := reader, fresh := fresh }
  | change (b : Nat) (good : Prop) :
      s.Step (some (.change b good))
        { s with good := Function.update s.good b good, reader := none }
  | put (k : κ) (good : Prop) :
      s.Step none
        { s with
          shelf := Function.update s.shelf k (some s.fresh)
          good := Function.update s.good s.fresh good
          mark := Function.update s.mark s.fresh false
          reader := none
          fresh := s.fresh + 1 }
  | take {k : κ} {b : Nat} (on : s.shelf k = some b) (w : ω) :
      s.Step none
        { s with
          shelf := Function.update s.shelf k none
          hand := Function.update s.hand w (some (b, .taken)) }
  | mark {w : ω} {b : Nat} (mine : s.hand w = some (b, .taken)) :
      s.Step none
        { s with
          mark := Function.update s.mark b true
          hand := Function.update s.hand w (some (b, .marked)) }
  | exhibit {w : ω} {b : Nat} (mine : s.hand w = some (b, .marked)) (k : κ) :
      s.Step (some (.exhibit b))
        { s with
          shown := Function.update s.shown k (s.shown k ++ [b])
          hand := Function.update s.hand w (some (b, .exhibited)) }
  | judge {w : ω} {b : Nat} (mine : s.hand w = some (b, .exhibited)) (verdict : Bool) :
      s.Step none { s with hand := Function.update s.hand w (some (b, .judged verdict)) }
  | settle {w : ω} {b : Nat} {verdict : Bool} (mine : s.hand w = some (b, .judged verdict)) :
      s.Step none
        { s with
          mark := Function.update s.mark b verdict
          hand := Function.update s.hand w none }
  | leave (w : ω) : s.Step none { s with hand := Function.update s.hand w none }

/-- Every object is on one shelf, in one hand or on show. -/
structure Case.Kept (s : Case κ ω) : Prop where
  shelved : ∀ k b, s.shelf k = some b →
    b < s.fresh ∧ (∀ w st, s.hand w ≠ some (b, st)) ∧ ∀ k', b ∉ s.shown k'
  once : ∀ k k' b, s.shelf k = some b → s.shelf k' = some b → k = k'
  held : ∀ w b st, s.hand w = some (b, st) → b < s.fresh
  alone : ∀ w w' b st st', s.hand w = some (b, st) → s.hand w' = some (b, st') → w = w'
  hidden : ∀ w b st, s.hand w = some (b, st) → st.onShow = false → ∀ k, b ∉ s.shown k
  vouched : ∀ w b st, s.hand w = some (b, st) → st.vouches = true → s.mark b = true
  exhibited : ∀ w b st, s.hand w = some (b, st) → st.onShow = true → ∃ k, b ∈ s.shown k
  shown : ∀ k b, b ∈ s.shown k → b < s.fresh
  reader : ∀ b, s.reader = some b → ∃ k, b ∈ s.shown k

/-- What is on show and marked is good. -/
def Case.Honest (s : Case κ ω) : Prop :=
  ∀ k, ∀ b ∈ s.shown k, s.mark b = true → s.good b

/-- The event lets nothing bad be on show with a mark. -/
def Case.Fair (s : Case κ ω) : Option Event → Prop
  | none => True
  | some (.change b good) => (∃ k, b ∈ s.shown k) → s.mark b = true → good
  | some (.exhibit b) => s.good b

section Steps

variable {s s' : Case κ ω} {ev : Option Event} {w : ω} {b : Nat} {st : Stage}

theorem Case.kept_nil (shelf : ∀ k, s.shelf k = none) (shown : ∀ k, s.shown k = [])
    (hand : ∀ w, s.hand w = none) (reader : s.reader = none) : s.Kept where
  shelved k b on := by cases (shelf k).symm.trans on
  once k _ b on := by cases (shelf k).symm.trans on
  held w b st mine := by cases (hand w).symm.trans mine
  alone w _ b st _ mine := by cases (hand w).symm.trans mine
  hidden w b st mine := by cases (hand w).symm.trans mine
  vouched w b st mine := by cases (hand w).symm.trans mine
  exhibited w b st mine := by cases (hand w).symm.trans mine
  shown k b on := by
    rw [shown k] at on
    cases on
  reader b found := by cases reader.symm.trans found

theorem Case.Kept.rest (h : s.Kept) {reader : Option Nat} {fresh : Nat}
    (finds : ∀ b, reader = some b → s.reader = some b ∨ ∃ k, b ∈ s.shown k)
    (grows : s.fresh ≤ fresh) : Case.Kept { s with reader := reader, fresh := fresh } :=
  { h with
    shelved := fun k b on => ⟨Nat.lt_of_lt_of_le (h.shelved k b on).1 grows, (h.shelved k b on).2⟩
    held := fun w b st mine => Nat.lt_of_lt_of_le (h.held w b st mine) grows
    shown := fun k b on => Nat.lt_of_lt_of_le (h.shown k b on) grows
    reader := fun b found => (finds b found).elim (h.reader b) id }

theorem Case.Kept.change (h : s.Kept) (b : Nat) (good : Prop) :
    Case.Kept { s with good := Function.update s.good b good, reader := none } :=
  { h with reader := fun _ found => by cases found }

section Hands

variable [DecidableEq ω]

theorem Case.Kept.advance (h : s.Kept) (mine : s.hand w = some (b, st)) (st' : Stage)
    {mark : Nat → Bool} {shown : κ → List Nat} (marks : ∀ x, x ≠ b → mark x = s.mark x)
    (more : ∀ k, ∀ x ∈ s.shown k, x ∈ shown k)
    (only : ∀ k, ∀ x ∈ shown k, x ∈ s.shown k ∨ x = b)
    (vouched : st'.vouches = true → mark b = true)
    (hidden : st'.onShow = false → ∀ k, b ∉ shown k)
    (exhibited : st'.onShow = true → ∃ k, b ∈ shown k) :
    Case.Kept { s with
      mark := mark
      shown := shown
      hand := Function.update s.hand w (some (b, st')) } := by
  have whose {w' : ω} {x : Nat} {st₁ : Stage}
      (his : Function.update s.hand w (some (b, st')) w' = some (x, st₁)) :
      w' = w ∧ x = b ∧ st₁ = st' ∨ w' ≠ w ∧ x ≠ b ∧ s.hand w' = some (x, st₁) := by
    by_cases same : w' = w
    · rw [same, Function.update_self] at his
      cases his
      exact .inl ⟨same, rfl, rfl⟩
    · rw [Function.update_of_ne same] at his
      refine .inr ⟨same, ?_, his⟩
      rintro rfl
      exact same (h.alone _ _ _ _ _ his mine)
  refine ⟨?_, h.once, ?_, ?_, ?_, ?_, ?_, ?_, ?_⟩
  · intro k x on
    obtain ⟨old, free, off⟩ := h.shelved k x on
    refine ⟨old, ?_, ?_⟩
    · intro w' st₁ his
      rcases whose his with ⟨_, rfl, _⟩ | ⟨_, _, his⟩
      · exact free w st mine
      · exact free w' st₁ his
    · intro k' there
      cases only k' x there with
      | inl there => exact off k' there
      | inr same =>
          rw [same] at free
          exact free w st mine
  · intro w' x st₁ his
    rcases whose his with ⟨_, rfl, _⟩ | ⟨_, _, his⟩
    · exact h.held w x st mine
    · exact h.held w' x st₁ his
  · intro w₁ w₂ x st₁ st₂ his hers
    rcases whose his with ⟨rfl, rfl, _⟩ | ⟨_, other, his⟩
    · rcases whose hers with ⟨rfl, _, _⟩ | ⟨_, other, _⟩
      · rfl
      · exact absurd rfl other
    · rcases whose hers with ⟨_, same, _⟩ | ⟨_, _, hers⟩
      · exact absurd same other
      · exact h.alone _ _ _ _ _ his hers
  · intro w' x st₁ his off k there
    rcases whose his with ⟨_, rfl, rfl⟩ | ⟨_, other, his⟩
    · exact hidden off k there
    · exact h.hidden w' x st₁ his off k ((only k x there).resolve_right other)
  · intro w' x st₁ his vouches
    rcases whose his with ⟨_, rfl, rfl⟩ | ⟨_, other, his⟩
    · exact vouched vouches
    · exact (marks x other).trans (h.vouched w' x st₁ his vouches)
  · intro w' x st₁ his on
    rcases whose his with ⟨_, rfl, rfl⟩ | ⟨_, _, his⟩
    · exact exhibited on
    · obtain ⟨k, there⟩ := h.exhibited w' x st₁ his on
      exact ⟨k, more k x there⟩
  · intro k x there
    cases only k x there with
    | inl there => exact h.shown k x there
    | inr same => exact same ▸ h.held w b st mine
  · intro x found
    obtain ⟨k, there⟩ := h.reader x found
    exact ⟨k, more k x there⟩

theorem Case.Kept.leave (h : s.Kept) (w : ω) {mark : Nat → Bool}
    (marks : ∀ x, (∀ st, s.hand w ≠ some (x, st)) → mark x = s.mark x) :
    Case.Kept { s with mark := mark, hand := Function.update s.hand w none } :=
  have old {w' : ω} {x : Nat × Stage} (his : Function.update s.hand w none w' = some x) :
      w' ≠ w ∧ s.hand w' = some x := by
    by_cases same : w' = w
    · rw [same, Function.update_self] at his
      cases his
    · exact ⟨same, by rwa [Function.update_of_ne same] at his⟩
  { h with
    shelved := fun k b on =>
      ⟨(h.shelved k b on).1, fun w' st his => (h.shelved k b on).2.1 w' st (old his).2,
        (h.shelved k b on).2.2⟩
    held := fun w' b st his => h.held w' b st (old his).2
    alone := fun w₁ w₂ b st st' his hers => h.alone w₁ w₂ b st st' (old his).2 (old hers).2
    hidden := fun w' b st his => h.hidden w' b st (old his).2
    vouched := fun w' b st his vouches => by
      refine (marks b fun st' mine => (old his).1 ?_).trans (h.vouched w' b st (old his).2 vouches)
      exact h.alone _ _ _ _ _ (old his).2 mine
    exhibited := fun w' b st his => h.exhibited w' b st (old his).2 }

end Hands

theorem Case.Kept.put [DecidableEq κ] (h : s.Kept) (k : κ) (good : Prop) :
    Case.Kept { s with
      shelf := Function.update s.shelf k (some s.fresh)
      good := Function.update s.good s.fresh good
      mark := Function.update s.mark s.fresh false
      reader := none
      fresh := s.fresh + 1 } where
  shelved k' b on := by
    by_cases same : k' = k
    · simp only [same, Function.update_self, Option.some.injEq] at on
      refine ⟨on ▸ Nat.lt_succ_self _, ?_, ?_⟩
      · rintro w st mine
        exact absurd (h.held w b st mine) (on ▸ Nat.lt_irrefl _)
      · intro k₁ there
        exact absurd (h.shown k₁ b there) (on ▸ Nat.lt_irrefl _)
    · simp only [Function.update_of_ne same] at on
      obtain ⟨old, free, off⟩ := h.shelved k' b on
      exact ⟨Nat.lt_succ_of_lt old, free, off⟩
  once k₁ k₂ b on₁ on₂ := by
    simp only [Function.update_apply] at on₁ on₂
    split_ifs at on₁ on₂ with first second second
    · rw [first, second]
    · cases on₁
      exact absurd (h.shelved k₂ _ on₂).1 (Nat.lt_irrefl _)
    · cases on₂
      exact absurd (h.shelved k₁ _ on₁).1 (Nat.lt_irrefl _)
    · exact h.once k₁ k₂ b on₁ on₂
  held w b st mine := Nat.lt_succ_of_lt (h.held w b st mine)
  alone := h.alone
  hidden := h.hidden
  vouched w b st mine vouches := by
    have old : b ≠ s.fresh := Nat.ne_of_lt (h.held w b st mine)
    simp only [Function.update_of_ne old]
    exact h.vouched w b st mine vouches
  exhibited := h.exhibited
  shown k' b there := Nat.lt_succ_of_lt (h.shown k' b there)
  reader b found := by cases found

theorem Case.Kept.take [DecidableEq κ] [DecidableEq ω] (h : s.Kept) {k : κ}
    (on : s.shelf k = some b) (w : ω) :
    Case.Kept { s with
      shelf := Function.update s.shelf k none
      hand := Function.update s.hand w (some (b, .taken)) } := by
  have still {k' : κ} {x : Nat} (on' : Function.update s.shelf k none k' = some x) :
      s.shelf k' = some x ∧ x ≠ b := by
    by_cases same : k' = k
    · rw [same, Function.update_self] at on'
      cases on'
    · rw [Function.update_of_ne same] at on'
      refine ⟨on', ?_⟩
      rintro rfl
      exact same (h.once _ _ _ on' on)
  have whose {w' : ω} {x : Nat} {st : Stage}
      (his : Function.update s.hand w (some (b, .taken)) w' = some (x, st)) :
      w' = w ∧ x = b ∧ st = .taken ∨ w' ≠ w ∧ x ≠ b ∧ s.hand w' = some (x, st) := by
    by_cases same : w' = w
    · rw [same, Function.update_self] at his
      cases his
      exact .inl ⟨same, rfl, rfl⟩
    · rw [Function.update_of_ne same] at his
      refine .inr ⟨same, ?_, his⟩
      rintro rfl
      exact (h.shelved k x on).2.1 w' st his
  refine ⟨?_, ?_, ?_, ?_, ?_, ?_, ?_, h.shown, h.reader⟩
  · intro k' x on'
    obtain ⟨old, other⟩ := still on'
    obtain ⟨below, free, off⟩ := h.shelved k' x old
    refine ⟨below, ?_, off⟩
    intro w' st his
    rcases whose his with ⟨_, same, _⟩ | ⟨_, _, his⟩
    · exact other same
    · exact free w' st his
  · intro k₁ k₂ x on₁ on₂
    exact h.once k₁ k₂ x (still on₁).1 (still on₂).1
  · intro w' x st his
    rcases whose his with ⟨_, rfl, _⟩ | ⟨_, _, his⟩
    · exact (h.shelved k x on).1
    · exact h.held w' x st his
  · intro w₁ w₂ x st₁ st₂ his hers
    rcases whose his with ⟨rfl, rfl, _⟩ | ⟨_, other, his⟩
    · rcases whose hers with ⟨rfl, _, _⟩ | ⟨_, other, _⟩
      · rfl
      · exact absurd rfl other
    · rcases whose hers with ⟨_, same, _⟩ | ⟨_, _, hers⟩
      · exact absurd same other
      · exact h.alone _ _ _ _ _ his hers
  · intro w' x st his off
    rcases whose his with ⟨_, rfl, _⟩ | ⟨_, _, his⟩
    · exact (h.shelved k x on).2.2
    · exact h.hidden w' x st his off
  · intro w' x st his vouches
    rcases whose his with ⟨_, _, rfl⟩ | ⟨_, _, his⟩
    · cases vouches
    · exact h.vouched w' x st his vouches
  · intro w' x st his on'
    rcases whose his with ⟨_, _, rfl⟩ | ⟨_, _, his⟩
    · cases on'
    · exact h.exhibited w' x st his on'

variable [DecidableEq κ] [DecidableEq ω]

theorem Case.Kept.step (h : s.Kept) (step : s.Step ev s') : s'.Kept := by
  cases step with
  | rest finds grows => exact h.rest finds grows
  | change b good => exact h.change b good
  | put k good => exact h.put k good
  | take on w => exact h.take on w
  | mark mine =>
      exact h.advance mine .marked (fun x other => Function.update_of_ne other _ _)
        (fun _ _ there => there) (fun _ _ there => .inl there)
        (fun _ => Function.update_self ..) (fun _ => h.hidden _ _ _ mine rfl)
        (fun shows => by cases shows)
  | @exhibit w b mine k =>
      have there {k' : κ} {x : Nat} : x ∈ Function.update s.shown k (s.shown k ++ [b]) k' ↔
          x ∈ s.shown k' ∨ k' = k ∧ x = b := by
        by_cases same : k' = k
        · simp [same]
        · simp [same]
      exact h.advance mine .exhibited (fun _ _ => rfl) (fun k' x old => there.2 (.inl old))
        (fun k' x now => (there.1 now).imp_right And.right)
        (fun _ => h.vouched _ _ _ mine rfl) (fun hides => by cases hides)
        (fun _ => ⟨k, there.2 (.inr ⟨rfl, rfl⟩)⟩)
  | judge mine verdict =>
      exact h.advance mine (.judged verdict) (fun _ _ => rfl) (fun _ _ there => there)
        (fun _ _ there => .inl there) (fun _ => h.vouched _ _ _ mine rfl)
        (fun hides => by cases hides) (fun _ => h.exhibited _ _ _ mine rfl)
  | settle mine =>
      refine h.leave _ fun x others => Function.update_of_ne ?_ _ _
      rintro rfl
      exact others _ mine
  | leave w => exact h.leave w fun _ _ => rfl

/-- A step leaves the marks on show right exactly when it is fair. -/
theorem Case.Kept.honest_iff (h : s.Kept) (honest : s.Honest) (step : s.Step ev s') :
    s'.Honest ↔ s.Fair ev := by
  cases step with
  | change b good =>
      refine ⟨?_, ?_⟩
      · rintro later ⟨k, there⟩ marked
        have now := later k b there marked
        simpa only [Function.update_self] using now
      · intro fair k x there marked
        by_cases same : x = b
        · subst same
          simp only [Function.update_self]
          exact fair ⟨k, there⟩ marked
        · simp only [Function.update_of_ne same]
          exact honest k x there marked
  | put k good =>
      refine iff_of_true ?_ trivial
      intro k' x there marked
      have old : x ≠ s.fresh := Nat.ne_of_lt (h.shown k' x there)
      simp only [Function.update_of_ne old] at marked ⊢
      exact honest k' x there marked
  | @mark w b mine =>
      refine iff_of_true ?_ trivial
      intro k x there marked
      have other : x ≠ b := by
        rintro rfl
        exact h.hidden _ _ _ mine rfl k there
      simp only [Function.update_of_ne other] at marked
      exact honest k x there marked
  | @exhibit w b mine k =>
      refine ⟨?_, ?_⟩
      · intro later
        refine later k b ?_ (h.vouched _ _ _ mine rfl)
        simp
      · intro fair k' x there marked
        by_cases same : k' = k
        · simp only [same, Function.update_self, List.mem_append, List.mem_singleton] at there
          cases there with
          | inl old => exact honest k x old marked
          | inr new => exact new ▸ fair
        · simp only [Function.update_of_ne same] at there
          exact honest k' x there marked
  | @settle w b verdict mine =>
      refine iff_of_true ?_ trivial
      intro k x there marked
      by_cases same : x = b
      · subst same
        exact honest k x there (h.vouched _ _ _ mine rfl)
      · simp only [Function.update_of_ne same] at marked
        exact honest k x there marked
  | rest finds grows => exact iff_of_true honest trivial
  | take on w => exact iff_of_true honest trivial
  | judge mine verdict => exact iff_of_true honest trivial
  | leave w => exact iff_of_true honest trivial

omit [DecidableEq κ] [DecidableEq ω] in
/-- A reader of an honest case sees a mark on good objects only. -/
theorem Case.Kept.read (h : s.Kept) (honest : s.Honest) (found : s.reader = some b)
    (marked : s.mark b = true) : s.good b := by
  obtain ⟨k, there⟩ := h.reader b found
  exact honest k b there marked

end Steps

end PeerLanding.Showcase
