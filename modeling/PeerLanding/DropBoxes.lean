import PeerLanding.Runs

/-! Boxes on shelves. A clerk looks up the box on a shelf, drops an item into it later and then
acknowledges the item; a collector takes a box off its shelf, counts what is in it and may repack
it after that. A count sees all that its box ever gets if the clerk does not hold the box then. -/

namespace PeerLanding.DropBoxes

variable {κ ω α : Type}

inductive Clerk (α : Type) where
  | free
  | holds (box : Nat)
  | owes (box : Nat) (item : α)

/-- Boxes have numbers below `fresh`. What a collector has taken is counted or not. -/
structure Room (κ ω α : Type) where
  shelf : κ → Option Nat
  items : Nat → List α
  clerk : Clerk α
  taken : ω → Option (Nat × Bool)
  fresh : Nat

inductive Event (α : Type) where
  | drop (box : Nat) (item : α)
  | ack (box : Nat) (item : α)
  | count (box : Nat) (seen : List α)

inductive Room.Step [DecidableEq κ] [DecidableEq ω] (s : Room κ ω α) :
    Option (Event α) → Room κ ω α → Prop
  | rest {clerk : Clerk α} {fresh : Nat} (same : clerk = s.clerk ∨ clerk = .free)
      (grows : s.fresh ≤ fresh) : s.Step none { s with clerk := clerk, fresh := fresh }
  | look {k : κ} {b : Nat} (on : s.shelf k = some b) : s.Step none { s with clerk := .holds b }
  | drop {b : Nat} (held : s.clerk = .holds b) (x : α) :
      s.Step (some (.drop b x))
        { s with items := Function.update s.items b (s.items b ++ [x]), clerk := .owes b x }
  | ack {b : Nat} {x : α} (owed : s.clerk = .owes b x) :
      s.Step (some (.ack b x)) { s with clerk := .free }
  | put (k : κ) :
      s.Step none
        { s with
          shelf := Function.update s.shelf k (some s.fresh)
          items := Function.update s.items s.fresh []
          clerk := .free
          fresh := s.fresh + 1 }
  | take {k : κ} {b : Nat} (on : s.shelf k = some b) (w : ω) :
      s.Step none
        { s with
          shelf := Function.update s.shelf k none
          taken := Function.update s.taken w (some (b, false)) }
  | count {w : ω} {b : Nat} (mine : s.taken w = some (b, false)) :
      s.Step (some (.count b (s.items b)))
        { s with taken := Function.update s.taken w (some (b, true)) }
  | repack {w : ω} {b : Nat} (mine : s.taken w = some (b, true)) (xs : List α) :
      s.Step none { s with items := Function.update s.items b xs }
  | leave (w : ω) : s.Step none { s with taken := Function.update s.taken w none }

/-! ### What the log says -/

def Event.droppedIn (b : Nat) : Event α → Option α
  | .drop box item => if box = b then some item else none
  | _ => none

def Event.ackedFor (b : Nat) : Event α → Option α
  | .ack box item => if box = b then some item else none
  | _ => none

def dropped (b : Nat) (log : List (Event α)) : List α := log.filterMap (Event.droppedIn b)

def acked (b : Nat) (log : List (Event α)) : List α := log.filterMap (Event.ackedFor b)

def Counted (b : Nat) (log : List (Event α)) : Prop := ∃ seen, Event.count b seen ∈ log

def Clerk.owing (b : Nat) : Clerk α → List α
  | .owes box item => if box = b then [item] else []
  | _ => []

@[simp] theorem Clerk.owing_free (b : Nat) : (free : Clerk α).owing b = [] := rfl

@[simp] theorem Clerk.owing_holds (b box : Nat) : (holds box : Clerk α).owing b = [] := rfl

/-- A counted box is off its shelf and out of the clerk's hands, so what is in it is what it ever
gets. -/
structure Room.Kept (s : Room κ ω α) (log : List (Event α)) : Prop where
  shelved : ∀ k b, s.shelf k = some b → b < s.fresh ∧ ¬Counted b log
  once : ∀ k k' b, s.shelf k = some b → s.shelf k' = some b → k = k'
  held : ∀ b, s.clerk = .holds b → b < s.fresh ∧ ¬Counted b log
  taken : ∀ w b c, s.taken w = some (b, c) → b < s.fresh ∧ ∀ k, s.shelf k ≠ some b
  alone : ∀ w w' b c c', s.taken w = some (b, c) → s.taken w' = some (b, c') → w = w'
  counted : ∀ w b c, s.taken w = some (b, c) → (c = true ↔ Counted b log)
  items : ∀ b, ¬Counted b log → s.items b = dropped b log
  seen : ∀ b xs, Event.count b xs ∈ log → xs = dropped b log
  fresh : ∀ b, s.fresh ≤ b → dropped b log = [] ∧ ¬Counted b log
  owed : ∀ b, List.Sublist (acked b log ++ s.clerk.owing b) (dropped b log)

section Kept

variable {s s' : Room κ ω α} {log : List (Event α)} {ev : Option (Event α)} {b : Nat}

theorem dropped_concat (b : Nat) (log : List (Event α)) (e : Event α) :
    dropped b (log ++ [e]) = dropped b log ++ (e.droppedIn b).toList :=
  Runs.filterMap_concat ..

theorem acked_concat (b : Nat) (log : List (Event α)) (e : Event α) :
    acked b (log ++ [e]) = acked b log ++ (e.ackedFor b).toList :=
  Runs.filterMap_concat ..

theorem counted_concat_drop {b box : Nat} {x : α} :
    Counted b (log ++ [.drop box x]) ↔ Counted b log := by
  simp [Counted]

theorem counted_concat_ack {b box : Nat} {x : α} :
    Counted b (log ++ [.ack box x]) ↔ Counted b log := by
  simp [Counted]

theorem counted_concat_count {b box : Nat} {xs : List α} :
    Counted b (log ++ [.count box xs]) ↔ Counted b log ∨ b = box := by
  simp only [Counted, List.mem_append, List.mem_singleton, Event.count.injEq, exists_or]
  simp

theorem Room.kept_nil (shelf : ∀ k, s.shelf k = none) (items : ∀ b, s.items b = [])
    (clerk : s.clerk = .free) (taken : ∀ w, s.taken w = none) : s.Kept [] where
  shelved k b on := by cases (shelf k).symm.trans on
  once k _ b on := by cases (shelf k).symm.trans on
  held b at' := by cases clerk.symm.trans at'
  taken w b c mine := by cases (taken w).symm.trans mine
  alone w _ b c _ mine := by cases (taken w).symm.trans mine
  counted w b c mine := by cases (taken w).symm.trans mine
  items b _ := items b
  seen b xs counted := by cases counted
  fresh b _ := ⟨rfl, by simp [Counted]⟩
  owed b := by rw [clerk]; exact List.Sublist.refl _

theorem Room.Kept.acked (h : s.Kept log) (b : Nat) :
    List.Sublist (acked b log) (dropped b log) :=
  (List.sublist_append_left _ _).trans (h.owed b)

theorem Room.Kept.rest (h : s.Kept log) {clerk : Clerk α} {fresh : Nat}
    (same : clerk = s.clerk ∨ clerk = .free) (grows : s.fresh ≤ fresh) :
    Room.Kept { s with clerk := clerk, fresh := fresh } log where
  shelved k b on := ⟨Nat.lt_of_lt_of_le (h.shelved k b on).1 grows, (h.shelved k b on).2⟩
  once := h.once
  held b at' := by
    cases same with
    | inl same =>
        obtain ⟨old, uncounted⟩ := h.held b (same ▸ at')
        exact ⟨Nat.lt_of_lt_of_le old grows, uncounted⟩
    | inr free => cases free.symm.trans at'
  taken w b c mine := ⟨Nat.lt_of_lt_of_le (h.taken w b c mine).1 grows, (h.taken w b c mine).2⟩
  alone := h.alone
  counted := h.counted
  items := h.items
  seen := h.seen
  fresh b new := h.fresh b (Nat.le_trans grows new)
  owed b := by
    cases same with
    | inl same => exact same ▸ h.owed b
    | inr free =>
        rw [free, Clerk.owing_free, List.append_nil]
        exact h.acked b

theorem Room.Kept.look (h : s.Kept log) {k : κ} {b : Nat} (on : s.shelf k = some b) :
    Room.Kept { s with clerk := .holds b } log :=
  { h with
    held := fun _ at' => by
      cases at'
      exact h.shelved k b on
    owed := fun b => by
      rw [Clerk.owing_holds, List.append_nil]
      exact h.acked b }

theorem Room.Kept.drop (h : s.Kept log) {b : Nat} (held : s.clerk = .holds b) (x : α) :
    Room.Kept { s with
      items := Function.update s.items b (s.items b ++ [x])
      clerk := .owes b x } (log ++ [.drop b x]) where
  shelved k b on := by
    rw [counted_concat_drop]
    exact h.shelved k b on
  once := h.once
  held b at' := by cases at'
  taken := h.taken
  alone := h.alone
  counted w b c mine := by
    rw [counted_concat_drop]
    exact h.counted w b c mine
  items box uncounted := by
    rw [counted_concat_drop] at uncounted
    rw [dropped_concat, ← h.items box uncounted]
    by_cases same : box = b
    · simp [same, Event.droppedIn]
    · simp [same, Event.droppedIn, Ne.symm same]
  seen box xs counted := by
    have old : Event.count box xs ∈ log := by simpa using counted
    have other : b ≠ box := by
      rintro rfl
      exact (h.held b held).2 ⟨xs, old⟩
    rw [dropped_concat, Event.droppedIn, if_neg other, Option.toList_none, List.append_nil]
    exact h.seen box xs old
  fresh box new := by
    have other : b ≠ box := by
      rintro rfl
      exact absurd (h.held b held).1 (Nat.not_lt.2 new)
    rw [dropped_concat, Event.droppedIn, if_neg other, Option.toList_none, List.append_nil,
      counted_concat_drop]
    exact h.fresh box new
  owed box := by
    rw [dropped_concat, acked_concat]
    by_cases same : b = box
    · simpa [same, Event.droppedIn, Event.ackedFor, Clerk.owing] using h.acked box
    · simpa [same, Event.droppedIn, Event.ackedFor, Clerk.owing] using h.acked box

theorem Room.Kept.ack (h : s.Kept log) {b : Nat} {x : α} (owed : s.clerk = .owes b x) :
    Room.Kept { s with clerk := .free } (log ++ [.ack b x]) where
  shelved k b on := by
    rw [counted_concat_ack]
    exact h.shelved k b on
  once := h.once
  held b at' := by cases at'
  taken := h.taken
  alone := h.alone
  counted w b c mine := by
    rw [counted_concat_ack]
    exact h.counted w b c mine
  items box uncounted := by
    rw [counted_concat_ack] at uncounted
    simpa [dropped_concat, Event.droppedIn] using h.items box uncounted
  seen box xs counted := by
    have old : Event.count box xs ∈ log := by simpa using counted
    simpa [dropped_concat, Event.droppedIn] using h.seen box xs old
  fresh box new := by
    rw [counted_concat_ack]
    simpa [dropped_concat, Event.droppedIn] using h.fresh box new
  owed box := by
    have before := h.owed box
    rw [owed] at before
    rw [dropped_concat, acked_concat, Clerk.owing_free, List.append_nil]
    by_cases same : b = box
    · simpa [same, Event.droppedIn, Event.ackedFor, Clerk.owing] using before
    · simpa [same, Event.droppedIn, Event.ackedFor, Clerk.owing] using before

theorem Room.Kept.repack (h : s.Kept log) {w : ω} {b : Nat} (mine : s.taken w = some (b, true))
    (xs : List α) : Room.Kept { s with items := Function.update s.items b xs } log :=
  { h with
    items := fun box uncounted => by
      have other : box ≠ b := by
        rintro rfl
        exact uncounted ((h.counted w box true mine).1 rfl)
      simpa only [Function.update_of_ne other] using h.items box uncounted }

theorem Room.Kept.put [DecidableEq κ] (h : s.Kept log) (k : κ) :
    Room.Kept { s with
      shelf := Function.update s.shelf k (some s.fresh)
      items := Function.update s.items s.fresh []
      clerk := .free
      fresh := s.fresh + 1 } log where
  shelved k' b on := by
    by_cases same : k' = k
    · simp only [same, Function.update_self, Option.some.injEq] at on
      exact ⟨on ▸ Nat.lt_succ_self _, on ▸ (h.fresh s.fresh (Nat.le_refl _)).2⟩
    · simp only [Function.update_of_ne same] at on
      obtain ⟨old, uncounted⟩ := h.shelved k' b on
      exact ⟨Nat.lt_succ_of_lt old, uncounted⟩
  once k₁ k₂ b on₁ on₂ := by
    simp only [Function.update_apply] at on₁ on₂
    split_ifs at on₁ on₂ with first second second
    · rw [first, second]
    · cases on₁
      exact absurd (h.shelved k₂ _ on₂).1 (Nat.lt_irrefl _)
    · cases on₂
      exact absurd (h.shelved k₁ _ on₁).1 (Nat.lt_irrefl _)
    · exact h.once k₁ k₂ b on₁ on₂
  held b at' := by cases at'
  taken w b c mine := by
    obtain ⟨old, off⟩ := h.taken w b c mine
    refine ⟨Nat.lt_succ_of_lt old, ?_⟩
    intro k' on
    by_cases same : k' = k
    · simp only [same, Function.update_self, Option.some.injEq] at on
      omega
    · simp only [Function.update_of_ne same] at on
      exact off k' on
  alone := h.alone
  counted := h.counted
  items b uncounted := by
    by_cases same : b = s.fresh
    · simp [same, (h.fresh s.fresh (Nat.le_refl _)).1]
    · simpa only [Function.update_of_ne same] using h.items b uncounted
  seen := h.seen
  fresh b new := h.fresh b (Nat.le_of_succ_le new)
  owed b := by
    rw [Clerk.owing_free, List.append_nil]
    exact h.acked b

section Taken

variable [DecidableEq ω]

theorem Room.Kept.leave (h : s.Kept log) (w : ω) :
    Room.Kept { s with taken := Function.update s.taken w none } log :=
  have old {w' : ω} {x : Nat × Bool} (mine : Function.update s.taken w none w' = some x) :
      s.taken w' = some x := by
    by_cases same : w' = w
    · rw [same, Function.update_self] at mine
      cases mine
    · rwa [Function.update_of_ne same] at mine
  { h with
    taken := fun w b c mine => h.taken w b c (old mine)
    alone := fun w w' b c c' mine mine' => h.alone w w' b c c' (old mine) (old mine')
    counted := fun w b c mine => h.counted w b c (old mine) }

theorem Room.Kept.take [DecidableEq κ] (h : s.Kept log) {k : κ} {b : Nat}
    (on : s.shelf k = some b) (w : ω) :
    Room.Kept { s with
      shelf := Function.update s.shelf k none
      taken := Function.update s.taken w (some (b, false)) } log := by
  have still {k' : κ} {box : Nat} (on' : Function.update s.shelf k none k' = some box) :
      k' ≠ k ∧ s.shelf k' = some box := by
    by_cases same : k' = k
    · rw [same, Function.update_self] at on'
      cases on'
    · exact ⟨same, by rwa [Function.update_of_ne same] at on'⟩
  have whose {w' : ω} {box : Nat} {c : Bool}
      (mine : Function.update s.taken w (some (b, false)) w' = some (box, c)) :
      w' = w ∧ box = b ∧ c = false ∨ w' ≠ w ∧ s.taken w' = some (box, c) ∧ box ≠ b := by
    by_cases same : w' = w
    · rw [same, Function.update_self] at mine
      cases mine
      exact .inl ⟨same, rfl, rfl⟩
    · rw [Function.update_of_ne same] at mine
      refine .inr ⟨same, mine, ?_⟩
      rintro rfl
      exact (h.taken w' box c mine).2 k on
  refine { h with shelved := ?_, once := ?_, taken := ?_, alone := ?_, counted := ?_ }
  · exact fun k' box on' => h.shelved k' box (still on').2
  · exact fun k₁ k₂ box on₁ on₂ => h.once k₁ k₂ box (still on₁).2 (still on₂).2
  · intro w' box c mine
    cases whose mine with
    | inl new =>
        obtain ⟨_, rfl, _⟩ := new
        refine ⟨(h.shelved k box on).1, fun k' on' => ?_⟩
        obtain ⟨other, on'⟩ := still on'
        exact other (h.once k' k box on' on)
    | inr old =>
        refine ⟨(h.taken w' box c old.2.1).1, fun k' on' => ?_⟩
        exact (h.taken w' box c old.2.1).2 k' (still on').2
  · intro w₁ w₂ box c₁ c₂ mine₁ mine₂
    rcases whose mine₁ with ⟨first, same₁, _⟩ | ⟨_, old₁, other₁⟩ <;>
      rcases whose mine₂ with ⟨second, same₂, _⟩ | ⟨_, old₂, other₂⟩
    · rw [first, second]
    · exact absurd same₁ other₂
    · exact absurd same₂ other₁
    · exact h.alone w₁ w₂ box c₁ c₂ old₁ old₂
  · intro w' box c mine
    cases whose mine with
    | inl new =>
        obtain ⟨_, rfl, rfl⟩ := new
        simp [(h.shelved k box on).2]
    | inr old => exact h.counted w' box c old.2.1

theorem Room.Kept.count (h : s.Kept log) {w : ω} {b : Nat} (mine : s.taken w = some (b, false))
    (away : s.clerk ≠ .holds b) :
    Room.Kept { s with taken := Function.update s.taken w (some (b, true)) }
      (log ++ [.count b (s.items b)]) := by
  have uncounted : ¬Counted b log := by
    rw [← h.counted w b false mine]
    decide
  have same_drops (box : Nat) :
      dropped box (log ++ [.count b (s.items b)]) = dropped box log := by
    simp [dropped_concat, Event.droppedIn]
  have whose {w' : ω} {box : Nat} {c : Bool}
      (here : Function.update s.taken w (some (b, true)) w' = some (box, c)) :
      w' = w ∧ box = b ∧ c = true ∨ w' ≠ w ∧ box ≠ b ∧ s.taken w' = some (box, c) := by
    by_cases same : w' = w
    · rw [same, Function.update_self] at here
      cases here
      exact .inl ⟨same, rfl, rfl⟩
    · rw [Function.update_of_ne same] at here
      refine .inr ⟨same, ?_, here⟩
      rintro rfl
      exact same (h.alone w' w box c false here mine)
  refine ⟨?_, h.once, ?_, ?_, ?_, ?_, ?_, ?_, ?_, ?_⟩
  · intro k box on
    rw [counted_concat_count, not_or]
    refine ⟨(h.shelved k box on).1, (h.shelved k box on).2, ?_⟩
    rintro rfl
    exact (h.taken w box false mine).2 k on
  · intro box at'
    rw [counted_concat_count, not_or]
    refine ⟨(h.held box at').1, (h.held box at').2, ?_⟩
    rintro rfl
    exact away at'
  · intro w' box c here
    cases whose here with
    | inl this =>
        obtain ⟨_, rfl, _⟩ := this
        exact h.taken w box false mine
    | inr other => exact h.taken w' box c other.2.2
  · intro w₁ w₂ box c₁ c₂ here₁ here₂
    rcases whose here₁ with ⟨first, same₁, _⟩ | ⟨_, other₁, old₁⟩ <;>
      rcases whose here₂ with ⟨second, same₂, _⟩ | ⟨_, other₂, old₂⟩
    · rw [first, second]
    · exact absurd same₁ other₂
    · exact absurd same₂ other₁
    · exact h.alone w₁ w₂ box c₁ c₂ old₁ old₂
  · intro w' box c here
    rw [counted_concat_count]
    cases whose here with
    | inl this =>
        obtain ⟨_, rfl, rfl⟩ := this
        simp
    | inr other =>
        rw [h.counted w' box c other.2.2]
        simp [other.2.1]
  · intro box new
    rw [counted_concat_count, not_or] at new
    exact (h.items box new.1).trans (same_drops box).symm
  · intro box xs counted
    rw [same_drops]
    rw [List.mem_append, List.mem_singleton] at counted
    cases counted with
    | inl old => exact h.seen box xs old
    | inr this =>
        cases this
        exact h.items b uncounted
  · intro box new
    rw [same_drops, counted_concat_count, not_or]
    refine ⟨(h.fresh box new).1, (h.fresh box new).2, ?_⟩
    rintro rfl
    exact absurd (h.taken w box false mine).1 (Nat.not_lt.2 new)
  · intro box
    simpa [same_drops, acked_concat, Event.ackedFor] using h.owed box

end Taken

/-- What holds of a room after a log holds after one more step, if the clerk does not hold a box
while it is counted. -/
theorem Room.Kept.step [DecidableEq κ] [DecidableEq ω] (h : s.Kept log) (step : s.Step ev s')
    (away : ∀ b xs, ev = some (.count b xs) → s.clerk ≠ .holds b) :
    s'.Kept (log ++ ev.toList) := by
  cases step with
  | drop held x => exact h.drop held x
  | ack owed => exact h.ack owed
  | count mine => exact h.count mine (away _ _ rfl)
  | rest same grows => simpa using h.rest same grows
  | look on => simpa using h.look on
  | put k => simpa using h.put k
  | take on w => simpa using h.take on w
  | repack mine xs => simpa using h.repack mine xs
  | leave w => simpa using h.leave w

theorem Room.Kept.acked_of_count (h : s.Kept log) {xs : List α}
    (counted : Event.count b xs ∈ log) : List.Sublist (DropBoxes.acked b log) xs := by
  rw [h.seen b xs counted]
  exact h.acked b

end Kept

end PeerLanding.DropBoxes
