import Mathlib.Data.List.Basic

/-! Programs that write to a log beside their state. What such a program does to its state is what
the same program does without its writes, and what it writes is a function of where it starts. -/

namespace PeerLanding.Logged

variable {ε σ ω α β : Type}

/-- A program over a state and the log so far, with the newest entry last. -/
abbrev Program (ε σ ω : Type) : Type → Type := EStateM ε (σ × List ω)

def note (log out : List ω) : EStateM.Result ε σ α → EStateM.Result ε (σ × List ω) α
  | .ok a s => .ok a (s, log ++ out)
  | .error e s => .error e (s, log ++ out)

def lift (y : EStateM ε σ α) : Program ε σ ω α := fun p => note p.2 [] (y.run p.1)

def tell (w : ω) : Program ε σ ω Unit := modify fun p => (p.1, p.2 ++ [w])

/-- `x` does what `y` does, and writes `out`. -/
def Writes (x : Program ε σ ω α) (y : EStateM ε σ α) (out : σ → List ω) : Prop :=
  ∀ s log, x.run (s, log) = note log (out s) (y.run s)

/-- What is written after a program that has ended so. -/
def after (out : α → σ → List ω) : EStateM.Result ε σ α → List ω
  | .ok a s => out a s
  | .error _ _ => []

section Rules

variable {x : Program ε σ ω α} {y : EStateM ε σ α} {out out' : σ → List ω}

theorem Writes.congr (h : Writes x y out) (same : ∀ s, out s = out' s) : Writes x y out' := by
  intro s log
  rw [h, same]

theorem writes_lift (y : EStateM ε σ α) : Writes (lift y : Program ε σ ω α) y fun _ => [] :=
  fun _ _ => rfl

theorem writes_pure (a : α) :
    Writes (pure a : Program ε σ ω α) (pure a : EStateM ε σ α) fun _ => [] := by
  intro s log
  change EStateM.Result.ok a (s, log) = .ok a (s, log ++ [])
  rw [List.append_nil]

theorem writes_throw (e : ε) :
    Writes (throw e : Program ε σ ω α) (throw e : EStateM ε σ α) fun _ => [] := by
  intro s log
  change EStateM.Result.error e (s, log) = .error e (s, log ++ [])
  rw [List.append_nil]

theorem Writes.bind {k : α → Program ε σ ω β} {k' : α → EStateM ε σ β}
    {later : α → σ → List ω} (h : Writes x y out) (hk : ∀ a, Writes (k a) (k' a) (later a)) :
    Writes (x >>= k) (y >>= k') fun s => out s ++ after later (y.run s) := by
  intro s log
  change EStateM.bind x k (s, log) = note log _ (EStateM.bind y k' s)
  have first : x (s, log) = note log (out s) (y s) := h s log
  rw [EStateM.bind, EStateM.bind, first]
  cases done : y s with
  | ok a s' =>
      have second : k a (s', log ++ out s) = note (log ++ out s) (later a s') (k' a s') :=
        hk a s' _
      simp only [note, second, EStateM.run, done, after]
      cases k' a s' <;> simp only [List.append_assoc]
  | error e s' => simp only [note, EStateM.run, done, after, List.append_nil]

theorem Writes.tell {k : Unit → Program ε σ ω α} (w : ω) (hk : Writes (k ()) y fun _ => []) :
    Writes (Logged.tell w >>= k) y fun _ => [w] := by
  intro s log
  change k () (s, log ++ [w]) = _
  have rest : k () (s, log ++ [w]) = note (log ++ [w]) [] (y.run s) := hk s _
  rw [rest]
  cases y.run s <;> simp only [note, List.append_nil]

section Lift

variable {γ : Type} {z : EStateM ε σ γ} {k : γ → Program ε σ ω α} {k' : γ → EStateM ε σ α}

theorem Writes.lift_bind (later : γ → σ → List ω) (hk : ∀ a, Writes (k a) (k' a) (later a)) :
    Writes (lift z >>= k) (z >>= k') fun s => after later (z.run s) :=
  ((writes_lift z).bind hk).congr fun _ => List.nil_append _

/-- Nothing is written after a step if nothing is, however the step ends. -/
theorem Writes.silent_bind (hk : ∀ a, Writes (k a) (k' a) fun _ => []) :
    Writes (lift z >>= k) (z >>= k') fun _ => [] :=
  (Writes.lift_bind _ hk).congr fun s => by cases z.run s <;> rfl

end Lift

theorem Writes.read {k : σ → Program ε σ ω α} {k' : σ → EStateM ε σ α} (later : σ → σ → List ω)
    (hk : ∀ a, Writes (k a) (k' a) (later a)) :
    Writes (lift get >>= k) (get >>= k') fun s => later s s :=
  Writes.lift_bind later hk

theorem Writes.update {k : Unit → Program ε σ ω α} {k' : Unit → EStateM ε σ α} (f : σ → σ)
    (out : σ → List ω) (hk : Writes (k ()) (k' ()) out) :
    Writes (lift (modify f) >>= k) (modify f >>= k') fun s => out (f s) :=
  Writes.lift_bind (fun _ => out) fun _ => hk

end Rules

end PeerLanding.Logged
