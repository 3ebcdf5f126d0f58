import Mathlib.Data.List.Basic

/-! The part of the Java runtime the code leans on: unchecked exceptions, and
`List.get` with an `int` index. A program is an `EStateM`: an exception keeps the
updates made before it. -/

namespace PeerLanding

/-- The unchecked exceptions the code can raise. -/
inductive Excecao where
  | nullPointer
  | illegalArgument
  | noSuchElement
  | indexOutOfBounds
  deriving DecidableEq

namespace Java

@[simp] theorem run_throw {ε σ α : Type} (e : ε) (s : σ) :
    EStateM.run (throw e : EStateM ε σ α) s = .error e s := rfl

@[simp] theorem run_map {ε σ α β : Type} (f : α → β) (x : EStateM ε σ α) (s : σ) :
    EStateM.run (f <$> x) s =
      match x.run s with
      | .ok a s' => .ok (f a) s'
      | .error e s' => .error e s' := rfl

def state {σ α : Type} : EStateM.Result Excecao σ α → σ
  | .ok _ s => s
  | .error _ s => s

@[simp] theorem state_ok {σ α : Type} (a : α) (s : σ) :
    state (.ok a s : EStateM.Result Excecao σ α) = s := rfl

@[simp] theorem state_error {σ α : Type} (e : Excecao) (s : σ) :
    state (.error e s : EStateM.Result Excecao σ α) = s := rfl

def after {σ α : Type} (x : EStateM Excecao σ α) (s : σ) : σ := state (x.run s)

def get {α : Type} (xs : List α) (i : Int) : Except Excecao α :=
  match i with
  | .ofNat n => match xs[n]? with
    | some x => .ok x
    | none => .error .indexOutOfBounds
  | .negSucc _ => .error .indexOutOfBounds

theorem get_eq_ok {α : Type} {xs : List α} {i : Int} {x : α} :
    get xs i = .ok x ↔ 0 ≤ i ∧ xs[i.toNat]? = some x := by
  cases i with
  | negSucc n => simp [get]
  | ofNat n => cases found : xs[n]? <;> simp [get, found]

@[simp] theorem get_natCast {α : Type} {xs : List α} {n : Nat} {x : α} :
    get xs n = .ok x ↔ xs[n]? = some x := by
  simp [get_eq_ok]

theorem mem_of_get {α : Type} {xs : List α} {i : Int} {x : α} (h : get xs i = .ok x) : x ∈ xs :=
  List.mem_of_getElem? (get_eq_ok.1 h).2

theorem get_of_map_eq {α β γ : Type} {xs : List α} {ys : List β} {g : α → γ} {g' : β → γ}
    (same : ys.map g' = xs.map g) {i : Int} {y : β} (found : get ys i = .ok y) :
    ∃ x, get xs i = .ok x ∧ g x = g' y := by
  obtain ⟨inside, found⟩ := get_eq_ok.1 found
  have here := congrArg (fun zs => zs[i.toNat]?) same
  simp only [List.getElem?_map, found, Option.map_some] at here
  obtain ⟨x, hx, reads⟩ := Option.map_eq_some_iff.1 here.symm
  exact ⟨x, get_eq_ok.2 ⟨inside, hx⟩, reads⟩

/-- `f(xs.get(i))` for an `f` that updates the object in place. -/
def update {α : Type} (xs : List α) (i : Int) (f : α → α) : Except Excecao (List α) :=
  match i with
  | .ofNat n => if n < xs.length then .ok (xs.modify n f) else .error .indexOutOfBounds
  | .negSucc _ => .error .indexOutOfBounds

theorem update_natCast {α : Type} (xs : List α) (n : Nat) (f : α → α) :
    update xs n f =
      if n < xs.length then .ok (xs.modify n f) else .error .indexOutOfBounds := rfl

end Java

end PeerLanding
