import Mathlib.Data.List.Nodup

/-! Lists whose elements carry numbers that should be their positions: what appending,
updating one element and replacing the list do to that. -/

namespace PeerLanding.NumberedLists

variable {α : Type} {number : α → Int} {xs : List α} {x : α} {f : α → α} {n : Nat}

/-- Every element is numbered with its position. -/
def Numbered (number : α → Int) (xs : List α) : Prop :=
  ∀ (i : Nat) (x : α), xs[i]? = some x → number x = i

@[simp] theorem numbered_nil : Numbered number [] := by
  intro i x found
  simp at found

theorem numbered_concat :
    Numbered number (xs ++ [x]) ↔ Numbered number xs ∧ number x = xs.length := by
  refine ⟨?_, ?_⟩
  · intro h
    refine ⟨?_, h xs.length x (by simp)⟩
    intro i y found
    have inside := (List.getElem?_eq_some_iff.1 found).1
    exact h i y (by rw [List.getElem?_append_left inside, found])
  · rintro ⟨old, new⟩ i y found
    rcases Nat.lt_trichotomy i xs.length with inside | here | outside
    · exact old i y (by rwa [List.getElem?_append_left inside] at found)
    · subst here
      simp only [List.getElem?_concat_length, Option.some.injEq] at found
      rw [← found, new]
    · rw [List.getElem?_eq_none (by simpa using Nat.succ_le_of_lt outside)] at found
      cases found

theorem map_modify_of_eq {β : Type} {g : α → β} (same : ∀ x, g (f x) = g x) :
    (xs.modify n f).map g = xs.map g := by
  refine List.ext_getElem? fun i => ?_
  rw [List.getElem?_map, List.getElem?_map, List.getElem?_modify, Option.map_eq_map,
    Option.map_map]
  congr 1
  funext x
  dsimp only [Function.comp_apply]
  split_ifs
  · exact same x
  · rfl

theorem map_modify_eq {β γ : Type} {ys : List β} {g : α → γ} {g' : β → γ} {f' : β → β}
    (same : ys.map g' = xs.map g) (alike : ∀ x y, g' y = g x → g' (f' y) = g (f x)) :
    (ys.modify n f').map g' = (xs.modify n f).map g := by
  refine List.ext_getElem? fun i => ?_
  have here := congrArg (fun zs => zs[i]?) same
  rw [List.getElem?_map, List.getElem?_map, List.getElem?_modify, List.getElem?_modify]
  simp only [List.getElem?_map] at here
  cases left : ys[i]? with
  | none =>
      cases right : xs[i]? with
      | none => rfl
      | some x => simp [left, right] at here
  | some y =>
      cases right : xs[i]? with
      | none => simp [left, right] at here
      | some x =>
          simp only [left, right, Option.map_some, Option.some.injEq] at here
          by_cases at_n : n = i
          · simp [at_n, alike x y here]
          · simp [at_n, here]

theorem numbered_iff_map :
    Numbered number xs ↔ ∀ (i : Nat) (m : Int), (xs.map number)[i]? = some m → m = i := by
  simp [Numbered, Option.map_eq_some_iff]

/-- Elements that all carry number `0` are in place when there is at most one. -/
theorem numbered_zero (zero : ∀ x ∈ xs, number x = 0) :
    Numbered number xs ↔ xs.length ≤ 1 := by
  refine ⟨?_, ?_⟩
  · intro h
    by_contra longer
    have second : xs[1]? = some xs[1] := List.getElem?_eq_getElem (by omega)
    have one := h 1 _ second
    rw [zero _ (List.getElem_mem _)] at one
    omega
  · intro short i x found
    have inside := (List.getElem?_eq_some_iff.1 found).1
    rw [zero x (List.mem_of_getElem? found)]
    omega

theorem Numbered.nodup (h : Numbered number xs) : (xs.map number).Nodup := by
  rw [List.nodup_iff_injective_getElem]
  intro i j same
  have hi := h i _ (List.getElem?_eq_getElem (by simpa using i.isLt))
  have hj := h j _ (List.getElem?_eq_getElem (by simpa using j.isLt))
  dsimp only at same
  rw [List.getElem_map, List.getElem_map, hi, hj] at same
  exact Fin.ext (by exact_mod_cast same)

theorem Numbered.mem_iff (h : Numbered number xs) {i : Nat} :
    x ∈ xs ∧ number x = i ↔ xs[i]? = some x := by
  refine ⟨?_, fun found => ⟨List.mem_of_getElem? found, h i x found⟩⟩
  rintro ⟨held, numbered⟩
  obtain ⟨j, found⟩ := List.mem_iff_getElem?.1 held
  have same := h j x found
  rw [numbered] at same
  rw [show i = j by exact_mod_cast same, found]

theorem forall_mem_modify {P : α → Prop} (h : ∀ x ∈ xs, P x) :
    (∀ x ∈ xs.modify n f, P x) ↔ ∀ x, xs[n]? = some x → P (f x) := by
  refine ⟨?_, ?_⟩
  · intro updated x found
    refine updated _ (List.mem_of_getElem? (i := n) ?_)
    simp [found]
  · intro updated y held
    obtain ⟨i, found⟩ := List.mem_iff_getElem?.1 held
    rw [List.getElem?_modify, Option.map_eq_map, Option.map_eq_some_iff] at found
    obtain ⟨x, before, rfl⟩ := found
    split_ifs with here
    · exact updated x (here ▸ before)
    · exact h x (List.mem_of_getElem? before)

end PeerLanding.NumberedLists
