import Mathlib.Algebra.BigOperators.Group.List.Basic
import Mathlib.Algebra.Order.Ring.Int

/-! Sums of 32-bit integers that wrap around, and the unbounded sum behind them. -/

namespace PeerLanding.WrapSum

def exactSum (xs : List Int32) : Int := (xs.map Int32.toInt).sum

@[simp] theorem exactSum_nil : exactSum [] = 0 := rfl

@[simp] theorem exactSum_cons (x : Int32) (xs : List Int32) :
    exactSum (x :: xs) = x.toInt + exactSum xs := by simp [exactSum]

@[simp] theorem exactSum_append (xs ys : List Int32) :
    exactSum (xs ++ ys) = exactSum xs + exactSum ys := by simp [exactSum]

theorem toInt_foldl_add (xs : List Int32) (a : Int32) :
    (xs.foldl (· + ·) a).toInt = (a.toInt + exactSum xs).bmod (2 ^ 32) := by
  induction xs generalizing a with
  | nil => simp
  | cons x xs ih =>
      rw [List.foldl_cons, ih, Int32.toInt_add, Int.bmod_add_bmod, exactSum_cons, Int.add_assoc]

theorem toInt_sum (xs : List Int32) :
    (xs.foldl (· + ·) 0).toInt = (exactSum xs).bmod (2 ^ 32) := by
  simpa using toInt_foldl_add xs 0

/-- `S` lies in a copy, shifted by a multiple of `2^32`, of the part of the
32-bit range that is on the same side of `M` as `S` is. -/
def SameSide (M S : Int) : Prop :=
  (M ≤ S → ∃ k : Int, M + k * 2 ^ 32 ≤ S ∧ S < 2 ^ 31 + k * 2 ^ 32) ∧
    (S < M → ∃ k : Int, -2 ^ 31 + k * 2 ^ 32 ≤ S ∧ S < M + k * 2 ^ 32)

theorem bmod_window (S : Int) :
    ∃ k : Int, S.bmod (2 ^ 32) = S - k * 2 ^ 32 ∧
      -2 ^ 31 ≤ S - k * 2 ^ 32 ∧ S - k * 2 ^ 32 < 2 ^ 31 := by
  have lower : -2 ^ 31 ≤ S.bmod (2 ^ 32) := by
    have := Int.le_bmod (x := S) (m := 2 ^ 32) (by decide)
    omega
  have upper : S.bmod (2 ^ 32) < 2 ^ 31 := by
    have := Int.bmod_lt (x := S) (m := 2 ^ 32) (by decide)
    omega
  obtain ⟨k, hk⟩ : ((2 ^ 32 : Nat) : Int) ∣ S - S.bmod (2 ^ 32) := Int.dvd_self_sub_bmod
  refine ⟨k, ?_, ?_, ?_⟩ <;> omega

/-- Comparing the wrapped sum with `M` gives the right answer exactly when the
unbounded sum is on the same side. -/
theorem le_bmod_iff {M S : Int} (lower : -2 ^ 31 ≤ M) (upper : M < 2 ^ 31) :
    (M ≤ S.bmod (2 ^ 32) ↔ M ≤ S) ↔ SameSide M S := by
  obtain ⟨k, hk, hlow, hup⟩ := bmod_window S
  rw [hk]
  refine ⟨?_, ?_⟩
  · intro agree
    exact ⟨fun h => ⟨k, by have := agree.2 h; omega, by omega⟩,
      fun h => ⟨k, by omega, by by_contra hc; exact absurd (agree.1 (by omega)) (by omega)⟩⟩
  · rintro ⟨above, below⟩
    refine ⟨?_, ?_⟩
    · intro h
      by_contra hc
      obtain ⟨j, hj, hj'⟩ := below (by omega)
      omega
    · intro h
      obtain ⟨j, hj, hj'⟩ := above h
      omega

end PeerLanding.WrapSum
