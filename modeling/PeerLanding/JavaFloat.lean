import Mathlib.Algebra.Field.Rat
import Mathlib.Algebra.Order.Ring.Rat
import Mathlib.Data.Nat.Log

/-! The operations of Java's `float` that a program uses, as an interface with
two instances: IEEE 754 binary32 values, and exact rationals with an arbitrary
positive `Float.MIN_VALUE`. Magnitudes are integers in units of the smallest
subnormal `2^-149`, so every rounding below is a rounding of a natural number. -/

namespace PeerLanding

/-- The `float` operations in use, with the laws that NaN obeys too. `lt` is `<`,
`compare` is `Float.compare`, `max` is `Float.max`, `mul110 x` is `(float) (x * 1.10)`. -/
class JavaFloat (R : Type) where
  zero : R
  minValue : R
  lt : R → R → Bool
  compare : R → R → Ordering
  max : R → R → R
  mul110 : R → R
  isFinite : R → Bool
  compare_total : ∀ a b, compare a b ≠ .gt ∨ compare b a ≠ .gt
  compare_trans : ∀ a b c, compare a b ≠ .gt → compare b c ≠ .gt → compare a c ≠ .gt
  compare_antisymm : ∀ a b, compare a b ≠ .gt → compare b a ≠ .gt → a = b
  lt_irrefl : ∀ a, lt a a = false
  max_choice : ∀ a b, max a b = a ∨ max a b = b
  le_max_left : ∀ a b, compare a (max a b) ≠ .gt
  le_max_right : ∀ a b, compare b (max a b) ≠ .gt
  isFinite_zero : isFinite zero = true
  isFinite_minValue : isFinite minValue = true

namespace JavaFloat

variable {R : Type} [JavaFloat R]

abbrev NotAfter (a b : R) : Prop := compare a b ≠ .gt

theorem foldl_max_mem (xs : List R) (a : R) : xs.foldl max a = a ∨ xs.foldl max a ∈ xs := by
  induction xs generalizing a with
  | nil => exact .inl rfl
  | cons x xs ih =>
      rw [List.foldl_cons, List.mem_cons]
      cases ih (max a x) with
      | inr later => exact .inr (.inr later)
      | inl here =>
          rw [here]
          cases max_choice a x with
          | inl old => exact .inl old
          | inr new => exact .inr (.inl new)

theorem le_foldl_max (xs : List R) (a : R) :
    NotAfter a (xs.foldl max a) ∧ ∀ x ∈ xs, NotAfter x (xs.foldl max a) := by
  induction xs generalizing a with
  | nil =>
      refine ⟨?_, fun x hx => by cases hx⟩
      cases compare_total a a with
      | inl refl => exact refl
      | inr refl => exact refl
  | cons x xs ih =>
      rw [List.foldl_cons]
      obtain ⟨start, rest⟩ := ih (max a x)
      refine ⟨compare_trans _ _ _ (le_max_left a x) start, ?_⟩
      intro y hy
      cases List.mem_cons.1 hy with
      | inl new =>
          rw [new]
          exact compare_trans _ _ _ (le_max_right a x) start
      | inr later => exact rest y later

theorem foldl_max_le {xs ys : List R} (h : ∀ x ∈ xs, x ∈ ys) (a : R) :
    NotAfter (xs.foldl max a) (ys.foldl max a) := by
  have bound := le_foldl_max ys a
  cases foldl_max_mem xs a with
  | inl start =>
      rw [start]
      exact bound.1
  | inr found => exact bound.2 _ (h _ found)

theorem foldl_max_congr {xs ys : List R} (h : ∀ x, x ∈ xs ↔ x ∈ ys) (a : R) :
    xs.foldl max a = ys.foldl max a :=
  compare_antisymm _ _ (foldl_max_le (fun x hx => (h x).1 hx) a)
    (foldl_max_le (fun x hx => (h x).2 hx) a)

end JavaFloat

/-- Magnitude of the infinities, the only magnitude that is not finite. -/
abbrev infMagnitude : Nat := 0x7F800000

/-- A binary32 value: sign and magnitude field, with one value for all NaNs. -/
inductive Binary32 where
  | nan
  | num (neg : Bool) (mag : Fin (infMagnitude + 1))
  deriving DecidableEq

namespace Binary32

def units (mag : Nat) : Nat :=
  if mag < 2 ^ 23 then mag else (2 ^ 23 + mag % 2 ^ 23) * 2 ^ (mag / 2 ^ 23 - 1)

/-- `n / d` to the nearest integer, ties to even. -/
def rne (n d : Nat) : Nat :=
  if d < 2 * (n % d) ∨ (2 * (n % d) = d ∧ n / d % 2 = 1) then n / d + 1 else n / d

/-- `n` to `p` significant bits, exponent unbounded. -/
def roundBits (p n : Nat) : Nat :=
  rne n (2 ^ (n.log2 + 1 - p)) * 2 ^ (n.log2 + 1 - p)

/-- The magnitude field nearest to `n / 2^frac` units; overflow goes to infinity. -/
def toMagnitude (n frac : Nat) : Nat :=
  let e := n.log2 + 1 - (24 + frac)
  min infMagnitude (e * 2 ^ 23 + rne n (2 ^ (e + frac)))

/-- Significand of the double nearest to `1.10`, which is this times `2^-52`. -/
def literal110 : Nat := 4953959590107546

/-- The product is rounded to a double first and narrowed to a float afterwards. -/
def mul110Magnitude (mag : Nat) : Nat :=
  if mag < infMagnitude then toMagnitude (roundBits 53 (units mag * literal110)) 52
  else infMagnitude

theorem mul110Magnitude_lt (mag : Nat) : mul110Magnitude mag < infMagnitude + 1 := by
  unfold mul110Magnitude toMagnitude
  split
  · exact Nat.lt_succ_of_le (min_le_left _ _)
  · exact Nat.lt_succ_self _

def mul110 : Binary32 → Binary32
  | nan => nan
  | num neg mag => num neg ⟨mul110Magnitude mag, mul110Magnitude_lt mag⟩

def intBitsToFloat (bits : Nat) : Binary32 :=
  if h : bits % 2 ^ 31 < infMagnitude + 1 then num (decide (2 ^ 31 ≤ bits)) ⟨bits % 2 ^ 31, h⟩
  else nan

def zero : Binary32 := num false 0

/-- `Float.MIN_VALUE`: the smallest positive value, not the smallest value. -/
def minValue : Binary32 := num false 1

def signed (neg : Bool) (mag : Nat) : Int := if neg then -(mag : Int) else mag

def lt : Binary32 → Binary32 → Bool
  | num n m, num n' m' => decide (signed n m < signed n' m')
  | _, _ => false

/-- Position in the total order of `Float.compare`: `-0.0` before `0.0`, NaN last. -/
def rank : Binary32 → Int
  | nan => infMagnitude + 1
  | num true m => -(m.val : Int) - 1
  | num false m => m.val

def max : Binary32 → Binary32 → Binary32
  | nan, _ => nan
  | _, nan => nan
  | a, b => if rank b ≤ rank a then a else b

def isFinite : Binary32 → Bool
  | nan => false
  | num _ m => decide (m.val < infMagnitude)

theorem max_choice (a b : Binary32) : max a b = a ∨ max a b = b := by
  unfold max
  split
  · exact .inl rfl
  · exact .inr rfl
  · split
    · exact .inl rfl
    · exact .inr rfl

theorem rank_injective : Function.Injective rank := by
  intro a b h
  cases a with
  | nan =>
      cases b with
      | nan => rfl
      | num n m => cases n <;> simp only [rank] at h <;> omega
  | num n m =>
      cases b with
      | nan => cases n <;> simp only [rank] at h <;> omega
      | num n' m' =>
          cases n <;> cases n' <;> simp only [rank] at h <;> try omega
          · rw [Fin.ext (show m.val = m'.val by omega)]
          · rw [Fin.ext (show m.val = m'.val by omega)]

theorem rank_le_rank_nan (a : Binary32) : rank a ≤ rank nan := by
  cases a with
  | nan => rfl
  | num n m => cases n <;> simp only [rank] <;> omega

theorem rank_max (a b : Binary32) : rank (max a b) = Max.max (rank a) (rank b) := by
  unfold max
  split
  · rw [max_eq_left (rank_le_rank_nan b)]
  · rw [max_eq_right (rank_le_rank_nan a)]
  · split
    · next le => rw [max_eq_left le]
    · next gt => rw [max_eq_right (le_of_lt (not_le.1 gt))]

instance : JavaFloat Binary32 where
  zero := zero
  minValue := minValue
  lt := lt
  compare a b := Ord.compare (rank a) (rank b)
  max := max
  mul110 := mul110
  isFinite := isFinite
  compare_total a b := by
    rw [ne_eq, ne_eq, compare_gt_iff_gt, compare_gt_iff_gt]
    omega
  compare_trans a b c := by
    simp only [ne_eq, compare_gt_iff_gt]
    omega
  compare_antisymm a b := by
    simp only [ne_eq, compare_gt_iff_gt, not_lt]
    exact fun h h' => rank_injective (le_antisymm h h')
  lt_irrefl a := by cases a <;> simp [lt]
  max_choice := max_choice
  le_max_left a b := by
    rw [ne_eq, compare_gt_iff_gt, not_lt, rank_max]
    exact le_max_left _ _
  le_max_right a b := by
    rw [ne_eq, compare_gt_iff_gt, not_lt, rank_max]
    exact le_max_right _ _
  isFinite_zero := by decide
  isFinite_minValue := by decide

end Binary32

/-- Exact rationals in the place of floats, with `ε` for `Float.MIN_VALUE`. -/
def Exact (_ε : {q : ℚ // 0 < q}) : Type := ℚ

namespace Exact

variable {ε : {q : ℚ // 0 < q}}

instance : LinearOrder (Exact ε) := inferInstanceAs (LinearOrder ℚ)
instance : Field (Exact ε) := inferInstanceAs (Field ℚ)
instance : IsStrictOrderedRing (Exact ε) := inferInstanceAs (IsStrictOrderedRing ℚ)

def ofRat (q : ℚ) : Exact ε := q

def aumento : Exact ε := ofRat (11 / 10)

instance : JavaFloat (Exact ε) where
  zero := 0
  minValue := ε.val
  lt a b := decide (a < b)
  compare a b := Ord.compare a b
  max := Max.max
  mul110 a := a * aumento
  isFinite _ := true
  compare_total a b := by
    rw [ne_eq, ne_eq, compare_gt_iff_gt, compare_gt_iff_gt, not_lt, not_lt]
    exact le_total a b
  compare_trans a b c := by
    simp only [ne_eq, compare_gt_iff_gt, not_lt]
    exact le_trans
  compare_antisymm a b := by
    simp only [ne_eq, compare_gt_iff_gt, not_lt]
    exact le_antisymm
  lt_irrefl a := by simp
  max_choice := max_choice
  le_max_left a b := by
    rw [ne_eq, compare_gt_iff_gt, not_lt]
    exact le_max_left a b
  le_max_right a b := by
    rw [ne_eq, compare_gt_iff_gt, not_lt]
    exact le_max_right a b
  isFinite_zero := rfl
  isFinite_minValue := rfl

@[simp] theorem isFinite_eq (a : Exact ε) : JavaFloat.isFinite a = true := rfl

@[simp] theorem mul110_eq (a : Exact ε) : JavaFloat.mul110 a = a * aumento := rfl

theorem aumento_pos : (0 : Exact ε) < aumento := by
  change (0 : ℚ) < 11 / 10
  decide +kernel

theorem notAfter_iff (a b : Exact ε) : JavaFloat.NotAfter a b ↔ a ≤ b := by
  change Ord.compare a b ≠ .gt ↔ a ≤ b
  rw [ne_eq, compare_gt_iff_gt, not_lt]

end Exact

end PeerLanding
