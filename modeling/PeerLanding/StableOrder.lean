import Mathlib.Data.List.Sort

/-! Lists put in the order of a total preorder, where elements that tie keep the order they come
in. There is one such list, and insertion sort computes it. -/

namespace PeerLanding.StableOrder

variable {α : Type} (r : α → α → Prop) [DecidableRel r]

def Tied (a b : α) : Prop := r a b ∧ r b a

instance (a b : α) : Decidable (Tied r a b) := inferInstanceAs (Decidable (_ ∧ _))

/-- The elements that tie with any one element are the same in both lists, in the same order. -/
def SameTies (xs ys : List α) : Prop :=
  ∀ a, (xs.filter fun b => Tied r a b) = ys.filter fun b => Tied r a b

variable {r} {xs ys zs : List α}

theorem SameTies.symm (h : SameTies r xs ys) : SameTies r ys xs := fun a => (h a).symm

theorem SameTies.trans (h : SameTies r xs ys) (g : SameTies r ys zs) : SameTies r xs zs :=
  fun a => (h a).trans (g a)

section Total

variable [Std.Total r]

omit [DecidableRel r] in
theorem tied_self (a : α) : Tied r a a := by
  cases Std.Total.total (r := r) a a with
  | inl h => exact ⟨h, h⟩
  | inr h => exact ⟨h, h⟩

theorem mem_filter_tied {a : α} : (a ∈ xs.filter fun b => Tied r a b) ↔ a ∈ xs := by
  simp [tied_self]

theorem SameTies.mem_iff (h : SameTies r xs ys) {a : α} : a ∈ xs ↔ a ∈ ys := by
  rw [← mem_filter_tied (r := r), h a, mem_filter_tied]

theorem SameTies.perm (h : SameTies r xs ys) : xs.Perm ys := by
  classical
  rw [List.perm_iff_count]
  intro a
  have counted : ∀ zs : List α, (zs.filter fun b => Tied r a b).count a = zs.count a :=
    fun zs => List.count_filter (by simpa using tied_self a)
  rw [← counted xs, h a, counted ys]

omit [Std.Total r] in
theorem SameTies.of_cons {x : α} (h : SameTies r (x :: xs) (x :: ys)) : SameTies r xs ys := by
  intro a
  have both := h a
  by_cases tie : Tied r a x
  · simpa [tie] using both
  · simpa [tie] using both

/-- Two lists in order are one list if they agree at each tie. -/
theorem SameTies.eq_of_pairwise (h : SameTies r xs ys) (sorted : xs.Pairwise r)
    (sorted' : ys.Pairwise r) : xs = ys := by
  induction xs generalizing ys with
  | nil => exact h.perm.nil_eq
  | cons x xs ih =>
      cases ys with
      | nil => exact h.perm.eq_nil
      | cons y ys =>
          have below : ∀ z ∈ x :: xs, r x z := by
            intro z hz
            cases List.mem_cons.1 hz with
            | inl same =>
                rw [same]
                exact (tied_self x).1
            | inr later => exact List.rel_of_pairwise_cons sorted later
          have below' : ∀ z ∈ y :: ys, r y z := by
            intro z hz
            cases List.mem_cons.1 hz with
            | inl same =>
                rw [same]
                exact (tied_self y).1
            | inr later => exact List.rel_of_pairwise_cons sorted' later
          -- each head is below the other, so both lead the elements tied with `x`
          have tie : Tied r x y :=
            ⟨below y (h.mem_iff.2 List.mem_cons_self), below' x (h.mem_iff.1 List.mem_cons_self)⟩
          have heads := h x
          rw [List.filter_cons_of_pos (by simpa using tied_self x),
            List.filter_cons_of_pos (by simpa using tie)] at heads
          obtain rfl : x = y := (List.cons.inj heads).1
          rw [ih h.of_cons sorted.of_cons sorted'.of_cons]

variable [IsTrans α r]

omit [Std.Total r] in
theorem pairwise_filter_tied (a : α) (xs : List α) :
    (xs.filter fun b => Tied r a b).Pairwise r := by
  rw [List.pairwise_iff_forall_sublist]
  intro x y hxy
  have first := List.of_mem_filter (hxy.subset (List.mem_cons_self : x ∈ [x, y]))
  have second := List.of_mem_filter (hxy.subset (List.mem_cons_of_mem x List.mem_cons_self))
  simp only [decide_eq_true_eq] at first second
  exact IsTrans.trans _ _ _ first.2 second.1

omit [Std.Total r] in
theorem sameTies_insertionSort (xs : List α) : SameTies r (xs.insertionSort r) xs := by
  intro a
  have kept : (xs.filter fun b => Tied r a b).Sublist (xs.insertionSort r) :=
    List.sublist_insertionSort (pairwise_filter_tied a xs) List.filter_sublist
  have among := kept.filter fun b => decide (Tied r a b)
  simp only [List.filter_filter, Bool.and_self] at among
  have many : ((xs.insertionSort r).filter fun b => Tied r a b).length =
      (xs.filter fun b => Tied r a b).length :=
    ((List.perm_insertionSort r xs).filter _).length_eq
  exact (among.eq_of_length many.symm).symm

theorem SameTies.insertionSort_eq (h : SameTies r xs ys) :
    xs.insertionSort r = ys.insertionSort r := by
  have agree := ((sameTies_insertionSort xs).trans h).trans (sameTies_insertionSort ys).symm
  exact agree.eq_of_pairwise (List.pairwise_insertionSort r xs) (List.pairwise_insertionSort r ys)

end Total

/-! ### The sort with positions beside the elements -/

section Positions

variable (r) in
/-- The elements in order, each with the position it came from, counted from `m`. -/
def indexed (xs : List α) (m : Nat) : List (α × Nat) :=
  (xs.zipIdx m).insertionSort fun a b => r a.1 b.1

theorem map_fst_indexed (xs : List α) (m : Nat) :
    (indexed r xs m).map Prod.fst = xs.insertionSort r := by
  have sorted := List.map_insertionSort (fun a b : α × Nat => r a.1 b.1) r Prod.fst (xs.zipIdx m)
    fun _ _ _ _ => Iff.rfl
  rw [indexed, sorted, List.zipIdx_map_fst]

/-- The position beside an element is one where the element was. -/
theorem mem_indexed {xs : List α} {x : α} {i : Nat} (h : (x, i) ∈ indexed r xs 0) :
    xs[i]? = some x := by
  rw [indexed, List.mem_insertionSort] at h
  exact List.mk_mem_zipIdx_iff_getElem?.1 h

/-- The head of a list comes first if an equal element does. -/
theorem insertionSort_cons_of_head [Std.Total r] {x : α}
    (h : ((x :: xs).insertionSort r).head? = some x) :
    (x :: xs).insertionSort r = x :: xs.insertionSort r ∧
      ∀ y ∈ (xs.insertionSort r).head?, r x y := by
  rw [List.insertionSort_cons] at h ⊢
  cases sorted : xs.insertionSort r with
  | nil => exact ⟨rfl, by simp⟩
  | cons y ys =>
      have below : r x y := by
        by_contra above
        rw [sorted, List.orderedInsert_cons, if_neg above, List.head?_cons,
          Option.some.injEq] at h
        exact above (h ▸ (tied_self y).1)
      refine ⟨by rw [List.orderedInsert_cons, if_pos below], ?_⟩
      simpa using below

/-- Elements that lead both the list and the sorted list are in their places. -/
theorem map_snd_indexed_take [Std.Total r] (m : Nat) (h : ys <+: xs)
    (sorted : ys <+: xs.insertionSort r) :
    ((indexed r xs m).take ys.length).map Prod.snd = List.range' m ys.length := by
  induction ys generalizing xs m with
  | nil => rfl
  | cons y ys ih =>
      obtain ⟨rest, rfl⟩ : ∃ rest, xs = y :: rest := by
        obtain ⟨u, rfl⟩ := h
        exact ⟨ys ++ u, rfl⟩
      obtain ⟨u, hu⟩ := sorted
      have leads : ((y :: rest).insertionSort r).head? = some y := by
        rw [← hu, List.cons_append, List.head?_cons]
      obtain ⟨first, below⟩ := insertionSort_cons_of_head leads
      have tail : ys <+: rest.insertionSort r := by
        rw [first, List.cons_append, List.cons.injEq] at hu
        exact ⟨u, hu.2⟩
      -- the pairs compare as their elements, so `y` stays ahead of them too
      have ahead : indexed r (y :: rest) m = (y, m) :: indexed r rest (m + 1) := by
        rw [← map_fst_indexed rest (m + 1), List.head?_map] at below
        rw [indexed, List.zipIdx_cons, List.insertionSort_cons, ← indexed]
        cases pairs : indexed r rest (m + 1) with
        | nil => rfl
        | cons p ps =>
            rw [pairs, List.head?_cons, Option.map_some] at below
            exact List.orderedInsert_cons_of_le _ _ (below p.1 rfl)
      rw [ahead, List.length_cons, List.take_succ_cons, List.map_cons, List.range'_succ,
        ih (m + 1) ((List.prefix_cons_inj y).1 h) tail]

end Positions

end PeerLanding.StableOrder
