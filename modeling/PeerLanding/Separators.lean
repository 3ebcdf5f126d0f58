import Mathlib.Data.List.Basic
import Mathlib.Data.List.DropRight

/-! Texts whose parts stand between separators: where a part ends, which texts begin alike, and
the words of a text as a split without a limit gives them. -/

namespace PeerLanding.Separators

variable {α : Type} {sep blank : α} {xs ys zs ws f g h w rest : List α}

theorem append_sep_inj (hx : sep ∉ xs) (hy : sep ∉ ys) :
    xs ++ sep :: zs = ys ++ sep :: ws ↔ xs = ys ∧ zs = ws := by
  induction xs generalizing ys with
  | nil =>
      cases ys with
      | nil => simp
      | cons y ys =>
          have other : sep ≠ y := fun same => hy (same ▸ List.mem_cons_self)
          simp [other]
  | cons x xs ih =>
      have hx' : sep ∉ xs := fun mem => hx (List.mem_cons_of_mem x mem)
      cases ys with
      | nil =>
          have other : x ≠ sep := fun same => hx (same ▸ List.mem_cons_self)
          simp [other]
      | cons y ys =>
          have hy' : sep ∉ ys := fun mem => hy (List.mem_cons_of_mem y mem)
          simp [ih hx' hy', and_assoc]

theorem append_sep_inj_right (hz : sep ∉ zs) (hw : sep ∉ ws) :
    xs ++ sep :: zs = ys ++ sep :: ws ↔ xs = ys ∧ zs = ws := by
  have turned : zs.reverse ++ sep :: xs.reverse = ws.reverse ++ sep :: ys.reverse ↔
      zs.reverse = ws.reverse ∧ xs.reverse = ys.reverse :=
    append_sep_inj (by simpa using hz) (by simpa using hw)
  rw [← List.reverse_inj]
  simpa [and_comm] using turned

theorem last_field_inj {key : List α} (hz : sep ∉ zs) (hw : sep ∉ ws) :
    xs ++ (key ++ sep :: zs) = ys ++ (key ++ sep :: ws) ↔ xs = ys ∧ zs = ws := by
  rw [← List.append_assoc, ← List.append_assoc, append_sep_inj_right hz hw,
    List.append_cancel_right_eq]

theorem prefix_append_cases (h : xs <+: ys ++ zs) : xs <+: ys ∨ ∃ d, xs = ys ++ d ∧ d <+: zs := by
  obtain inside | ⟨d, rfl⟩ := List.prefix_or_prefix_of_prefix h (List.prefix_append ys zs)
  · exact .inl inside
  · exact .inr ⟨d, rfl, (List.prefix_append_right_inj ys).1 h⟩

/-- What begins a word without separators followed by a blank, and has no blank itself, has no
separator. -/
theorem sep_not_mem_of_prefix (hblank : blank ∉ h) (hw : sep ∉ w)
    (hrest : rest = [] ∨ ∃ tail, rest = blank :: tail) (begins : h <+: w ++ rest) : sep ∉ h := by
  intro mem
  obtain inside | ⟨d, rfl, hd⟩ := prefix_append_cases begins
  · exact hw (inside.subset mem)
  · cases d with
    | nil => exact hw (by simpa using mem)
    | cons x d =>
        obtain rfl | ⟨tail, rfl⟩ := hrest
        · exact absurd hd (by simp)
        · obtain rfl := (List.cons_prefix_cons.1 hd).1
          exact hblank (by simp)

theorem prefix_of_word (hblank : blank ∉ f) (apart : blank ≠ sep) (hw : sep ∉ w)
    (hrest : rest = [] ∨ ∃ tail, rest = blank :: tail)
    (begins : f ++ [sep] <+: g ++ (w ++ rest)) : f ++ [sep] <+: g := by
  obtain inside | ⟨d, longer, hd⟩ := prefix_append_cases begins
  · exact inside
  · have silent : blank ∉ d := by
      intro mem
      have : blank ∈ f ++ [sep] := longer ▸ List.mem_append_right g mem
      simp [hblank, apart] at this
    have none := sep_not_mem_of_prefix silent hw hrest hd
    cases d using List.reverseRec with
    | nil => simp [longer]
    | append_singleton d x _ =>
        rw [← List.append_assoc] at longer
        have last := (List.append_inj' longer rfl).2
        simp only [List.cons.injEq, and_true] at last
        exact absurd (by simp [last]) none

/-- Two parts, each with its separator, begin two parts without separators only as these. -/
theorem two_parts_prefix [DecidableEq α] (hx : sep ∉ xs) (hy : sep ∉ ys) :
    zs ++ sep :: (ws ++ [sep]) <+: xs ++ sep :: (ys ++ [sep]) ↔ zs = xs ∧ ws = ys := by
  constructor
  · intro h
    have few := h.sublist.count_le sep
    have hz : sep ∉ zs := by
      rw [← List.count_eq_zero]
      simp [List.count_eq_zero_of_not_mem hx, List.count_eq_zero_of_not_mem hy] at few
      omega
    have hw : sep ∉ ws := by
      rw [← List.count_eq_zero]
      simp [List.count_eq_zero_of_not_mem hx, List.count_eq_zero_of_not_mem hy] at few
      omega
    obtain ⟨d, hd⟩ := h
    rw [List.append_assoc, List.cons_append, append_sep_inj hz hx, List.append_assoc,
      List.singleton_append, append_sep_inj hw hy] at hd
    exact ⟨hd.1, hd.2.1⟩
  · rintro ⟨rfl, rfl⟩
    exact List.prefix_refl _

/-- Split at the separators, without the empty parts at the end; a text without separators is
one part. -/
def parts [BEq α] [LawfulBEq α] (sep : α) (xs : List α) : List (List α) :=
  if xs.contains sep then (xs.splitOn sep).rdropWhile List.isEmpty else [xs]

theorem not_mem_of_mem_splitOn [DecidableEq α] (h : w ∈ xs.splitOn sep) : sep ∉ w := by
  rw [List.splitOn_eq_splitOnP] at h
  induction xs generalizing w with
  | nil =>
      obtain rfl : w = [] := by simpa using h
      exact List.not_mem_nil
  | cons x xs ih =>
      rw [List.splitOnP_cons_eq_if_modifyHead] at h
      split at h
      · obtain rfl | later := List.mem_cons.1 h
        · exact List.not_mem_nil
        · exact ih later
      · next other =>
          cases hp : xs.splitOnP (· == sep) with
          | nil => exact absurd hp (List.splitOnP_ne_nil _ _)
          | cons first others =>
              rw [hp, List.modifyHead_cons] at h
              rw [hp] at ih
              obtain rfl | later := List.mem_cons.1 h
              · have apart : sep ≠ x := fun same => other (beq_iff_eq.2 same.symm)
                exact fun mem => (List.mem_cons.1 mem).elim apart (ih List.mem_cons_self)
              · exact ih (List.mem_cons_of_mem first later)

theorem not_mem_of_mem_parts [DecidableEq α] (h : w ∈ parts sep xs) : sep ∉ w := by
  unfold parts at h
  split at h
  · exact not_mem_of_mem_splitOn ((List.rdropWhile_prefix _ _).subset h)
  · next free =>
      obtain rfl := List.mem_singleton.1 h
      simpa using free

end PeerLanding.Separators
