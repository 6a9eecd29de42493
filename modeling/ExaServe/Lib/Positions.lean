import Mathlib.Data.List.Basic
import Mathlib.Data.List.Nodup

namespace Lib

variable {α β : Type}

theorem filter_eq_singleton {items : List α} {p : α → Bool} {item : α}
    (apart : items.Pairwise fun left right => ¬ (p left = true ∧ p right = true))
    (member : item ∈ items) (holds : p item = true) : items.filter p = [item] := by
  induction items with
  | nil => cases member
  | cons head rest ih =>
    obtain ⟨first, others⟩ := List.pairwise_cons.mp apart
    rcases List.mem_cons.mp member with rfl | later
    · rw [List.filter_cons_of_pos holds, List.filter_eq_nil_iff.mpr fun other inside both =>
        first other inside ⟨holds, both⟩]
    · rw [List.filter_cons_of_neg fun also => first item later ⟨also, holds⟩]
      exact ih others later

/-- An item is the only one under its key when keys are distinct. -/
theorem filter_key {items : List α} {key : α → β} [DecidableEq β] (distinct : (items.map key).Nodup) {item : α}
    (member : item ∈ items) : (items.filter fun other => key other = key item) = [item] := by
  refine filter_eq_singleton ?_ member (by simp)
  refine (List.pairwise_map.mp distinct).imp ?_
  intro left right different both
  simp only [decide_eq_true_eq] at both
  exact different (both.1.trans both.2.symm)

theorem find?_key {items : List α} {key : α → β} [DecidableEq β] (distinct : (items.map key).Nodup) {item : α}
    (member : item ∈ items) : (items.find? fun other => key other = key item) = some item := by
  rw [← List.head?_filter, filter_key distinct member]
  rfl

theorem range_mul (rows columns : Nat) : List.range (columns * rows) =
    (List.range rows).flatMap fun row => (List.range columns).map fun column => columns * row + column := by
  induction rows with
  | zero => simp
  | succ rows ih =>
    rw [Nat.mul_succ, List.range_add, ih, List.range_succ, List.flatMap_append]
    simp

theorem eq_map_range (items : List α) (default : α) :
    items = (List.range items.length).map fun index => items.getD index default := by
  refine List.ext_getElem (by simp) ?_
  intro index below _
  simp [below]

theorem zipIdx_eq_map_range (items : List α) (default : α) :
    items.zipIdx = (List.range items.length).map fun index => (items.getD index default, index) := by
  refine List.ext_getElem (by simp) ?_
  intro index below _
  rw [List.length_zipIdx] at below
  simp [below]

end Lib
