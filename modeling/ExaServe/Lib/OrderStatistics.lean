import Mathlib.Data.List.Sort
import Mathlib.Algebra.BigOperators.Group.List.Basic
import Mathlib.Algebra.GroupWithZero.Nat

namespace Lib

variable {α : Type} [LinearOrder α]

/-- In a sorted list an item is at most a bound exactly if fewer items than are at most the
    bound stand before it. -/
theorem sorted_le_iff {items : List α} (sorted : items.Pairwise (· ≤ ·)) {index : Nat} {item : α}
    (here : items[index]? = some item) (bound : α) : item ≤ bound ↔ index < items.countP (· ≤ bound) := by
  induction items generalizing index with
  | nil => simp at here
  | cons first rest ih =>
    have tail := List.pairwise_cons.mp sorted
    have none_below : ¬ first ≤ bound → rest.countP (· ≤ bound) = 0 := by
      intro above
      rw [List.countP_eq_zero]
      intro other member below
      exact above ((tail.1 other member).trans (of_decide_eq_true below))
    cases index with
    | zero =>
      rw [List.getElem?_cons_zero, Option.some.injEq] at here
      subst here
      by_cases below : first ≤ bound
      · simp [below]
      · simp [below, none_below below]
    | succ index =>
      rw [List.getElem?_cons_succ] at here
      by_cases below : first ≤ bound
      · rw [ih tail.2 here, List.countP_cons_of_pos (by simpa using below)]
        omega
      · have above : ¬ item ≤ bound := fun under => below ((tail.1 item (List.mem_of_getElem? here)).trans under)
        rw [List.countP_cons_of_neg (by simpa using below), none_below below]
        exact iff_of_false above (by omega)

section Counts

variable {β : Type} (place : β → Nat) (size : Nat) (items : List β)

/-- How many items have each place below a size. -/
def placeCounts : List Nat := (List.range size).map fun j => items.countP fun item => place item = j

variable {place size items}

@[simp] theorem placeCounts_length : (placeCounts place size items).length = size := by
  simp [placeCounts]

theorem placeCounts_nil : placeCounts place size [] = List.replicate size 0 := by
  rw [List.eq_replicate_iff]
  simp [placeCounts]

theorem placeCounts_append (left right : List β) : placeCounts place size (left ++ right) =
    List.zipWith (· + ·) (placeCounts place size left) (placeCounts place size right) := by
  apply List.ext_getElem
  · simp
  · intro j _ _
    simp [placeCounts, List.countP_append]

theorem placeCounts_concat (item : β) : placeCounts place size (items ++ [item]) =
    (placeCounts place size items).modify (place item) (· + 1) := by
  apply List.ext_getElem
  · simp
  · intro j _ _
    by_cases same : place item = j
    · simp [placeCounts, List.countP_append, same]
    · simp [placeCounts, List.countP_append, same]

theorem placeCounts_perm {others : List β} (same : items.Perm others) :
    placeCounts place size items = placeCounts place size others := by
  unfold placeCounts
  congr 1
  funext j
  exact same.countP_eq _

/-- The counts up to a place. -/
theorem placeCounts_take {j : Nat} (below : j ≤ size) :
    ((placeCounts place size items).take j).sum = items.countP fun item => place item < j := by
  induction j with
  | zero => simp
  | succ j ih =>
    have inside : j < (placeCounts place size items).length := by rw [placeCounts_length]; omega
    have split : items.countP (fun item => place item < j + 1) =
        items.countP (fun item => place item < j) + items.countP fun item => place item = j := by
      clear ih inside
      induction items with
      | nil => rfl
      | cons item rest ih =>
        simp only [List.countP_cons, ih]
        rcases Nat.lt_trichotomy (place item) j with under | same | over_
        · simp [under, Nat.lt_succ_of_lt under, Nat.ne_of_lt under]
          omega
        · simp [same]
          omega
        · simp [Nat.not_lt_of_gt over_, Nat.ne_of_gt over_, Nat.not_lt_of_ge over_]
    rw [List.take_succ_eq_append_getElem inside, List.sum_append, ih (by omega), List.sum_singleton, split]
    simp [placeCounts]

end Counts

end Lib
