import Mathlib.Data.List.Basic

namespace Lib

variable {α : Type}

/-- The first `n` slices of a given size. -/
def chunksOf (size : Nat) : Nat → List α → List (List α)
  | 0, _ => []
  | n + 1, items => items.take size :: chunksOf size n (items.drop size)

/-- The slices `items[i : i + size]` for `i` in `range(0, len(items), size)`. -/
def slices (size : Nat) (items : List α) : List (List α) :=
  chunksOf size ((items.length + size - 1) / size) items

theorem flatten_chunksOf {size n : Nat} {items : List α} (enough : items.length ≤ n * size) :
    (chunksOf size n items).flatten = items := by
  induction n generalizing items with
  | zero =>
    have empty : items = [] := List.length_eq_zero_iff.mp (by omega)
    simp [chunksOf, empty]
  | succ n ih =>
    have rest : (items.drop size).length ≤ n * size := by
      rw [List.length_drop]
      rw [Nat.succ_mul] at enough
      omega
    rw [chunksOf, List.flatten_cons, ih rest, List.take_append_drop]

theorem flatten_slices {size : Nat} (positive : 0 < size) (items : List α) :
    (slices size items).flatten = items := by
  apply flatten_chunksOf
  have division := Nat.div_add_mod (items.length + size - 1) size
  have remainder := Nat.mod_lt (items.length + size - 1) positive
  rw [Nat.mul_comm] at division
  omega

theorem chunksOf_nonempty {size n : Nat} (positive : 0 < size) {items : List α}
    (reaches : n * size < items.length + size) : ∀ chunk ∈ chunksOf size n items, chunk ≠ [] := by
  induction n generalizing items with
  | zero => simp [chunksOf]
  | succ n ih =>
    rw [Nat.succ_mul] at reaches
    intro chunk member
    rcases List.mem_cons.mp member with rfl | later
    · intro empty
      have := congrArg List.length empty
      rw [List.length_take, List.length_nil] at this
      omega
    · refine ih ?_ chunk later
      rw [List.length_drop]
      omega

theorem slices_nonempty {size : Nat} (positive : 0 < size) (items : List α) :
    ∀ chunk ∈ slices size items, chunk ≠ [] := by
  apply chunksOf_nonempty positive
  have bound := Nat.div_mul_le_self (items.length + size - 1) size
  omega

@[simp] theorem slices_nil {size : Nat} : slices size ([] : List α) = [] := by
  rcases Nat.eq_zero_or_pos size with rfl | positive
  · simp [slices, chunksOf]
  · have none : (0 + size - 1) / size = 0 := Nat.div_eq_of_lt (by omega)
    rw [slices, List.length_nil, none, chunksOf]

theorem slices_of_ne_nil {size : Nat} (positive : 0 < size) {items : List α} (nonempty : items ≠ []) :
    slices size items = items.take size :: slices size (items.drop size) := by
  have some : 0 < items.length := List.length_pos_iff.mpr nonempty
  have count : (items.length + size - 1) / size = (items.length - size + size - 1) / size + 1 := by
    rcases Nat.lt_or_ge items.length size with short | long
    · rw [Nat.div_eq_of_lt (show items.length - size + size - 1 < size by omega),
        show items.length + size - 1 = items.length - 1 + size by omega, Nat.add_div_right _ positive,
        Nat.div_eq_of_lt (by omega)]
    · rw [← Nat.add_div_right _ positive]
      exact congrArg (· / size) (by omega)
  rw [slices, slices, List.length_drop, count, chunksOf]

end Lib
