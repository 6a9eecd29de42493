import Mathlib.Data.List.Basic

namespace Lib

variable {α β : Type}

/-- The items whose position, counted from `start`, is `turn` modulo `size`. -/
def strideFrom (size turn : Nat) : Nat → List α → List α
  | _, [] => []
  | start, item :: rest =>
    if start % size = turn then item :: strideFrom size turn (start + 1) rest else strideFrom size turn (start + 1) rest

/-- `items[turn::size]`. -/
def stride (size turn : Nat) (items : List α) : List α := strideFrom size turn 0 items

@[simp] theorem stride_nil (size turn : Nat) : stride size turn ([] : List α) = [] := rfl

theorem strideFrom_append (size turn start : Nat) (left right : List α) :
    strideFrom size turn start (left ++ right) =
      strideFrom size turn start left ++ strideFrom size turn (start + left.length) right := by
  induction left generalizing start with
  | nil => simp [strideFrom]
  | cons item rest ih =>
    have next : start + (item :: rest).length = start + 1 + rest.length := by
      rw [List.length_cons]
      omega
    rw [List.cons_append, next]
    by_cases mine : start % size = turn
    · simp only [strideFrom, if_pos mine, ih, List.cons_append]
    · simp only [strideFrom, if_neg mine, ih]

/-- A new last item joins the stride whose turn it is. -/
theorem stride_concat (size turn : Nat) (items : List α) (item : α) :
    stride size turn (items ++ [item]) =
      stride size turn items ++ if items.length % size = turn then [item] else [] := by
  rw [stride, strideFrom_append, Nat.zero_add]
  rfl

theorem map_strideFrom (f : α → β) (size turn start : Nat) (items : List α) :
    strideFrom size turn start (items.map f) = (strideFrom size turn start items).map f := by
  induction items generalizing start with
  | nil => rfl
  | cons item rest ih =>
    by_cases mine : start % size = turn
    · simp only [List.map_cons, strideFrom, if_pos mine, ih]
    · simp only [List.map_cons, strideFrom, if_neg mine, ih]

theorem strideFrom_sublist (size turn start : Nat) (items : List α) :
    (strideFrom size turn start items).Sublist items := by
  induction items generalizing start with
  | nil => exact .slnil
  | cons item rest ih =>
    by_cases mine : start % size = turn
    · rw [strideFrom, if_pos mine]
      exact (ih (start + 1)).cons_cons item
    · rw [strideFrom, if_neg mine]
      exact (ih (start + 1)).cons item

/-- Dealt out in turns, every item is in one hand. -/
theorem strides_perm {size : Nat} (positive : 0 < size) (start : Nat) (items : List α) :
    ((List.range size).flatMap fun turn => strideFrom size turn start items).Perm items := by
  induction items generalizing start with
  | nil => simp [strideFrom]
  | cons item rest ih =>
    have turns := (ih (start + 1)).cons item
    refine List.Perm.trans ?_ turns
    obtain ⟨before, after, split, fresh⟩ : ∃ before after, List.range size = before ++ start % size :: after ∧
        start % size ∉ before ++ after := by
      obtain ⟨before, after, split⟩ := List.append_of_mem (List.mem_range.mpr (Nat.mod_lt start positive))
      have distinct : (before ++ start % size :: after).Nodup := split ▸ List.nodup_range
      exact ⟨before, after, split, (List.nodup_cons.mp (List.perm_middle.nodup_iff.mp distinct)).1⟩
    have same (turns : List Nat) (outside : start % size ∉ turns) :
        (turns.flatMap fun turn => strideFrom size turn start (item :: rest)) =
          turns.flatMap fun turn => strideFrom size turn (start + 1) rest := by
      refine List.flatMap_congr fun turn listed => ?_
      have other : start % size ≠ turn := fun hit => outside (hit ▸ listed)
      rw [strideFrom, if_neg other]
    rw [List.mem_append, not_or] at fresh
    rw [split, List.flatMap_append, List.flatMap_append, List.flatMap_cons, List.flatMap_cons, same before fresh.1,
      same after fresh.2, strideFrom, if_pos rfl, List.cons_append]
    exact List.perm_middle

end Lib
