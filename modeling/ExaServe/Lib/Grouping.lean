import ExaServe.Lib.Dict
import Mathlib.Data.List.Induction

namespace Lib

variable {α β : Type} [DecidableEq β]

/-- The items under their keys: keys in the order of their first items, items in theirs. -/
def groupItems (key : α → β) (items : List α) : List (β × List α) :=
  items.foldl (fun groups item => appendEntry (key item) item groups) []

theorem groupItems_concat (key : α → β) (items : List α) (item : α) :
    groupItems key (items ++ [item]) = appendEntry (key item) item (groupItems key items) := by
  rw [groupItems, List.foldl_append]
  rfl

theorem groupItems_nodup (key : α → β) (items : List α) : ((groupItems key items).map Prod.fst).Nodup := by
  induction items using List.reverseRecOn with
  | nil => exact List.nodup_nil
  | append_singleton items item ih =>
    rw [groupItems_concat, appendEntry, putEntry_keys]
    by_cases known : key item ∈ (groupItems key items).map Prod.fst
    · rw [if_pos known]
      exact ih
    · rw [if_neg known, ← List.concat_eq_append]
      exact ih.concat known

/-- What is found under a key are its items. -/
theorem findEntry_groupItems (key : α → β) (items : List α) (probe : β) :
    (findEntry probe (groupItems key items)).getD [] = items.filter fun item => key item = probe := by
  induction items using List.reverseRecOn with
  | nil => rfl
  | append_singleton items item ih =>
    rw [groupItems_concat, appendEntry, findEntry_put, List.filter_append]
    by_cases same : key item = probe
    · subst same
      rw [if_pos rfl, Option.getD_some, ih]
      simp
    · rw [if_neg same, ih]
      simp [same]

theorem mem_groupItems_keys (key : α → β) (items : List α) (probe : β) :
    probe ∈ (groupItems key items).map Prod.fst ↔ ∃ item ∈ items, key item = probe := by
  induction items using List.reverseRecOn with
  | nil => simp [groupItems]
  | append_singleton items item ih =>
    rw [groupItems_concat, appendEntry, putEntry_keys]
    by_cases known : key item ∈ (groupItems key items).map Prod.fst
    · rw [if_pos known, ih]
      constructor
      · rintro ⟨other, member, same⟩
        exact ⟨other, List.mem_append_left _ member, same⟩
      · rintro ⟨other, member, same⟩
        rcases List.mem_append.mp member with early | last
        · exact ⟨other, early, same⟩
        · rw [List.mem_singleton.mp last] at same
          exact ih.mp (same ▸ known)
    · rw [if_neg known, List.mem_append, List.mem_singleton, ih]
      constructor
      · rintro (⟨other, member, same⟩ | last)
        · exact ⟨other, List.mem_append_left _ member, same⟩
        · exact ⟨item, List.mem_append_right _ List.mem_cons_self, last.symm⟩
      · rintro ⟨other, member, same⟩
        rcases List.mem_append.mp member with early | last
        · exact .inl ⟨other, early, same⟩
        · rw [List.mem_singleton.mp last] at same
          exact .inr same.symm

end Lib
