import Mathlib.Data.List.DropRight
import Mathlib.Data.List.Induction
import Mathlib.Data.List.Nodup
import Mathlib.Order.Lattice

namespace Lib

section KeepFirst

variable {α β : Type} [DecidableEq β] (key : α → β)

/-- What a slot holds next: it keeps its item against one of the same key and gives
    way to any other. -/
def keepFirst (held : Option α) (item : α) : Option α :=
  match held with
  | some first => if key first = key item then some first else some item
  | none => some item

/-- The last items, as far back as they have the key of the very last. -/
def finalRun (items : List α) : List α :=
  match items.getLast? with
  | none => []
  | some last => items.rtakeWhile fun item => key item = key last

variable {key}

theorem finalRun_concat (items : List α) (item : α) :
    finalRun key (items ++ [item]) = (items.rtakeWhile fun other => key other = key item) ++ [item] := by
  simp [finalRun]

theorem finalRun_concat_same {items : List α} {last item : α} (same : key last = key item) :
    finalRun key (items ++ [last] ++ [item]) = finalRun key (items ++ [last]) ++ [item] := by
  rw [finalRun_concat, finalRun_concat, List.rtakeWhile_concat_pos _ _ _ (by simp [same])]
  simp [same]

theorem finalRun_concat_other {items : List α} {last item : α} (other : key last ≠ key item) :
    finalRun key (items ++ [last] ++ [item]) = [item] := by
  rw [finalRun_concat, List.rtakeWhile_concat_neg _ _ _ (by simp [other]), List.nil_append]

theorem key_of_mem_finalRun {items : List α} {item last : α} (member : item ∈ finalRun key (items ++ [last])) :
    key item = key last := by
  rw [finalRun_concat, List.mem_append, List.mem_singleton] at member
  rcases member with earlier | rfl
  · simpa using List.mem_rtakeWhile_imp earlier
  · rfl

/-- The slot ends up with the first item of the final run. -/
theorem foldl_keepFirst (items : List α) : items.foldl (keepFirst key) none = (finalRun key items).head? := by
  induction items using List.reverseRecOn with
  | nil => rfl
  | append_singleton items item ih =>
    rw [List.foldl_append, ih, List.foldl_cons, List.foldl_nil]
    rcases List.eq_nil_or_concat' items with rfl | ⟨front, last, rfl⟩
    · rw [finalRun_concat]
      rfl
    · have nonempty : finalRun key (front ++ [last]) ≠ [] := by
        rw [finalRun_concat]
        simp
      obtain ⟨first, rest, run⟩ := List.exists_cons_of_ne_nil nonempty
      have first_key : key first = key last := key_of_mem_finalRun (by rw [run]; exact List.mem_cons_self)
      by_cases same : key last = key item
      · rw [finalRun_concat_same same, run]
        simp [keepFirst, first_key, same]
      · rw [finalRun_concat_other same, run]
        simp [keepFirst, first_key, same]

/-- Among items of distinct keys the last one stays. -/
theorem foldl_keepFirst_distinct {items : List α} (distinct : (items.map key).Nodup) :
    items.foldl (keepFirst key) none = items.getLast? := by
  rw [foldl_keepFirst]
  rcases List.eq_nil_or_concat' items with rfl | ⟨items, item, rfl⟩
  · rfl
  · rcases List.eq_nil_or_concat' items with rfl | ⟨front, last, rfl⟩
    · rw [finalRun_concat]
      rfl
    · have other : key last ≠ key item := by
        simp only [List.map_append, List.map_cons, List.map_nil, List.nodup_append, List.mem_append,
          List.mem_singleton] at distinct
        exact distinct.2.2 (key last) (.inr rfl) (key item) rfl
      rw [finalRun_concat_other other]
      simp

end KeepFirst

section Greatest

variable {α β γ : Type} [LinearOrder β] (key : α → β) (mark : α → γ)

/-- The last item of the greatest key. -/
def Greatest (items : List α) : Option α → Prop
  | none => items = []
  | some top => (∀ item ∈ items, key item ≤ key top) ∧
      (items.filter fun item => key item = key top).getLast? = some top

/-- The last item has the greatest key, and its run started with its mark. -/
def InOrder (items : List α) : Prop :=
  ∀ last ∈ items.getLast?, (∀ item ∈ items, key item ≤ key last) ∧
    ∀ first ∈ (finalRun key items).head?, mark first = mark last

variable {key mark}

/-- Keeping the first of each run and taking the last of the greatest key come to the
    same key and mark exactly when the items are in order. -/
theorem keepFirst_eq_greatest_iff {items : List α} {greatest : Option α} (top : Greatest key items greatest) :
    (greatest.map fun item => (key item, mark item)) =
        ((items.foldl (keepFirst key) none).map fun item => (key item, mark item)) ↔
      InOrder key mark items := by
  rw [foldl_keepFirst]
  rcases List.eq_nil_or_concat' items with rfl | ⟨front, last, rfl⟩
  · cases greatest with
    | none => simp [InOrder, finalRun]
    | some item => simp [Greatest] at top
  · have nonempty : finalRun key (front ++ [last]) ≠ [] := by
      rw [finalRun_concat]
      simp
    obtain ⟨first, rest, run⟩ := List.exists_cons_of_ne_nil nonempty
    have first_key : key first = key last := key_of_mem_finalRun (by rw [run]; exact List.mem_cons_self)
    cases greatest with
    | none => simp [Greatest] at top
    | some item =>
      obtain ⟨above, latest⟩ := top
      -- an item with the key of the last one is the last one
      have latest_eq : key item = key last → item = last := by
        intro same
        simp [List.filter_append, same] at latest
        exact latest.symm
      simp only [InOrder, List.getLast?_concat, run, List.head?_cons, Option.map_some, Option.some.injEq,
        Prod.mk.injEq, Option.mem_def, forall_eq']
      constructor
      · rintro ⟨same_key, same_mark⟩
        have same := latest_eq (same_key.trans first_key)
        subst same
        exact ⟨above, same_mark.symm⟩
      · intro ⟨below, same_mark⟩
        have member : item ∈ front ++ [last] := (List.mem_filter.mp (List.mem_of_getLast? latest)).1
        have same := latest_eq (le_antisymm (below item member) (above last (by simp)))
        subst same
        exact ⟨first_key.symm, same_mark.symm⟩

end Greatest

end Lib
