import ExaServe.Lib.JsonRoundTrip

namespace Lib.Json

variable {β : Type}

theorem sortFields_pairwise (fields : List (String × β)) :
    (sortFields fields).Pairwise fun left right => left.1 ≤ right.1 :=
  List.pairwise_insertionSort (fun left right : String × β => left.1 ≤ right.1) fields

theorem sortFields_perm (fields : List (String × β)) : (sortFields fields).Perm fields :=
  List.perm_insertionSort _ fields

theorem sortFields_idem (fields : List (String × β)) : sortFields (sortFields fields) = sortFields fields :=
  (sortFields_pairwise fields).insertionSort_eq

/-- Fields of distinct names sort alike in whatever order they come. -/
theorem sortFields_congr {left right : List (String × β)} (perm : left.Perm right)
    (nodup : (left.map Prod.fst).Nodup) : sortFields left = sortFields right := by
  have sorted := ((sortFields_perm left).trans perm).trans (sortFields_perm right).symm
  refine List.Perm.eq_of_pairwise ?_ (sortFields_pairwise left) (sortFields_pairwise right) sorted
  intro first second first_member second_member below above
  have in_left := (sortFields_perm left).mem_iff.mp first_member
  have in_right := perm.mem_iff.mpr ((sortFields_perm right).mem_iff.mp second_member)
  exact List.inj_on_of_nodup_map nodup in_left in_right (le_antisymm below above)

theorem dumps_obj_perm {left right : List (String × Json)} (perm : left.Perm right)
    (nodup : (fieldNames left).Nodup) : dumps (.obj left) = dumps (.obj right) := by
  have texts : (left.map fun field => (field.1, dumps field.2)).Perm
      (right.map fun field => (field.1, dumps field.2)) := perm.map _
  have names : ((left.map fun field => (field.1, dumps field.2)).map Prod.fst).Nodup := by
    rw [List.map_map]
    exact nodup
  simp only [dumps, dumpsFields_eq_map, sortFields_congr texts names]

/-- Writing does not depend on the order of an object's fields. -/
theorem dumps_canonical (value : Json) : dumps value.canonical = dumps value := by
  induction value using Json.induction with
  | null => rfl
  | bool value => rfl
  | int value => rfl
  | float value => rfl
  | str value => rfl
  | arr items ih =>
    have same : (items.map canonical).map dumps = items.map dumps := by
      rw [List.map_map]
      exact List.map_congr_left ih
    simp only [canonical, canonicalItems_eq_map, dumps, dumpsItems_eq_map, same]
  | obj fields ih =>
    have same : (fields.map fun field => (field.1, canonical field.2)).map
        (fun field => (field.1, dumps field.2)) = fields.map fun field => (field.1, dumps field.2) := by
      rw [List.map_map]
      refine List.map_congr_left fun field member => ?_
      simp only [Function.comp, ih field member]
    simp only [canonical, canonicalFields_eq_map, dumps, dumpsFields_eq_map, ← sortFields_map dumps, sortFields_idem]
    rw [same]

theorem lookup_eq_some_iff {fields : List (String × Json)} (nodup : (fieldNames fields).Nodup) (key : String)
    (value : Json) : lookup key fields = some value ↔ (key, value) ∈ fields := by
  induction fields with
  | nil => simp [lookup]
  | cons field rest ih =>
    rw [fieldNames, List.map_cons, List.nodup_cons] at nodup
    obtain ⟨name, held⟩ := field
    by_cases same : name = key
    · subst same
      have absent : (name, value) ∉ rest := fun member => nodup.1 (List.mem_map.mpr ⟨_, member, rfl⟩)
      simp [lookup, absent, eq_comm]
    · have other : key ≠ name := fun h => same h.symm
      simp [lookup, same, other, ih nodup.2]

theorem lookup_congr {left right : List (String × Json)} (perm : left.Perm right)
    (nodup : (fieldNames left).Nodup) (key : String) : lookup key left = lookup key right := by
  have right_nodup : (fieldNames right).Nodup := (perm.map Prod.fst).nodup_iff.mp nodup
  apply Option.ext
  intro value
  rw [lookup_eq_some_iff nodup, lookup_eq_some_iff right_nodup, perm.mem_iff]

theorem lookup_canonicalFields (key : String) (fields : List (String × Json)) :
    lookup key (canonicalFields fields) = (lookup key fields).map canonical := by
  induction fields with
  | nil => rfl
  | cons field rest ih =>
    obtain ⟨name, held⟩ := field
    by_cases same : name = key <;> simp [canonicalFields, lookup, same, ih]

theorem fieldNames_canonicalFields (fields : List (String × Json)) :
    fieldNames (canonicalFields fields) = fieldNames fields := by
  simp [fieldNames, canonicalFields_eq_map, List.map_map, Function.comp_def]

theorem sameNames_congr {left right : List (String × Json)} {expected : List String}
    (perm : (fieldNames left).Perm (fieldNames right)) : sameNames left expected = sameNames right expected := by
  unfold sameNames
  congr 1
  · rw [Bool.eq_iff_iff, List.all_eq_true, List.all_eq_true]
    exact ⟨fun all name member => all name (perm.mem_iff.mpr member),
      fun all name member => all name (perm.mem_iff.mp member)⟩
  · congr 1
    funext name
    rw [Bool.eq_iff_iff, List.contains_iff_mem, List.contains_iff_mem]
    exact perm.mem_iff

theorem sameNames_stored (fields : List (String × Json)) (expected : List String) :
    sameNames (sortFields (canonicalFields fields)) expected = sameNames fields expected := by
  apply sameNames_congr
  have names := fieldNames_sortFields (canonicalFields fields)
  rwa [fieldNames_canonicalFields] at names

/-- What a field of an object is after the object was written and read. -/
theorem lookup_stored {fields : List (String × Json)} (nodup : (fieldNames fields).Nodup) (key : String) :
    lookup key (sortFields (canonicalFields fields)) = (lookup key fields).map canonical := by
  have names : (fieldNames (canonicalFields fields)).Nodup := by rwa [fieldNames_canonicalFields]
  rw [lookup_congr (sortFields_perm _) ((fieldNames_sortFields _).nodup_iff.mpr names),
    lookup_canonicalFields]

/-- A field of an object, where there is one. -/
def fieldOf (fields : List (String × Json)) (name : String) : Json := (lookup name fields).getD .null

/-- What is under a name of an object that was written and read. -/
theorem fieldOf_stored {fields : List (String × Json)} (distinct : (fieldNames fields).Nodup) {name : String}
    {value : Json} (listed : (name, value) ∈ fields) :
    fieldOf (sortFields (canonicalFields fields)) name = value.canonical := by
  rw [fieldOf, lookup_stored distinct, (lookup_eq_some_iff distinct name value).mpr listed]
  rfl

end Lib.Json
