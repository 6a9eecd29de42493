import ExaServe.Lib.FloatRepr
import ExaServe.Lib.JsonCanonical

namespace Lib.Json

mutual

/-- A decoded value, each float as `repr` prints it; a float that is not finite is refused. -/
def printFloats : Json → Option Json
  | .float value => value.printed.map .float
  | .arr items => (printItems items).map .arr
  | .obj fields => (printFields fields).map .obj
  | value => some value

def printItems : List Json → Option (List Json)
  | [] => some []
  | item :: rest => do
    let first ← printFloats item
    let others ← printItems rest
    return first :: others

def printFields : List (String × Json) → Option (List (String × Json))
  | [] => some []
  | (key, value) :: rest => do
    let first ← printFloats value
    let others ← printFields rest
    return (key, first) :: others

end

theorem exists_source {α β : Type} {related : α → β → Prop} {left : List α} {right : List β} {item : β}
    (all : List.Forall₂ related left right) (member : item ∈ right) : ∃ source ∈ left, related source item := by
  induction all with
  | nil => cases member
  | cons first rest ih =>
    rcases List.mem_cons.mp member with rfl | later
    · exact ⟨_, List.mem_cons_self, first⟩
    · obtain ⟨source, inside, held⟩ := ih later
      exact ⟨source, List.mem_cons_of_mem _ inside, held⟩

theorem printItems_forall₂ {items shown : List Json} (done : printItems items = some shown) :
    List.Forall₂ (fun item other => printFloats item = some other) items shown := by
  induction items generalizing shown with
  | nil =>
    cases done
    exact .nil
  | cons item rest ih =>
    rw [printItems] at done
    obtain ⟨first, one, done⟩ := Option.bind_eq_some_iff.mp done
    obtain ⟨others, later, done⟩ := Option.bind_eq_some_iff.mp done
    cases done
    exact .cons one (ih later)

theorem printFields_forall₂ {fields shown : List (String × Json)} (done : printFields fields = some shown) :
    List.Forall₂ (fun field other => field.1 = other.1 ∧ printFloats field.2 = some other.2) fields shown := by
  induction fields generalizing shown with
  | nil =>
    cases done
    exact .nil
  | cons field rest ih =>
    obtain ⟨key, value⟩ := field
    rw [printFields] at done
    obtain ⟨first, one, done⟩ := Option.bind_eq_some_iff.mp done
    obtain ⟨others, later, done⟩ := Option.bind_eq_some_iff.mp done
    cases done
    exact .cons ⟨rfl, one⟩ (ih later)

/-- The floats of the value are as `repr` prints them. -/
def FloatsPrinted (value : Json) : Prop := printFloats value = some value

theorem floatsPrinted_arr_iff (items : List Json) :
    FloatsPrinted (.arr items) ↔ ∀ item ∈ items, FloatsPrinted item := by
  have same : printItems items = some items ↔ ∀ item ∈ items, FloatsPrinted item := by
    induction items with
    | nil => simp [printItems]
    | cons item rest ih =>
      rw [printItems, List.forall_mem_cons, ← ih]
      simp [Option.bind_eq_some_iff, FloatsPrinted]
  rw [← same, FloatsPrinted, printFloats]
  simp

theorem floatsPrinted_obj_iff (fields : List (String × Json)) :
    FloatsPrinted (.obj fields) ↔ ∀ field ∈ fields, FloatsPrinted field.2 := by
  have same : printFields fields = some fields ↔ ∀ field ∈ fields, FloatsPrinted field.2 := by
    induction fields with
    | nil => simp [printFields]
    | cons field rest ih =>
      obtain ⟨key, value⟩ := field
      rw [printFields, List.forall_mem_cons, ← ih]
      simp [Option.bind_eq_some_iff, FloatsPrinted]
  rw [← same, FloatsPrinted, printFloats]
  simp

theorem fieldNames_print {fields shown : List (String × Json)} (done : printFields fields = some shown) :
    fieldNames shown = fieldNames fields := by
  have each := printFields_forall₂ done
  clear done
  induction each with
  | nil => rfl
  | cons same _ ih =>
    rw [fieldNames, fieldNames, List.map_cons, List.map_cons, same.1]
    exact congrArg _ ih

/-- What is shown is shown again as it is, with the same keys. -/
theorem floatsPrinted_print (value : Json) : ∀ {shown}, printFloats value = some shown → FloatsPrinted shown := by
  induction value using Json.induction with
  | null | bool | int | str =>
    intro shown done
    cases done
    rfl
  | float value =>
    intro shown done
    rw [printFloats] at done
    obtain ⟨text, printed, same⟩ := Option.map_eq_some_iff.mp done
    cases same
    rw [FloatsPrinted, printFloats, FloatText.printed_printed printed]
    rfl
  | arr items ih =>
    intro shown done
    rw [printFloats] at done
    obtain ⟨others, printed, same⟩ := Option.map_eq_some_iff.mp done
    cases same
    rw [floatsPrinted_arr_iff]
    intro item member
    obtain ⟨source, inside, one⟩ := exists_source (printItems_forall₂ printed) member
    exact ih source inside one
  | obj fields ih =>
    intro shown done
    rw [printFloats] at done
    obtain ⟨others, printed, same⟩ := Option.map_eq_some_iff.mp done
    cases same
    rw [floatsPrinted_obj_iff]
    intro field member
    obtain ⟨source, inside, one⟩ := exists_source (printFields_forall₂ printed) member
    exact ih source inside one.2

theorem wellKeyed_print (value : Json) : ∀ {shown}, printFloats value = some shown → wellKeyed value = true →
    wellKeyed shown = true := by
  induction value using Json.induction with
  | null | bool | int | str =>
    intro shown done keyed
    cases done
    exact keyed
  | float value =>
    intro shown done _
    rw [printFloats] at done
    obtain ⟨text, -, same⟩ := Option.map_eq_some_iff.mp done
    cases same
    rfl
  | arr items ih =>
    intro shown done keyed
    rw [printFloats] at done
    obtain ⟨others, printed, same⟩ := Option.map_eq_some_iff.mp done
    cases same
    rw [wellKeyed, wellKeyedItems_iff] at keyed ⊢
    intro item member
    obtain ⟨source, inside, one⟩ := exists_source (printItems_forall₂ printed) member
    exact ih source inside one (keyed source inside)
  | obj fields ih =>
    intro shown done keyed
    rw [printFloats] at done
    obtain ⟨others, printed, same⟩ := Option.map_eq_some_iff.mp done
    cases same
    rw [wellKeyed, Bool.and_eq_true, decide_eq_true_eq, wellKeyedFields_iff] at keyed ⊢
    rw [fieldNames_print printed]
    refine ⟨keyed.1, ?_⟩
    intro field member
    obtain ⟨source, inside, one⟩ := exists_source (printFields_forall₂ printed) member
    exact ih source inside one.2 (keyed.2 source inside)

/-- Sorting its keys leaves a value's floats as they are printed. -/
theorem floatsPrinted_canonical (value : Json) : FloatsPrinted value → FloatsPrinted value.canonical := by
  induction value using Json.induction with
  | null | bool | int | float | str => exact id
  | arr items ih =>
    intro printed
    rw [floatsPrinted_arr_iff] at printed
    rw [canonical, canonicalItems_eq_map, floatsPrinted_arr_iff]
    intro item member
    obtain ⟨source, inside, rfl⟩ := List.mem_map.mp member
    exact ih source inside (printed source inside)
  | obj fields ih =>
    intro printed
    rw [floatsPrinted_obj_iff] at printed
    rw [canonical, canonicalFields_eq_map, floatsPrinted_obj_iff]
    intro field member
    obtain ⟨source, inside, rfl⟩ := List.mem_map.mp (mem_sortFields.mp member)
    exact ih source inside (printed source inside)

section Equal

theorem pyEqItems_map {items : List Json} (each : ∀ item ∈ items, pyEq item.canonical item = true) :
    pyEqItems (items.map canonical) items = true := by
  induction items with
  | nil => rfl
  | cons item rest ih =>
    rw [List.map_cons, pyEqItems, each item List.mem_cons_self,
      ih fun other member => each other (List.mem_cons_of_mem _ member)]
    rfl

theorem pyEqFields_of {left right : List (String × Json)}
    (each : ∀ field ∈ left, ∃ value, lookup field.1 right = some value ∧ pyEq field.2 value = true) :
    pyEqFields left right = true := by
  induction left with
  | nil => rfl
  | cons field rest ih =>
    obtain ⟨value, found, same⟩ := each field List.mem_cons_self
    rw [pyEqFields, found, ih fun other member => each other (List.mem_cons_of_mem _ member)]
    exact (Bool.and_true _).trans same

/-- A value is equal to itself with its keys sorted. -/
theorem pyEq_canonical (value : Json) : wellKeyed value = true → pyEq value.canonical value = true := by
  induction value using Json.induction with
  | null => exact fun _ => rfl
  | bool value => simp [canonical, pyEq, number?]
  | int value => simp [canonical, pyEq, number?]
  | float value => simp [canonical, pyEq, number?]
  | str value => simp [canonical, pyEq]
  | arr items ih =>
    intro keyed
    rw [wellKeyed, wellKeyedItems_iff] at keyed
    rw [canonical, canonicalItems_eq_map, pyEq]
    exact pyEqItems_map fun item member => ih item member (keyed item member)
  | obj fields ih =>
    intro keyed
    rw [wellKeyed, Bool.and_eq_true, decide_eq_true_eq, wellKeyedFields_iff] at keyed
    have length : (sortFields (canonicalFields fields)).length = fields.length := by
      rw [(sortFields_perm _).length_eq, canonicalFields_eq_map, List.length_map]
    rw [canonical, pyEq, length, beq_self_eq_true, Bool.true_and]
    apply pyEqFields_of
    intro field member
    rw [canonicalFields_eq_map] at member
    obtain ⟨source, inside, rfl⟩ := List.mem_map.mp (mem_sortFields.mp member)
    exact ⟨source.2, (lookup_eq_some_iff keyed.1 _ _).mpr inside, ih source inside (keyed.2 source inside)⟩

end Equal

end Lib.Json
