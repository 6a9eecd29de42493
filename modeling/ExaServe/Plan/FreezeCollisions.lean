import ExaServe.Lib.Except
import ExaServe.Plan.Frozen

namespace ExaServe.Plan

open Lib Control

section Reading

mutual

/-- Two values that are the same once every mapping is read as the list of its pairs. -/
def alike : Json → Json → Bool
  | .null, .null => true
  | .bool value, .bool other => value = other
  | .int value, .int other => value = other
  | .float value, .float other => value = other
  | .str value, .str other => value = other
  | .arr items, .arr others => alikeItems items others
  | .obj fields, .obj others => alikeFields fields others
  | .obj fields, .arr others => alikePairs fields others
  | .arr items, .obj others => pairsAlike items others
  | _, _ => false

def alikeItems : List Json → List Json → Bool
  | [], [] => true
  | item :: rest, other :: others => alike item other && alikeItems rest others
  | _, _ => false

def alikeFields : List (String × Json) → List (String × Json) → Bool
  | [], [] => true
  | (key, value) :: rest, (name, other) :: others => key = name && alike value other && alikeFields rest others
  | _, _ => false

def alikePairs : List (String × Json) → List Json → Bool
  | [], [] => true
  | (key, value) :: rest, .arr [.str name, other] :: others =>
    key = name && alike value other && alikePairs rest others
  | _, _ => false

def pairsAlike : List Json → List (String × Json) → Bool
  | [], [] => true
  | item :: rest, (name, other) :: others => alike item (.arr [.str name, other]) && pairsAlike rest others
  | _, _ => false

end

mutual

/-- Somewhere one of the two holds a mapping where the other holds a list. -/
def mixed : Json → Json → Bool
  | .arr items, .arr others => mixedItems items others
  | .obj fields, .obj others => mixedFields fields others
  | .obj _, .arr _ | .arr _, .obj _ => true
  | _, _ => false

def mixedItems : List Json → List Json → Bool
  | item :: rest, other :: others => mixed item other || mixedItems rest others
  | _, _ => false

def mixedFields : List (String × Json) → List (String × Json) → Bool
  | (_, value) :: rest, (_, other) :: others => mixed value other || mixedFields rest others
  | _, _ => false

end

mutual

/-- What freezing makes of a value whose mappings are in order. -/
def spread : Json → Json
  | .arr items => .arr (spreadItems items)
  | .obj fields => .arr (spreadFields fields)
  | value => value

def spreadItems : List Json → List Json
  | [] => []
  | item :: rest => spread item :: spreadItems rest

def spreadFields : List (String × Json) → List Json
  | [] => []
  | (key, value) :: rest => .arr [.str key, spread value] :: spreadFields rest

end

theorem spreadItems_eq_map (items : List Json) : spreadItems items = items.map spread := by
  induction items with
  | nil => rfl
  | cons item rest ih => rw [spreadItems, ih, List.map_cons]

theorem spreadFields_eq_map (fields : List (String × Json)) :
    spreadFields fields = fields.map fun field => .arr [.str field.1, spread field.2] := by
  induction fields with
  | nil => rfl
  | cons field rest ih =>
    obtain ⟨key, value⟩ := field
    rw [spreadFields, ih, List.map_cons]

end Reading

section Freezing

theorem map_ok {α β : Type} {f : α → β} {x : Except Raised α} {result : β} (done : x.map f = .ok result) :
    ∃ value, x = .ok value ∧ f value = result := by
  cases x with
  | error raised => cases done
  | ok value =>
    cases done
    exact ⟨value, rfl, rfl⟩

theorem deepFreezeItems_spread {items : List Json}
    (each : ∀ item ∈ items, ∀ path frozen, deepFreeze path item = .ok frozen → frozen = spread item.canonical)
    {path : String} {index : Nat} {frozen : List Json} (done : deepFreezeItems path index items = .ok frozen) :
    frozen = items.map fun item => spread item.canonical := by
  induction items generalizing index frozen with
  | nil =>
    cases done
    rfl
  | cons item rest ih =>
    obtain ⟨here, later⟩ := List.forall_mem_cons.mp each
    rw [deepFreezeItems] at done
    obtain ⟨first, one, done⟩ := bind_ok done
    obtain ⟨others, more, done⟩ := bind_ok done
    cases done
    rw [List.map_cons, here _ _ one, ih later more]

theorem deepFreezeFields_spread {fields : List (String × Json)}
    (each : ∀ field ∈ fields, ∀ path frozen, deepFreeze path field.2 = .ok frozen → frozen = spread field.2.canonical)
    {path : String} {frozen : List (String × Json)} (done : deepFreezeFields path fields = .ok frozen) :
    frozen = fields.map fun field => (field.1, spread field.2.canonical) := by
  induction fields generalizing frozen with
  | nil =>
    cases done
    rfl
  | cons field rest ih =>
    obtain ⟨key, value⟩ := field
    obtain ⟨here, later⟩ := List.forall_mem_cons.mp each
    rw [deepFreezeFields] at done
    obtain ⟨first, one, done⟩ := bind_ok done
    obtain ⟨others, more, done⟩ := bind_ok done
    cases done
    rw [List.map_cons, here _ _ one, ih later more]

theorem deepFreeze_spread (value : Json) : ∀ path frozen, deepFreeze path value = .ok frozen →
    frozen = spread value.canonical := by
  induction value using Json.induction with
  | null | bool _ | int _ | str _ =>
    intro path frozen done
    rw [deepFreeze] at done
    cases done
    rfl
  | float value =>
    intro path frozen done
    rw [deepFreeze] at done
    split_ifs at done
    cases done
    rfl
  | arr items ih =>
    intro path frozen done
    rw [deepFreeze] at done
    obtain ⟨parts, each, rfl⟩ := map_ok done
    rw [deepFreezeItems_spread ih each, Json.canonical, Json.canonicalItems_eq_map, spread, spreadItems_eq_map,
      List.map_map]
    rfl
  | obj fields ih =>
    intro path frozen done
    rw [deepFreeze] at done
    obtain ⟨parts, each, rfl⟩ := map_ok done
    rw [deepFreezeFields_spread ih each, Json.canonical, Json.canonicalFields_eq_map, spread, spreadFields_eq_map]
    have sorted := Json.sortFields_map spread (fields.map fun field => (field.1, field.2.canonical))
    rw [List.map_map] at sorted
    have frozen_sorted : Json.sortFields (fields.map fun field => (field.1, spread field.2.canonical)) =
        (Json.sortFields (fields.map fun field => (field.1, field.2.canonical))).map
          fun field => (field.1, spread field.2) := sorted
    rw [frozen_sorted, List.map_map]
    rfl

end Freezing

section Alike

theorem alike_str (value : Json) (name : String) : alike value (.str name) = true ↔ value = .str name := by
  cases value <;> simp [alike]

theorem spread_str (value : Json) (name : String) : spread value = .str name ↔ value = .str name := by
  cases value <;> simp [spread]

theorem alike_pair {value : Json} (each : ∀ other, alike value other = true ↔ spread value = spread other)
    (key : String) (other : Json) :
    alike (.arr [.str key, value]) other = true ↔ .arr [.str key, spread value] = spread other := by
  cases other with
  | arr others =>
    match others with
    | [] | [_] | _ :: _ :: _ :: _ => simp [alike, alikeItems, spread, spreadItems]
    | [first, second] =>
      have swap : (Json.str key = spread first) ↔ first = .str key := by
        rw [eq_comm, spread_str]
      have same : alike (.str key) first = true ↔ first = .str key := by
        cases first <;> simp [alike, eq_comm]
      simp [alike, alikeItems, spread, spreadItems, each, swap, same]
  | obj others =>
    rcases others with _ | ⟨⟨name, other⟩, rest⟩ <;> simp [alike, pairsAlike, spread, spreadFields]
  | _ => simp [alike, spread]

theorem alikePairs_cons (key : String) (value : Json) (rest : List (String × Json)) (other : Json) (others : List Json) :
    alikePairs ((key, value) :: rest) (other :: others) =
      (alike (.arr [.str key, value]) other && alikePairs rest others) := by
  cases other with
  | arr items =>
    match items with
    | [] | [_] | _ :: _ :: _ :: _ => simp [alikePairs, alike, alikeItems]
    | [first, second] => cases first <;> simp [alikePairs, alike, alikeItems]
  | obj fields => rcases fields with _ | ⟨⟨name, value⟩, rest⟩ <;> simp [alikePairs, alike, pairsAlike]
  | _ => simp [alikePairs, alike]

theorem alike_iff (value : Json) : ∀ other, alike value other = true ↔ spread value = spread other := by
  induction value using Json.induction with
  | null | bool _ | int _ | float _ | str _ =>
    intro other
    cases other <;> simp [alike, spread]
  | arr items ih =>
    intro other
    cases other with
    | arr others =>
      simp only [alike, spread, Json.arr.injEq]
      induction items generalizing others with
      | nil => cases others <;> simp [alikeItems, spreadItems]
      | cons item rest more =>
        obtain ⟨here, later⟩ := List.forall_mem_cons.mp ih
        cases others with
        | nil => simp [alikeItems, spreadItems]
        | cons other others => simp [alikeItems, spreadItems, here, more later]
    | obj others =>
      simp only [alike, spread, Json.arr.injEq]
      induction items generalizing others with
      | nil => cases others <;> simp [pairsAlike, spreadItems, spreadFields]
      | cons item rest more =>
        obtain ⟨here, later⟩ := List.forall_mem_cons.mp ih
        cases others with
        | nil => simp [pairsAlike, spreadItems, spreadFields]
        | cons field others =>
          rw [pairsAlike, Bool.and_eq_true, here, more later]
          simp [spreadItems, spreadFields, spread]
    | _ => simp [alike, spread]
  | obj fields ih =>
    intro other
    cases other with
    | arr others =>
      simp only [alike, spread, Json.arr.injEq]
      induction fields generalizing others with
      | nil => cases others <;> simp [alikePairs, spreadItems, spreadFields]
      | cons field rest more =>
        obtain ⟨key, value⟩ := field
        obtain ⟨here, later⟩ := List.forall_mem_cons.mp ih
        cases others with
        | nil => simp [alikePairs, spreadItems, spreadFields]
        | cons other others =>
          rw [alikePairs_cons, Bool.and_eq_true, alike_pair here, more later]
          simp [spreadItems, spreadFields]
    | obj others =>
      simp only [alike, spread, Json.arr.injEq]
      induction fields generalizing others with
      | nil => cases others <;> simp [alikeFields, spreadFields]
      | cons field rest more =>
        obtain ⟨key, value⟩ := field
        obtain ⟨here, later⟩ := List.forall_mem_cons.mp ih
        cases others with
        | nil => simp [alikeFields, spreadFields]
        | cons other others =>
          obtain ⟨name, other⟩ := other
          simp [alikeFields, spreadFields, here, more later]
    | _ => simp [alike, spread]

/-- Values that read alike are the same unless one has a mapping for the other's list. -/
theorem mixed_iff (value : Json) : ∀ other, alike value other = true → (mixed value other = false ↔ value = other) := by
  induction value using Json.induction with
  | null | bool _ | int _ | float _ | str _ =>
    intro other
    cases other <;> simp [alike, mixed]
  | arr items ih =>
    intro other
    cases other with
    | arr others =>
      simp only [alike, mixed, Json.arr.injEq]
      induction items generalizing others with
      | nil => cases others <;> simp [alikeItems, mixedItems]
      | cons item rest more =>
        obtain ⟨here, later⟩ := List.forall_mem_cons.mp ih
        cases others with
        | nil => simp [alikeItems]
        | cons other others =>
          simp only [alikeItems, mixedItems, Bool.and_eq_true, Bool.or_eq_false_iff, List.cons.injEq]
          rintro ⟨first, others_alike⟩
          rw [here _ first, more later _ others_alike]
    | obj others => simp [mixed]
    | _ => simp [alike]
  | obj fields ih =>
    intro other
    cases other with
    | obj others =>
      simp only [alike, mixed, Json.obj.injEq]
      induction fields generalizing others with
      | nil => cases others <;> simp [alikeFields, mixedFields]
      | cons field rest more =>
        obtain ⟨key, value⟩ := field
        obtain ⟨here, later⟩ := List.forall_mem_cons.mp ih
        cases others with
        | nil => simp [alikeFields]
        | cons other others =>
          obtain ⟨name, other⟩ := other
          simp only [alikeFields, mixedFields, Bool.and_eq_true, Bool.or_eq_false_iff, List.cons.injEq, Prod.mk.injEq,
            decide_eq_true_eq]
          rintro ⟨⟨rfl, first⟩, others_alike⟩
          rw [here _ first, more later _ others_alike]
          simp
    | arr others => simp [mixed]
    | _ => simp [alike]

end Alike

section Preimage

theorem spread_plain (value : Json) : (spread value).wellKeyed = true ∧ (spread value).canonical = spread value := by
  induction value using Json.induction with
  | null | bool _ | int _ | float _ | str _ => exact ⟨rfl, rfl⟩
  | arr items ih =>
    rw [spread, spreadItems_eq_map, Json.wellKeyed, Json.wellKeyedItems_iff, Json.canonical,
      Json.canonicalItems_eq_map, List.map_map]
    constructor
    · intro item member
      obtain ⟨source, inside, rfl⟩ := List.mem_map.mp member
      exact (ih source inside).1
    · exact congrArg Json.arr (List.map_congr_left fun item inside => (ih item inside).2)
  | obj fields ih =>
    rw [spread, spreadFields_eq_map, Json.wellKeyed, Json.wellKeyedItems_iff, Json.canonical,
      Json.canonicalItems_eq_map, List.map_map]
    constructor
    · intro item member
      obtain ⟨field, inside, rfl⟩ := List.mem_map.mp member
      simp [Json.wellKeyed, Json.wellKeyedItems, (ih field inside).1]
    · apply congrArg Json.arr
      apply List.map_congr_left
      intro field inside
      simp [Json.canonical, Json.canonicalItems, (ih field inside).2]

/-- What is hashed of a frozen value tells it from every other. -/
theorem dumps_spread_iff (left right : Json) : Json.dumps (spread left) = Json.dumps (spread right) ↔
    spread left = spread right := by
  constructor
  · intro same
    have read := Json.loads_dumps (spread_plain left).1
    rw [same, Json.loads_dumps (spread_plain right).1, (spread_plain left).2, (spread_plain right).2] at read
    exact (Option.some.inj read).symm
  · exact congrArg Json.dumps

/-- The two values are told apart only by a mapping where the other has the list of that
    mapping's pairs, in the order of the keys. -/
def Confused (left right : Json) : Prop :=
  alike left.canonical right.canonical = true ∧ mixed left.canonical right.canonical = true

instance (left right : Json) : Decidable (Confused left right) :=
  inferInstanceAs (Decidable (alike left.canonical right.canonical = true ∧
    mixed left.canonical right.canonical = true))

/-- Freezing tells two values apart, and so does what is hashed of them. -/
structure Faithful (left right frozen other : Json) : Prop where
  apart : frozen = other → left.canonical = right.canonical
  hashed : Json.dumps frozen = Json.dumps other → left.canonical = right.canonical

/-- Freezing loses nothing of two values exactly when they are not confused. -/
theorem deepFreeze_faithful_iff {path name : String} {left right frozen other : Json}
    (first : deepFreeze path left = .ok frozen) (second : deepFreeze name right = .ok other) :
    Faithful left right frozen other ↔ ¬Confused left right := by
  have one := deepFreeze_spread left path frozen first
  have two := deepFreeze_spread right name other second
  subst one two
  have told : (spread left.canonical = spread right.canonical → left.canonical = right.canonical) ↔
      ¬Confused left right := by
    rw [← alike_iff]
    constructor
    · rintro told ⟨alike, mixed⟩
      have same := (mixed_iff _ _ alike).mpr (told alike)
      rw [mixed] at same
      cases same
    · intro apart alike
      apply (mixed_iff _ _ alike).mp
      rw [← Bool.not_eq_true]
      intro mixed
      exact apart ⟨alike, mixed⟩
  constructor
  · intro faithful
    exact told.mp faithful.apart
  · intro apart
    have known := told.mpr apart
    exact ⟨known, fun same => known ((dumps_spread_iff _ _).mp same)⟩

/-- An empty mapping among the options of the gateway. -/
def emptyMapping : Json := .obj [("extra_general", .obj [("metadata", .obj [])])]

/-- An empty list in its place. -/
def emptyList : Json := .obj [("extra_general", .obj [("metadata", .arr [])])]

theorem empty_mapping_confused : ∃ frozen, deepFreeze "deployment.gateway.options" emptyMapping = .ok frozen ∧
    deepFreeze "deployment.gateway.options" emptyList = .ok frozen ∧
    emptyMapping.canonical ≠ emptyList.canonical ∧ ¬Faithful emptyMapping emptyList frozen frozen := by
  have different : emptyMapping.canonical ≠ emptyList.canonical := by
    intro same
    exact absurd (congrArg Json.dumps same) (by decide +kernel)
  refine ⟨_, rfl, rfl, different, ?_⟩
  intro faithful
  exact different (faithful.apart rfl)

/-- A null and an empty mapping are told apart. -/
theorem null_told_apart : Faithful (.obj [("metadata", .null)]) emptyMapping (.arr [.arr [.str "metadata", .null]])
    (.arr [.arr [.str "extra_general", .arr [.arr [.str "metadata", .arr []]]]]) :=
  (deepFreeze_faithful_iff (show deepFreeze "value" _ = _ from rfl) (show deepFreeze "value" _ = _ from rfl)).mpr
    (by decide +kernel)

end Preimage

end ExaServe.Plan
