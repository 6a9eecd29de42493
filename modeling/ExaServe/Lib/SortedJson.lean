import ExaServe.Lib.JsonCanonical
import ExaServe.Lib.Value

namespace Lib

namespace Json

mutual

/-- The text of a value with the fields of every object in the order in which they stand. -/
def printed : Json → List Char
  | .null => "null".toList
  | .bool true => "true".toList
  | .bool false => "false".toList
  | .int value => intText value
  | .float value => value.text
  | .str value => quote value
  | .arr items => '[' :: (joinComma (printedItems items) ++ [']'])
  | .obj fields => '\x7b' :: (joinComma (printedFields fields) ++ ['\x7d'])

def printedItems : List Json → List (List Char)
  | [] => []
  | item :: rest => printed item :: printedItems rest

def printedFields : List (String × Json) → List (List Char)
  | [] => []
  | (key, value) :: rest => fieldText (key, printed value) :: printedFields rest

end

theorem printedItems_eq_map (items : List Json) : printedItems items = items.map printed := by
  induction items with
  | nil => rfl
  | cons item rest ih => rw [printedItems, ih, List.map_cons]

theorem printedFields_eq_map (fields : List (String × Json)) :
    printedFields fields = fields.map fun field => fieldText (field.1, printed field.2) := by
  induction fields with
  | nil => rfl
  | cons field rest ih => rw [printedFields, ih, List.map_cons]

/-- Written in key order, a value prints as it is dumped. -/
theorem printed_canonical (value : Json) : printed value.canonical = dumps value := by
  induction value using induction with
  | null => rfl
  | bool value => cases value <;> rfl
  | int value => rfl
  | float value => rfl
  | str value => rfl
  | arr items ih =>
    rw [canonical, printed, dumps, printedItems_eq_map, canonicalItems_eq_map, dumpsItems_eq_map, List.map_map,
      show items.map (printed ∘ canonical) = items.map dumps from List.map_congr_left ih]
  | obj fields ih =>
    have same : (sortFields fields).map (fun field => fieldText (field.1, printed (canonical field.2))) =
        (sortFields fields).map fun field => fieldText (field.1, dumps field.2) := by
      apply List.map_congr_left
      intro field member
      rw [ih field (mem_sortFields.mp member)]
    rw [canonical, printed, dumps, printedFields_eq_map, canonicalFields_eq_map, dumpsFields_eq_map,
      sortFields_map canonical, sortFields_map dumps, List.map_map, List.map_map]
    exact congrArg (fun texts => '\x7b' :: (joinComma texts ++ ['\x7d'])) same

end Json

namespace Value

def text? : Value → Option String
  | .str value => some value
  | _ => Option.none

/-- A dictionary's items as `sorted` orders them: keys that are all texts, or all numbers. -/
def sortEntries {β : Type} (entries : List (Value × β)) : Option (List (Value × β)) :=
  if entries.length ≤ 1 then some entries
  else if entries.all fun entry => entry.1.text?.isSome then
    some (entries.insertionSort fun left right => left.1.text?.getD "" ≤ right.1.text?.getD "")
  else if entries.all fun entry => entry.1.number?.isSome then
    some (entries.insertionSort fun left right => left.1.number?.getD 0 ≤ right.1.number?.getD 0)
  else Option.none

mutual

/-- What `json.dumps(value, sort_keys=True, allow_nan=False)` writes, unless it refuses. The
    fields stand in the order of the keys as they were before they became texts. -/
def sortedJson? : Value → Option Json
  | .none => some .null
  | .bool value => some (.bool value)
  | .int value => some (.int value)
  | .float value => some (.float value)
  | .str value => some (.str value)
  | .list items | .tuple items => (sortedItems items).map .arr
  | .dict entries => do
    let encoded ← sortedEntries entries
    let sorted ← sortEntries encoded
    let fields ← sorted.mapM fun entry => (keyText? entry.1).map fun name => (name, entry.2)
    some (.obj fields)
  | .nonFinite _ | .other _ => Option.none

def sortedItems : List Value → Option (List Json)
  | [] => some []
  | item :: rest => do
    let first ← sortedJson? item
    let others ← sortedItems rest
    some (first :: others)

def sortedEntries : List (Value × Value) → Option (List (Value × Json))
  | [] => some []
  | (key, value) :: rest => do
    let first ← sortedJson? value
    let others ← sortedEntries rest
    some ((key, first) :: others)

end

mutual

/-- A decoded value. -/
def ofJson : Json → Value
  | .null => .none
  | .bool value => .bool value
  | .int value => .int value
  | .float value => .float value
  | .str value => .str value
  | .arr items => .list (ofItems items)
  | .obj fields => .dict (ofObject fields)

def ofItems : List Json → List Value
  | [] => []
  | item :: rest => ofJson item :: ofItems rest

def ofObject : List (String × Json) → List (Value × Value)
  | [] => []
  | (key, value) :: rest => (.str key, ofJson value) :: ofObject rest

end

theorem induction {P : Value → Prop} (none : P .none) (bool : ∀ value, P (.bool value))
    (int : ∀ value, P (.int value)) (float : ∀ value, P (.float value)) (nonFinite : ∀ text, P (.nonFinite text))
    (str : ∀ value, P (.str value)) (list : ∀ items, (∀ item ∈ items, P item) → P (.list items))
    (tuple : ∀ items, (∀ item ∈ items, P item) → P (.tuple items))
    (dict : ∀ entries, (∀ entry ∈ entries, P entry.2) → P (.dict entries)) (other : ∀ type, P (.other type))
    (value : Value) : P value := by
  refine @Value.rec P (fun items => ∀ item ∈ items, P item) (fun entries => ∀ entry ∈ entries, P entry.2)
    (fun entry => P entry.2) none bool int float nonFinite str list tuple dict other ?_ ?_ ?_ ?_ ?_ value
  · intro item member
    cases member
  · intro head tail first rest item member
    rcases List.mem_cons.mp member with rfl | later
    · exact first
    · exact rest item later
  · intro entry member
    cases member
  · intro head tail first rest entry member
    rcases List.mem_cons.mp member with rfl | later
    · exact first
    · exact rest entry later
  · intro key value _ held
    exact held

mutual

/-- Every dictionary of the value has texts for keys, each once. -/
def textKeyed : Value → Bool
  | .list items | .tuple items => textKeyedItems items
  | .dict entries =>
    entries.all (fun entry => entry.1.text?.isSome) && decide (entries.map fun entry => entry.1.text?).Nodup &&
      textKeyedEntries entries
  | _ => true

def textKeyedItems : List Value → Bool
  | [] => true
  | item :: rest => textKeyed item && textKeyedItems rest

def textKeyedEntries : List (Value × Value) → Bool
  | [] => true
  | (_, value) :: rest => textKeyed value && textKeyedEntries rest

end

theorem ofItems_eq_map (items : List Json) : ofItems items = items.map ofJson := by
  induction items with
  | nil => rfl
  | cons item rest ih => rw [ofItems, ih, List.map_cons]

theorem ofObject_eq_map (fields : List (String × Json)) :
    ofObject fields = fields.map fun field => (.str field.1, ofJson field.2) := by
  induction fields with
  | nil => rfl
  | cons field rest ih => rw [ofObject, ih, List.map_cons]

theorem sortedItems_of {items : List Json} (each : ∀ item ∈ items, sortedJson? (ofJson item) = some item.canonical) :
    sortedItems (items.map ofJson) = some (items.map Json.canonical) := by
  induction items with
  | nil => rfl
  | cons item rest ih =>
    rw [List.map_cons, sortedItems, each item List.mem_cons_self,
      ih fun other member => each other (List.mem_cons_of_mem _ member)]
    rfl

theorem sortedEntries_of {fields : List (String × Json)}
    (each : ∀ field ∈ fields, sortedJson? (ofJson field.2) = some field.2.canonical) :
    sortedEntries (ofObject fields) = some (fields.map fun field => (.str field.1, field.2.canonical)) := by
  induction fields with
  | nil => rfl
  | cons field rest ih =>
    rw [ofObject, sortedEntries, each field List.mem_cons_self,
      ih fun other member => each other (List.mem_cons_of_mem _ member)]
    rfl

/-- Keys that are texts are sorted as the fields of an object are. -/
theorem sortEntries_texts {β : Type} (fields : List (String × β)) :
    sortEntries (fields.map fun field => (Value.str field.1, field.2)) =
      some ((Json.sortFields fields).map fun field => (Value.str field.1, field.2)) := by
  rw [sortEntries, List.length_map]
  split_ifs with single texts
  · match fields, single with
    | [], _ => rfl
    | [field], _ => rfl
  · unfold Json.sortFields
    rw [List.map_insertionSort (fun left right : String × β => left.1 ≤ right.1)
      fun left right : Value × β => left.1.text?.getD "" ≤ right.1.text?.getD ""]
    intro left _ right _
    rfl
  all_goals exact absurd (by simp [text?]) texts

theorem mapM_names {β : Type} (fields : List (String × β)) :
    (fields.map fun field => (Value.str field.1, field.2)).mapM
      (fun entry => (keyText? entry.1).map fun name => (name, entry.2)) = some fields := by
  induction fields with
  | nil => rfl
  | cons field rest ih => rw [List.map_cons, List.mapM_cons, ih]; rfl

theorem sorted_texts (fields : List (String × Json)) :
    (do
      let sorted ← sortEntries (fields.map fun field => (Value.str field.1, field.2))
      let named ← sorted.mapM fun entry => (keyText? entry.1).map fun name => (name, entry.2)
      some (Json.obj named)) = some (.obj (Json.sortFields fields)) := by
  rw [sortEntries_texts]
  simp only [Option.bind_eq_bind, Option.bind_some, mapM_names]

/-- A value whose keys are all texts is written as a decoded value is dumped. -/
theorem sortedJson?_ofJson (value : Json) : sortedJson? (ofJson value) = some value.canonical := by
  induction value using Json.induction with
  | null => rfl
  | bool value => rfl
  | int value => rfl
  | float value => rfl
  | str value => rfl
  | arr items ih =>
    rw [ofJson, ofItems_eq_map, sortedJson?, sortedItems_of ih, Json.canonical, Json.canonicalItems_eq_map]
    rfl
  | obj fields ih =>
    have sorted := sorted_texts (fields.map fun field => (field.1, field.2.canonical))
    rw [List.map_map] at sorted
    rw [ofJson, sortedJson?, sortedEntries_of ih, Json.canonical, Json.canonicalFields_eq_map]
    exact sorted

theorem textKeyedItems_iff (items : List Value) :
    textKeyedItems items = true ↔ ∀ item ∈ items, textKeyed item = true := by
  induction items with
  | nil => simp [textKeyedItems]
  | cons item rest ih => simp [textKeyedItems, ih]

theorem textKeyedEntries_iff (entries : List (Value × Value)) :
    textKeyedEntries entries = true ↔ ∀ entry ∈ entries, textKeyed entry.2 = true := by
  induction entries with
  | nil => simp [textKeyedEntries]
  | cons entry rest ih => simp [textKeyedEntries, ih]

/-- A dictionary whose keys are texts is one of fields. -/
theorem exists_fields {entries : List (Value × Value)} (texts : ∀ entry ∈ entries, entry.1.text?.isSome = true) :
    ∃ fields : List (String × Value), entries = fields.map fun field => (.str field.1, field.2) := by
  induction entries with
  | nil => exact ⟨[], rfl⟩
  | cons entry rest ih =>
    obtain ⟨fields, same⟩ := ih fun other member => texts other (List.mem_cons_of_mem _ member)
    obtain ⟨key, value⟩ := entry
    cases key with
    | str name => exact ⟨(name, value) :: fields, by rw [same, List.map_cons]⟩
    | _ => cases texts _ List.mem_cons_self

/-- A value with text keys is written in key order as it is written, and comes out well keyed. -/
def SortsText (value : Value) : Prop :=
  textKeyed value = true → sortedJson? value = (json? value).map Json.canonical ∧
    ∀ json, json? value = some json → Json.wellKeyed json = true

theorem sortsText_items {items : List Value} (each : ∀ item ∈ items, SortsText item)
    (keyed : ∀ item ∈ items, textKeyed item = true) :
    sortedItems items = (jsonItems items).map (List.map Json.canonical) ∧
      ∀ encoded, jsonItems items = some encoded → Json.wellKeyedItems encoded = true := by
  induction items with
  | nil => exact ⟨rfl, by rintro _ ⟨⟩; rfl⟩
  | cons item rest ih =>
    obtain ⟨sorted, well⟩ := each item List.mem_cons_self (keyed item List.mem_cons_self)
    obtain ⟨others, wells⟩ := ih (fun other member => each other (List.mem_cons_of_mem _ member))
      fun other member => keyed other (List.mem_cons_of_mem _ member)
    rw [sortedItems, jsonItems, sorted, others]
    cases head : json? item with
    | none => exact ⟨rfl, fun _ found => by cases found⟩
    | some first =>
      cases tail : jsonItems rest with
      | none => exact ⟨rfl, fun _ found => by cases found⟩
      | some encoded =>
        refine ⟨rfl, ?_⟩
        rintro _ ⟨⟩
        rw [Json.wellKeyedItems, well first head, wells encoded tail]
        rfl

theorem sortsText_fields {fields : List (String × Value)} (each : ∀ field ∈ fields, SortsText field.2)
    (keyed : ∀ field ∈ fields, textKeyed field.2 = true) :
    sortedEntries (fields.map fun field => (.str field.1, field.2)) =
        (jsonEntries (fields.map fun field => (.str field.1, field.2))).map
          (List.map fun field => (.str field.1, field.2.canonical)) ∧
      ∀ encoded, jsonEntries (fields.map fun field => (.str field.1, field.2)) = some encoded →
        Json.fieldNames encoded = fields.map Prod.fst ∧ Json.wellKeyedFields encoded = true := by
  induction fields with
  | nil => exact ⟨rfl, by rintro _ ⟨⟩; exact ⟨rfl, rfl⟩⟩
  | cons field rest ih =>
    obtain ⟨sorted, well⟩ := each field List.mem_cons_self (keyed field List.mem_cons_self)
    obtain ⟨others, wells⟩ := ih (fun other member => each other (List.mem_cons_of_mem _ member))
      fun other member => keyed other (List.mem_cons_of_mem _ member)
    rw [List.map_cons, sortedEntries, jsonEntries, sorted, others]
    cases head : json? field.2 with
    | none => exact ⟨rfl, fun _ found => by cases found⟩
    | some first =>
      cases tail : jsonEntries (rest.map fun field => (.str field.1, field.2)) with
      | none => exact ⟨rfl, fun _ found => by cases found⟩
      | some encoded =>
        refine ⟨rfl, ?_⟩
        rintro _ ⟨⟩
        obtain ⟨names, valid⟩ := wells encoded tail
        refine ⟨congrArg (field.1 :: ·) names, ?_⟩
        rw [Json.wellKeyedFields, well first head, valid]
        rfl

theorem sortsText (value : Value) : SortsText value := by
  induction value using induction with
  | list items ih | tuple items ih =>
    intro keyed
    obtain ⟨sorted, well⟩ := sortsText_items ih ((textKeyedItems_iff items).mp keyed)
    rw [sortedJson?, json?, sorted]
    cases encoded : jsonItems items with
    | none => exact ⟨rfl, fun _ found => by cases found⟩
    | some encoded_items =>
      refine ⟨congrArg (fun items => some (Json.arr items)) (Json.canonicalItems_eq_map _).symm, ?_⟩
      rintro _ ⟨⟩
      exact well _ encoded
  | dict entries ih =>
    intro keyed
    simp only [textKeyed, Bool.and_eq_true, List.all_eq_true, decide_eq_true_eq] at keyed
    obtain ⟨⟨texts, nodup⟩, inner⟩ := keyed
    obtain ⟨fields, same⟩ := exists_fields texts
    subst same
    obtain ⟨sorted, well⟩ := sortsText_fields
      (fun field member => ih (.str field.1, field.2) (List.mem_map_of_mem member))
      fun field member => (textKeyedEntries_iff _).mp inner (.str field.1, field.2) (List.mem_map_of_mem member)
    rw [sortedJson?, json?, sorted]
    cases encoded : jsonEntries (fields.map fun field => (.str field.1, field.2)) with
    | none => exact ⟨rfl, fun _ found => by cases found⟩
    | some encoded_fields =>
      obtain ⟨names, valid⟩ := well _ encoded
      constructor
      · have texts_sorted := sorted_texts (encoded_fields.map fun field => (field.1, field.2.canonical))
        rw [List.map_map] at texts_sorted
        rw [Option.map_some, Option.map_some, Option.map_some, Json.canonical, Json.canonicalFields_eq_map]
        exact texts_sorted
      · rintro _ ⟨⟩
        have distinct : (fields.map Prod.fst).Nodup := by
          rw [List.map_map] at nodup
          exact List.Nodup.of_map some (by rw [List.map_map]; exact nodup)
        rw [Json.wellKeyed, names, valid, Bool.and_true, decide_eq_true distinct]
  | none => exact fun _ => ⟨rfl, by rintro _ ⟨⟩; rfl⟩
  | bool value => exact fun _ => ⟨rfl, by rintro _ ⟨⟩; rfl⟩
  | int value => exact fun _ => ⟨rfl, by rintro _ ⟨⟩; rfl⟩
  | float value => exact fun _ => ⟨rfl, by rintro _ ⟨⟩; rfl⟩
  | str value => exact fun _ => ⟨rfl, by rintro _ ⟨⟩; rfl⟩
  | nonFinite text => exact fun _ => ⟨rfl, fun _ found => by cases found⟩
  | other type => exact fun _ => ⟨rfl, fun _ found => by cases found⟩

end Value

end Lib
