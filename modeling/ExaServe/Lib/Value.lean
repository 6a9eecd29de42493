import ExaServe.Lib.Dict
import ExaServe.Lib.Json

namespace Lib

/-- A Python value, with what JSON does not know: floats that are not finite, tuples, keys that
    are not texts, and values of other types. -/
inductive Value where
  | none
  | bool (value : Bool)
  | int (value : Int)
  | float (value : FloatText)
  | nonFinite (text : String)
  | str (value : String)
  | list (items : List Value)
  | tuple (items : List Value)
  | dict (entries : List (Value × Value))
  | other (type : String)

namespace Value

/-- The text `json` writes for a key. -/
def keyText? : Value → Option String
  | .none => some "null"
  | .bool value => some (if value then "true" else "false")
  | .int value => some (String.ofList (Json.intText value))
  | .float value => some (String.ofList value.text)
  | .str value => some value
  | _ => Option.none

mutual

/-- What `json.dumps(value, allow_nan=False)` writes, unless it refuses. -/
def json? : Value → Option Json
  | .none => some .null
  | .bool value => some (.bool value)
  | .int value => some (.int value)
  | .float value => some (.float value)
  | .str value => some (.str value)
  | .list items | .tuple items => (jsonItems items).map .arr
  | .dict entries => (jsonEntries entries).map .obj
  | .nonFinite _ | .other _ => Option.none

def jsonItems : List Value → Option (List Json)
  | [] => some []
  | item :: rest => do
    let first ← json? item
    let others ← jsonItems rest
    return first :: others

def jsonEntries : List (Value × Value) → Option (List (String × Json))
  | [] => some []
  | (key, value) :: rest => do
    let name ← keyText? key
    let first ← json? value
    let others ← jsonEntries rest
    return (name, first) :: others

end

/-- `repr` of a value that is no container. -/
def reprText : Value → String
  | .none => "None"
  | .bool value => if value then "True" else "False"
  | .int value => toString value
  | .float value => String.ofList value.text
  | .nonFinite text | .other text => text
  | .str value => "'" ++ value ++ "'"
  | .list _ => "[...]"
  | .tuple _ => "(...)"
  | .dict _ => "\x7b...\x7d"

mutual

/-- `_canonical_value`: a strict JSON value, or what is wrong at which path. -/
def canonical (path : String) : Value → Except String Json
  | .none => .ok .null
  | .bool value => .ok (.bool value)
  | .int value => .ok (.int value)
  | .float value => .ok (.float value)
  | .str value => .ok (.str value)
  | .list items | .tuple items => (canonicalItems path 0 items).map .arr
  | .dict entries => (canonicalEntries path entries).map .obj
  | .nonFinite text => .error s!"{path} must be finite, got {text}"
  | .other type => .error s!"{path} contains unsupported semantic value {type}"

def canonicalItems (path : String) (index : Nat) : List Value → Except String (List Json)
  | [] => .ok []
  | item :: rest => do
    let first ← canonical s!"{path}[{index}]" item
    let others ← canonicalItems path (index + 1) rest
    .ok (first :: others)

def canonicalEntries (path : String) : List (Value × Value) → Except String (List (String × Json))
  | [] => .ok []
  | (.str name, value) :: rest => do
    let first ← canonical s!"{path}.{name}" value
    let others ← canonicalEntries path rest
    .ok ((name, first) :: others)
  | (key, _) :: _ =>
    let shown := reprText key
    .error s!"{path} has non-string map key {shown}"

end

def number? : Value → Option ℚ
  | .bool value => some (if value then 1 else 0)
  | .int value => some value
  | .float value => some value.value
  | _ => Option.none

mutual

/-- Equality of Python values: dictionaries ignore the order of their keys. -/
def pyEq : Value → Value → Bool
  | .none, .none => true
  | .str left, .str right => left == right
  | .nonFinite left, .nonFinite right => left == right && left != "nan"
  | .list left, .list right => pyEqItems left right
  | .tuple left, .tuple right => pyEqItems left right
  | .dict left, .dict right => left.length == right.length && pyEqEntries left right
  | .bool left, right => right.number? == some (if left then 1 else 0)
  | .int left, right => right.number? == some (left : ℚ)
  | .float left, right => right.number? == some left.value
  | _, _ => false

def pyEqItems : List Value → List Value → Bool
  | [], [] => true
  | left :: lefts, right :: rights => pyEq left right && pyEqItems lefts rights
  | _, _ => false

def pyEqEntries : List (Value × Value) → List (Value × Value) → Bool
  | [], _ => true
  | (key, value) :: rest, others =>
    (others.any fun other => pyEq key other.1 && pyEq value other.2) && pyEqEntries rest others

end

/-- The fields of a dictionary all of whose keys are texts. -/
def textFields? : List (Value × Value) → Option (List (String × Value))
  | [] => some []
  | (.str name, value) :: rest => (textFields? rest).map ((name, value) :: ·)
  | _ :: _ => Option.none

/-- A dictionary under texts. -/
def ofFields (fields : List (String × Value)) : Value :=
  .dict (fields.map fun field => (.str field.1, field.2))

/-- `set(fields) == set(expected)`. -/
def sameNames (fields : List (String × Value)) (expected : List String) : Bool :=
  (fields.map Prod.fst).all (expected.contains ·) && expected.all ((fields.map Prod.fst).contains ·)

/-- The fields of a dictionary that has just the expected ones. -/
def shaped? (value : Value) (expected : List String) : Option (List (String × Value)) :=
  match value with
  | .dict entries => (textFields? entries).filter fun fields => sameNames fields expected
  | _ => Option.none

def field (fields : List (String × Value)) (name : String) : Value := (findEntry name fields).getD .none

theorem textFields?_ofFields (fields : List (String × Value)) :
    textFields? (fields.map fun field => (.str field.1, field.2)) = some fields := by
  induction fields with
  | nil => rfl
  | cons field rest ih => rw [List.map_cons, textFields?, ih, Option.map_some]

theorem shaped?_ofFields {fields : List (String × Value)} {expected : List String}
    (same : sameNames fields expected = true) : shaped? (ofFields fields) expected = some fields := by
  rw [ofFields, shaped?, textFields?_ofFields, Option.filter_some, if_pos same]

theorem sameNames_self (fields : List (String × Value)) : sameNames fields (fields.map Prod.fst) = true := by
  simp only [sameNames, Bool.and_eq_true, List.all_eq_true, List.contains_iff_mem]
  exact ⟨fun _ member => member, fun _ member => member⟩

end Value

end Lib
