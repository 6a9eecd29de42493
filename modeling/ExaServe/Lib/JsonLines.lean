import ExaServe.Lib.JsonCanonical
import ExaServe.Lib.JsonSpaced
import ExaServe.Lib.Utf8
import Mathlib.Algebra.Order.BigOperators.Group.List

namespace Lib

/-- The lines of some bytes, from a line begun; a line feed after a carriage return ends no line of its own. -/
def splitLinesFrom : Bool → List UInt8 → List UInt8 → List (List UInt8)
  | _, line, [] => if line = [] then [] else [line]
  | returned, line, byte :: rest =>
    if byte = 10 then if returned then splitLinesFrom false line rest else line :: splitLinesFrom false [] rest
    else if byte = 13 then line :: splitLinesFrom true [] rest
    else splitLinesFrom false (line ++ [byte]) rest

/-- `bytes.splitlines`. -/
def splitLines (content : List UInt8) : List (List UInt8) := splitLinesFrom false [] content

theorem splitLinesFrom_line (returned : Bool) (before : List UInt8) {line : List UInt8} (rest : List UInt8)
    (nonempty : line ≠ []) (one_line : ∀ byte ∈ line, byte ≠ 10 ∧ byte ≠ 13) :
    splitLinesFrom returned before (line ++ 10 :: rest) = (before ++ line) :: splitLinesFrom false [] rest := by
  induction line generalizing returned before with
  | nil => exact absurd rfl nonempty
  | cons byte line ih =>
    obtain ⟨here, later⟩ := List.forall_mem_cons.mp one_line
    rw [List.cons_append, splitLinesFrom, if_neg here.1, if_neg here.2]
    cases line with
    | nil => simp [splitLinesFrom]
    | cons next line =>
      rw [ih false (before ++ [byte]) (List.cons_ne_nil _ _) later, List.append_assoc]
      rfl

theorem splitLines_flatMap {α : Type} {line : α → List UInt8} {items : List α} (nonempty : ∀ item ∈ items, line item ≠ [])
    (one_line : ∀ item ∈ items, ∀ byte ∈ line item, byte ≠ 10 ∧ byte ≠ 13) :
    splitLines (items.flatMap fun item => line item ++ [10]) = items.map line := by
  unfold splitLines
  induction items with
  | nil => rfl
  | cons item items ih =>
    obtain ⟨some_byte, others⟩ := List.forall_mem_cons.mp nonempty
    obtain ⟨here, later⟩ := List.forall_mem_cons.mp one_line
    rw [List.flatMap_cons, List.append_assoc, List.singleton_append,
      splitLinesFrom_line false [] _ some_byte here, ih others later]
    rfl

namespace Json

/-- The bytes a value is written as. -/
def bytes (value : Json) : List UInt8 := (dumps value).map fun c => UInt8.ofNat c.toNat

/-- A value on a line of its own. -/
def line (value : Json) : List UInt8 := bytes value ++ [10]

@[simp] theorem bytes_length (value : Json) : (bytes value).length = (dumps value).length := List.length_map _

theorem bytes_nonempty (value : Json) : bytes value ≠ [] := by
  apply List.ne_nil_of_length_pos
  rw [bytes_length]
  exact dumps_length_pos value

theorem bytes_canonical (value : Json) : bytes value.canonical = bytes value := by
  rw [bytes, dumps_canonical, bytes]

theorem decodeUtf8_bytes (value : Json) : decodeUtf8 (bytes value) = some (dumps value) :=
  decodeUtf8_ascii _ (dumps_ascii value)

theorem decodeUtf8_line (value : Json) : decodeUtf8 (line value) = some (dumps value ++ ['\n']) := by
  have written : line value = (dumps value ++ ['\n']).map fun c => UInt8.ofNat c.toNat := by
    rw [List.map_append]
    rfl
  rw [written]
  exact decodeUtf8_ascii _ ((dumps_ascii value).append (ascii_of_all (by decide)))

/-- A value is read back from its line. -/
theorem loads_line {value : Json} (keyed : wellKeyed value = true) :
    loads (dumps value ++ ['\n']) = some (canonical value) := by
  have width : (dumps value ++ ['\n']).length = (dumps value).length + 1 := by simp
  have parsed := reads_wellKeyed value keyed ['\n'] (2 * (dumps value ++ ['\n']).length + 2)
    (stops_mark _ (by decide)) (by omega)
  unfold loads
  rw [skipSpace_opens (opens_append (opens_dumps value) _), parsed]
  rfl

theorem joinComma_visible {texts : List (List Char)} (all : ∀ text ∈ texts, Visible text) :
    Visible (joinComma texts) := by
  induction texts with
  | nil => exact visible_nil
  | cons text texts ih =>
    have first := all text List.mem_cons_self
    cases texts with
    | nil => exact first
    | cons next texts =>
      exact first.append (.cons (by decide) (ih fun other member => all other (List.mem_cons_of_mem _ member)))

theorem literal_visible {text : List Char} (shown : text.all (fun c => decide (32 ≤ c.toNat)) = true) : Visible text := by
  intro c member
  exact of_decide_eq_true (List.all_eq_true.mp shown c member)

theorem dumps_visible (value : Json) : Visible (dumps value) := by
  induction value using Json.induction with
  | null => exact literal_visible (by decide)
  | bool value => cases value <;> exact literal_visible (by decide)
  | int value => exact number_visible fun c member => (intText_chars value c member).1
  | float value => exact number_visible (float_chars value)
  | str value => exact quote_visible value
  | arr items ih =>
    refine .cons (by decide) (.append (joinComma_visible ?_) (.cons (by decide) visible_nil))
    intro text member
    rw [dumpsItems_eq_map] at member
    obtain ⟨item, inside, rfl⟩ := List.mem_map.mp member
    exact ih item inside
  | obj fields ih =>
    refine .cons (by decide) (.append (joinComma_visible ?_) (.cons (by decide) visible_nil))
    intro text member
    rw [dumpsFields_eq_map, sortFields_map, List.map_map] at member
    obtain ⟨field, inside, rfl⟩ := List.mem_map.mp member
    exact (quote_visible field.1).append (.cons (by decide) (ih field (mem_sortFields.mp inside)))

theorem bytes_one_line (value : Json) : ∀ byte ∈ bytes value, byte ≠ 10 ∧ byte ≠ 13 := by
  intro byte member
  obtain ⟨c, inside, rfl⟩ := List.mem_map.mp member
  have shown := dumps_visible value c inside
  have small := dumps_ascii value c inside
  have value_byte : (UInt8.ofNat c.toNat).toNat = c.toNat := by
    rw [UInt8.toNat_ofNat']
    omega
  constructor
  · intro same
    rw [same] at value_byte
    have ten : (10 : UInt8).toNat = 10 := rfl
    omega
  · intro same
    rw [same] at value_byte
    have thirteen : (13 : UInt8).toNat = 13 := rfl
    omega

/-- The lines of a stream of values are the values. -/
theorem splitLines_lines {α : Type} (value : α → Json) (items : List α) :
    splitLines (items.flatMap fun item => line (value item)) = items.map fun item => bytes (value item) := by
  apply splitLines_flatMap
  · intro item _
    exact bytes_nonempty _
  · intro item _
    exact bytes_one_line _

theorem fieldText_length (field : String × List Char) :
    (fieldText field).length = (quote field.1).length + field.2.length + 1 := by
  rw [fieldText, List.length_append, List.length_cons, Nat.add_assoc]

theorem dumps_obj_length {fields : List (String × Json)} (nonempty : fields ≠ []) :
    (dumps (.obj fields)).length =
      (fields.map fun field => (quote field.1).length + (dumps field.2).length + 2).sum + 1 := by
  have sorted : ((sortFields fields).map fun field => (quote field.1).length + (dumps field.2).length + 2).sum =
      (fields.map fun field => (quote field.1).length + (dumps field.2).length + 2).sum :=
    ((sortFields_perm fields).map _).sum_eq
  have some_text : ((sortFields fields).map fun field => fieldText (field.1, dumps field.2)) ≠ [] := by
    intro none_left
    have empty := List.map_eq_nil_iff.mp none_left
    have perm := sortFields_perm fields
    rw [empty] at perm
    exact nonempty perm.nil_eq.symm
  have joined := joinComma_length some_text
  rw [List.map_map] at joined
  have widths : ((fun text : List Char => text.length + 1) ∘ fun field : String × Json => fieldText (field.1, dumps field.2)) =
      fun field => (quote field.1).length + (dumps field.2).length + 2 := by
    funext field
    simp only [Function.comp, fieldText_length]
  rw [widths, sorted] at joined
  rw [dumps, dumpsFields_eq_map, sortFields_map, List.map_map, List.length_cons, List.length_append, List.length_singleton]
  show (joinComma ((sortFields fields).map fun field => fieldText (field.1, dumps field.2))).length + 1 + 1 = _
  omega

/-- A field is no longer than the object. -/
theorem dumps_field_length {fields : List (String × Json)} {name : String} {value : Json}
    (listed : (name, value) ∈ fields) : (dumps value).length < (dumps (.obj fields)).length := by
  rw [dumps_obj_length (List.ne_nil_of_mem listed)]
  have inside := List.single_le_sum (fun _ _ => Nat.zero_le _) _
    (List.mem_map_of_mem (f := fun field : String × Json => (quote field.1).length + (dumps field.2).length + 2) listed)
  simp only at inside
  omega

end Json

end Lib
