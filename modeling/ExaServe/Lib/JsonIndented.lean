import ExaServe.Lib.JsonCanonical
import ExaServe.Lib.JsonLines

namespace Lib.Json

/-- A line break and the indentation of the next line. -/
def gap (depth : Nat) : List Char := '\n' :: List.replicate (2 * depth) ' '

/-- What stands between the brackets of an array or an object, each item on a line of its own. -/
def onLines (depth : Nat) (texts : List (List Char)) : List Char :=
  if texts = [] then [] else joinComma (texts.map (gap (depth + 1) ++ ·)) ++ gap depth

def spacedField (field : String × List Char) : List Char := quote field.1 ++ ':' :: ' ' :: field.2

mutual

/-- `json.dumps(value, indent=2, sort_keys=True, allow_nan=False)`. -/
def dumpsIndented (depth : Nat) : Json → List Char
  | .null => "null".toList
  | .bool true => "true".toList
  | .bool false => "false".toList
  | .int value => intText value
  | .float value => value.text
  | .str value => quote value
  | .arr items => '[' :: (onLines depth (indentedItems (depth + 1) items) ++ [']'])
  | .obj fields =>
    '\x7b' :: (onLines depth ((sortFields (indentedFields (depth + 1) fields)).map spacedField) ++ ['\x7d'])

def indentedItems (depth : Nat) : List Json → List (List Char)
  | [] => []
  | item :: rest => dumpsIndented depth item :: indentedItems depth rest

def indentedFields (depth : Nat) : List (String × Json) → List (String × List Char)
  | [] => []
  | (key, value) :: rest => (key, dumpsIndented depth value) :: indentedFields depth rest

end

theorem indentedItems_eq_map (depth : Nat) (items : List Json) :
    indentedItems depth items = items.map (dumpsIndented depth) := by
  induction items with
  | nil => rfl
  | cons item rest ih => rw [indentedItems, ih, List.map_cons]

theorem indentedFields_eq_map (depth : Nat) (fields : List (String × Json)) :
    indentedFields depth fields = fields.map fun field => (field.1, dumpsIndented depth field.2) := by
  induction fields with
  | nil => rfl
  | cons field rest ih => rw [indentedFields, ih, List.map_cons]

section Reading

/-- The text is read as the value, whatever follows it. -/
structure ReadAs (text : List Char) (value : Json) : Prop where
  opens : opens text
  parsed : ∀ rest fuel, stops rest → 2 * text.length ≤ fuel → parseValue fuel (text ++ rest) = some (value, rest)

theorem ReadAs.of_dumps {value : Json} (reads : Reads value) : ReadAs (dumps value) value.canonical :=
  ⟨opens_dumps value, reads⟩

theorem skipSpace_replicate (count : Nat) (rest : List Char) :
    skipSpace (List.replicate count ' ' ++ rest) = skipSpace rest := by
  induction count with
  | zero => rfl
  | succ count ih =>
    rw [List.replicate_succ, List.cons_append, skipSpace_blank, ih]

theorem skipSpace_gap (depth : Nat) (rest : List Char) : skipSpace (gap depth ++ rest) = skipSpace rest := by
  rw [gap, List.cons_append, skipSpace, if_pos (by decide), skipSpace_replicate]

theorem stops_gap (depth : Nat) (rest : List Char) : stops (gap depth ++ rest) := stops_mark _ (by decide)

theorem opens_spacedField (key : String) (text : List Char) : opens (spacedField (key, text)) :=
  ⟨'"', _, rfl, by decide⟩

theorem onLines_cons (depth : Nat) (text : List Char) (texts : List (List Char)) :
    onLines depth (text :: texts) = joinComma ((text :: texts).map (gap (depth + 1) ++ ·)) ++ gap depth :=
  if_neg (List.cons_ne_nil _ _)

theorem opens_onLines {text : List Char} (open_ : opens text) (depth : Nat) (texts : List (List Char))
    (rest : List Char) : opens (skipSpace (onLines depth (text :: texts) ++ rest)) := by
  rw [onLines_cons]
  cases texts with
  | nil =>
    simp only [List.map_cons, List.map_nil, joinComma, List.append_assoc]
    rw [skipSpace_gap, skipSpace_opens (opens_append open_ _)]
    exact opens_append open_ _
  | cons next texts =>
    simp only [List.map_cons, joinComma, List.append_assoc]
    rw [skipSpace_gap, skipSpace_opens (opens_append open_ _)]
    exact opens_append open_ _

theorem parseItems_lines {items : List (List Char × Json)} (nonempty : items ≠ [])
    (each : ∀ item ∈ items, ReadAs item.1 item.2) (inner outer : Nat) (rest : List Char) {fuel : Nat}
    (enough : 2 * (joinComma (items.map fun item => gap inner ++ item.1)).length + 1 ≤ fuel) :
    parseItems fuel (skipSpace (joinComma (items.map fun item => gap inner ++ item.1) ++
      (gap outer ++ ']' :: rest))) =
      some (items.map Prod.snd, rest) := by
  induction items generalizing fuel with
  | nil => exact absurd rfl nonempty
  | cons item items ih =>
    obtain ⟨fuel, rfl⟩ : ∃ less, fuel = less + 1 := ⟨fuel - 1, by omega⟩
    obtain ⟨first, others⟩ := List.forall_mem_cons.mp each
    cases items with
    | nil =>
      simp only [List.map_cons, List.map_nil, joinComma, List.length_append] at enough ⊢
      rw [List.append_assoc, skipSpace_gap, skipSpace_opens (opens_append first.opens _), parseItems,
        first.parsed _ fuel (stops_gap _ _) (by omega)]
      simp only [Option.bind_eq_bind, Option.bind_some, skipSpace_gap, skipSpace_mark rest (c := ']') (by decide),
        expect_other rest (show ']' ≠ ',' by decide), expect_same]
    | cons next items =>
      have tail := fun enough => @ih (List.cons_ne_nil _ _) others fuel enough
      simp only [List.map_cons, joinComma, List.length_append, List.length_cons] at enough tail ⊢
      rw [List.append_assoc, List.append_assoc, skipSpace_gap, skipSpace_opens (opens_append first.opens _),
        parseItems,
        List.cons_append, first.parsed _ fuel (stops_mark _ (by decide)) (by omega)]
      simp only [Option.bind_eq_bind, Option.bind_some, skipSpace_mark _ (c := ',') (by decide), expect_same,
        tail (by omega)]

theorem parseFields_lines {fields : List (String × List Char × Json)} (nonempty : fields ≠ [])
    (each : ∀ field ∈ fields, ReadAs field.2.1 field.2.2) (inner outer : Nat) (rest : List Char) {fuel : Nat}
    (enough : 2 * (joinComma (fields.map fun field =>
      gap inner ++ spacedField (field.1, field.2.1))).length + 1 ≤ fuel) :
    parseFields fuel (skipSpace (joinComma (fields.map fun field => gap inner ++ spacedField (field.1, field.2.1)) ++
      (gap outer ++ '\x7d' :: rest))) = some (fields.map fun field => (field.1, field.2.2), rest) := by
  induction fields generalizing fuel with
  | nil => exact absurd rfl nonempty
  | cons field fields ih =>
    obtain ⟨fuel, rfl⟩ : ∃ less, fuel = less + 1 := ⟨fuel - 1, by omega⟩
    obtain ⟨first, others⟩ := List.forall_mem_cons.mp each
    have key_text : ∀ after, spacedField (field.1, field.2.1) ++ after =
        '"' :: (field.1.toList.flatMap escapeChar ++ '"' :: ':' :: ' ' :: (field.2.1 ++ after)) := by
      intro after
      simp [spacedField, quote]
    have width : field.2.1.length ≤ (spacedField (field.1, field.2.1)).length := by
      simp only [spacedField, List.length_append, List.length_cons]
      omega
    have open_ := fun after => opens_append (opens_spacedField field.1 field.2.1) after
    cases fields with
    | nil =>
      simp only [List.map_cons, List.map_nil, joinComma, List.length_append] at enough ⊢
      rw [List.append_assoc, skipSpace_gap, skipSpace_opens (open_ _), parseFields, key_text]
      simp only [Option.bind_eq_bind, expect_same, Option.bind_some, parseChars_quote,
        skipSpace_mark _ (c := ':') (by decide), skipSpace_blank, skipSpace_opens (opens_append first.opens _)]
      rw [first.parsed _ fuel (stops_gap _ _) (by omega)]
      simp only [Option.bind_some, skipSpace_gap, skipSpace_mark _ (c := '\x7d') (by decide),
        expect_other rest (show '\x7d' ≠ ',' by decide), expect_same, String.ofList_toList]
    | cons next fields =>
      have tail := fun enough => @ih (List.cons_ne_nil _ _) others fuel enough
      simp only [List.map_cons, joinComma, List.length_append, List.length_cons] at enough tail ⊢
      rw [List.append_assoc, List.append_assoc, skipSpace_gap, skipSpace_opens (open_ _), parseFields, key_text]
      simp only [Option.bind_eq_bind, expect_same, Option.bind_some, parseChars_quote, List.cons_append,
        skipSpace_mark _ (c := ':') (by decide), skipSpace_blank, skipSpace_opens (opens_append first.opens _)]
      rw [first.parsed _ fuel (stops_mark _ (by decide)) (by omega)]
      simp only [Option.bind_some, skipSpace_mark _ (c := ',') (by decide), expect_same, tail (by omega),
        String.ofList_toList]

theorem readAs_arr {depth : Nat} {items : List Json}
    (each : ∀ item ∈ items, ReadAs (dumpsIndented (depth + 1) item) item.canonical) :
    ReadAs (dumpsIndented depth (.arr items)) (canonical (.arr items)) where
  opens := ⟨'[', _, rfl, by decide⟩
  parsed rest fuel _ enough := by
    rw [dumpsIndented, indentedItems_eq_map] at enough ⊢
    simp only [List.length_cons, List.length_append, List.length_nil] at enough
    obtain ⟨fuel, rfl⟩ : ∃ less, fuel = less + 1 := ⟨fuel - 1, by omega⟩
    rw [List.cons_append, List.append_assoc, parseValue, if_neg (by decide), if_pos rfl, canonical,
      canonicalItems_eq_map]
    cases items with
    | nil =>
      rw [List.map_nil, onLines, if_pos rfl, List.nil_append, List.cons_append, List.nil_append,
        skipSpace_mark rest (by decide), expect_same]
      rfl
    | cons item items =>
      have begun := opens_onLines (each item List.mem_cons_self).opens depth
        (items.map (dumpsIndented (depth + 1))) ([']'] ++ rest)
      have read := @parseItems_lines
        ((item :: items).map fun item => (dumpsIndented (depth + 1) item, item.canonical)) (List.cons_ne_nil _ _)
        (List.forall_mem_map.mpr each) (depth + 1) depth rest fuel
      rw [List.map_cons] at enough ⊢
      obtain ⟨c, tail, same, plain⟩ := begun
      rw [same, expect_other tail plain.1, ← same]
      rw [onLines_cons] at enough ⊢
      simp only [List.map_cons, List.map_map, Function.comp_def, List.length_append] at read enough
      simp only [List.map_cons, List.map_map, Function.comp_def, List.append_assoc, List.cons_append, List.nil_append]
      rw [read (by omega)]
      rfl

theorem readAs_obj {depth : Nat} {fields : List (String × Json)} (nodup : (fieldNames fields).Nodup)
    (each : ∀ field ∈ fields, ReadAs (dumpsIndented (depth + 1) field.2) field.2.canonical) :
    ReadAs (dumpsIndented depth (.obj fields)) (canonical (.obj fields)) where
  opens := ⟨'\x7b', _, rfl, by decide⟩
  parsed rest fuel _ enough := by
    have result : canonical (.obj fields) =
        .obj ((sortFields fields).map fun field => (field.1, canonical field.2)) := by
      rw [canonical, canonicalFields_eq_map, sortFields_map]
    have sorted_each : ∀ field ∈ sortFields fields, ReadAs (dumpsIndented (depth + 1) field.2) field.2.canonical :=
      fun field member => each field (mem_sortFields.mp member)
    have unique : (fieldNames ((sortFields fields).map fun field => (field.1, canonical field.2))).Nodup := by
      have names : fieldNames ((sortFields fields).map fun field => (field.1, canonical field.2)) =
          fieldNames (sortFields fields) := by simp [fieldNames, Function.comp_def]
      rw [names]
      exact (fieldNames_sortFields fields).nodup_iff.mpr nodup
    rw [dumpsIndented, indentedFields_eq_map, sortFields_map] at enough ⊢
    simp only [List.length_cons, List.length_append, List.length_nil] at enough
    obtain ⟨fuel, rfl⟩ : ∃ less, fuel = less + 1 := ⟨fuel - 1, by omega⟩
    rw [List.cons_append, List.append_assoc, parseValue, if_neg (by decide), if_neg (by decide), if_pos rfl, result]
    generalize sortFields fields = ordered at enough sorted_each unique
    cases ordered with
    | nil =>
      rw [List.map_nil, List.map_nil, onLines, if_pos rfl, List.nil_append, List.cons_append, List.nil_append,
        skipSpace_mark rest (by decide), expect_same]
      rfl
    | cons field ordered =>
      have begun := opens_onLines (opens_spacedField field.1 (dumpsIndented (depth + 1) field.2)) depth
        (ordered.map fun field => spacedField (field.1, dumpsIndented (depth + 1) field.2)) (['\x7d'] ++ rest)
      have read := @parseFields_lines
        ((field :: ordered).map fun field => (field.1, dumpsIndented (depth + 1) field.2, field.2.canonical))
        (List.cons_ne_nil _ _) (List.forall_mem_map.mpr sorted_each) (depth + 1) depth rest fuel
      simp only [List.map_cons, List.map_map, Function.comp_def] at enough ⊢
      obtain ⟨c, tail, same, plain⟩ := begun
      rw [same, expect_other tail plain.2.1, ← same]
      rw [onLines_cons] at enough ⊢
      simp only [List.map_cons, List.map_map, Function.comp_def, List.length_append] at read enough
      simp only [List.map_cons, List.map_map, Function.comp_def, List.append_assoc, List.cons_append, List.nil_append]
      rw [read (by omega)]
      simp only [Option.bind_eq_bind, Option.bind_some]
      exact if_pos unique

/-- A value whose objects have no repeated key is read back from its lines, its objects in key order. -/
theorem readAs_dumpsIndented (value : Json) (depth : Nat) (keyed : wellKeyed value = true) :
    ReadAs (dumpsIndented depth value) value.canonical := by
  induction value using Json.induction generalizing depth with
  | null => exact .of_dumps (reads_wellKeyed .null keyed)
  | bool value => cases value <;> exact .of_dumps (reads_wellKeyed (.bool _) keyed)
  | int value => exact .of_dumps (reads_wellKeyed (.int value) keyed)
  | float value => exact .of_dumps (reads_wellKeyed (.float value) keyed)
  | str value => exact .of_dumps (reads_wellKeyed (.str value) keyed)
  | arr items ih =>
    rw [wellKeyed, wellKeyedItems_iff] at keyed
    exact readAs_arr fun item member => ih item member _ (keyed item member)
  | obj fields ih =>
    rw [wellKeyed, Bool.and_eq_true, decide_eq_true_eq, wellKeyedFields_iff] at keyed
    exact readAs_obj keyed.1 fun field member => ih field member _ (keyed.2 field member)

end Reading

section Bytes

/-- A text of ASCII characters without a carriage return. -/
def Lined (text : List Char) : Prop := ∀ c ∈ text, c.toNat < 128 ∧ c ≠ '\r'

theorem Lined.append {left right : List Char} (first : Lined left) (second : Lined right) :
    Lined (left ++ right) := by
  intro c member
  rcases List.mem_append.mp member with inside | inside
  · exact first c inside
  · exact second c inside

theorem Lined.cons {c : Char} {text : List Char} (head : c.toNat < 128 ∧ c ≠ '\r') (tail : Lined text) :
    Lined (c :: text) := by
  intro d member
  rcases List.mem_cons.mp member with rfl | inside
  · exact head
  · exact tail d inside

theorem lined_nil : Lined [] := fun _ member => by cases member

theorem Lined.of_visible {text : List Char} (visible : Visible text) (ascii : Ascii text) : Lined text := by
  intro c member
  refine ⟨ascii c member, ?_⟩
  rintro rfl
  exact absurd (visible _ member) (by decide)

theorem lined_dumps (value : Json) : Lined (dumps value) := .of_visible (dumps_visible value) (dumps_ascii value)

theorem lined_gap (depth : Nat) : Lined (gap depth) := by
  apply Lined.cons (by decide)
  intro c member
  obtain rfl := List.eq_of_mem_replicate member
  decide

theorem lined_joinComma {texts : List (List Char)} (each : ∀ text ∈ texts, Lined text) : Lined (joinComma texts) := by
  induction texts with
  | nil => exact lined_nil
  | cons text texts ih =>
    obtain ⟨first, others⟩ := List.forall_mem_cons.mp each
    cases texts with
    | nil => exact first
    | cons next texts => exact first.append (.cons (by decide) (ih others))

theorem lined_onLines (depth : Nat) {texts : List (List Char)} (each : ∀ text ∈ texts, Lined text) :
    Lined (onLines depth texts) := by
  rw [onLines]
  split
  · exact lined_nil
  · apply (lined_joinComma ?_).append (lined_gap depth)
    intro text member
    obtain ⟨inner, inside, rfl⟩ := List.mem_map.mp member
    exact (lined_gap _).append (each inner inside)

theorem lined_dumpsIndented (value : Json) (depth : Nat) : Lined (dumpsIndented depth value) := by
  induction value using Json.induction generalizing depth with
  | null => exact lined_dumps .null
  | bool value =>
    cases value with
    | false => exact lined_dumps (.bool false)
    | true => exact lined_dumps (.bool true)
  | int value => exact lined_dumps (.int value)
  | float value => exact lined_dumps (.float value)
  | str value => exact lined_dumps (.str value)
  | arr items ih =>
    apply Lined.cons (by decide) ((lined_onLines depth ?_).append (.cons (by decide) lined_nil))
    intro text member
    rw [indentedItems_eq_map] at member
    obtain ⟨item, inside, rfl⟩ := List.mem_map.mp member
    exact ih item inside _
  | obj fields ih =>
    apply Lined.cons (by decide) ((lined_onLines depth ?_).append (.cons (by decide) lined_nil))
    intro text member
    rw [indentedFields_eq_map, sortFields_map, List.map_map] at member
    obtain ⟨field, inside, rfl⟩ := List.mem_map.mp member
    exact (lined_dumps (.str field.1)).append
      (.cons (by decide) (.cons (by decide) (ih field (mem_sortFields.mp inside) _)))

end Bytes

/-- The text of a file that `atomic_create_json` writes. -/
def fileText (value : Json) : List Char := dumpsIndented 0 value ++ ['\n']

def fileBytes (value : Json) : List UInt8 := (fileText value).map fun c => UInt8.ofNat c.toNat

theorem lined_fileText (value : Json) : Lined (fileText value) :=
  (lined_dumpsIndented value 0).append (.cons (by decide) lined_nil)

theorem decodeUtf8_fileBytes (value : Json) : decodeUtf8 (fileBytes value) = some (fileText value) :=
  decodeUtf8_ascii _ fun c member => (lined_fileText value c member).1

theorem loads_fileText {value : Json} (keyed : wellKeyed value = true) :
    loads (fileText value) = some value.canonical := by
  have read := readAs_dumpsIndented value 0 keyed
  have width : (fileText value).length = (dumpsIndented 0 value).length + 1 := by simp [fileText]
  unfold loads
  rw [width, fileText, skipSpace_opens (opens_append read.opens _),
    read.parsed _ _ (stops_mark _ (by decide)) (by omega)]
  rfl

end Lib.Json
