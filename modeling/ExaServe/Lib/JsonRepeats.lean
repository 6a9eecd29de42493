import ExaServe.Lib.Dict
import ExaServe.Lib.JsonRoundTrip

namespace Lib.Json

/-- The fields of an object as a dictionary takes them: the last value of a repeated key, in the
    place of the first. -/
def keepLast (fields : List (String × Json)) : List (String × Json) :=
  fields.foldl (fun kept field => putEntry field.1 field.2 kept) []

mutual

def decodeValue : Nat → List Char → Option (Json × List Char)
  | 0, _ => none
  | _ + 1, [] => none
  | fuel + 1, c :: rest =>
    if c = '"' then do
      let (chars, rest) ← parseChars (rest.length + 1) rest
      some (.str (String.ofList chars), rest)
    else if c = '[' then
      match expect ']' (skipSpace rest) with
      | some rest => some (.arr [], rest)
      | none => do
        let (items, rest) ← decodeItems fuel (skipSpace rest)
        some (.arr items, rest)
    else if c = '\x7b' then
      match expect '\x7d' (skipSpace rest) with
      | some rest => some (.obj [], rest)
      | none => do
        let (fields, rest) ← decodeFields fuel (skipSpace rest)
        some (.obj (keepLast fields), rest)
    else if c = 'n' then literal "null".toList .null (c :: rest)
    else if c = 't' then literal "true".toList (.bool true) (c :: rest)
    else if c = 'f' then literal "false".toList (.bool false) (c :: rest)
    else do
      let number ← parseNumber ((c :: rest).takeWhile isNumberChar)
      some (number, (c :: rest).dropWhile isNumberChar)

def decodeItems : Nat → List Char → Option (List Json × List Char)
  | 0, _ => none
  | fuel + 1, text => do
    let (item, rest) ← decodeValue fuel text
    match expect ',' (skipSpace rest) with
    | some next => do
      let (items, rest) ← decodeItems fuel (skipSpace next)
      some (item :: items, rest)
    | none => do
      let rest ← expect ']' (skipSpace rest)
      some ([item], rest)

def decodeFields : Nat → List Char → Option (List (String × Json) × List Char)
  | 0, _ => none
  | fuel + 1, text => do
    let rest ← expect '"' text
    let (key, rest) ← parseChars (rest.length + 1) rest
    let rest ← expect ':' (skipSpace rest)
    let (value, rest) ← decodeValue fuel (skipSpace rest)
    match expect ',' (skipSpace rest) with
    | some next => do
      let (fields, rest) ← decodeFields fuel (skipSpace next)
      some ((String.ofList key, value) :: fields, rest)
    | none => do
      let rest ← expect '\x7d' (skipSpace rest)
      some ([(String.ofList key, value)], rest)

end

/-- `json.loads` with non-finite constants refused. -/
def decode (text : List Char) : Option Json := do
  let (value, rest) ← decodeValue (2 * text.length + 2) (skipSpace text)
  if skipSpace rest = [] then some value else none

theorem foldl_putEntry_fresh {fields kept : List (String × Json)} (nodup : (fieldNames fields).Nodup)
    (fresh : ∀ name ∈ fieldNames fields, name ∉ kept.map Prod.fst) :
    fields.foldl (fun kept field => putEntry field.1 field.2 kept) kept = kept ++ fields := by
  induction fields generalizing kept with
  | nil => exact (List.append_nil _).symm
  | cons field rest ih =>
    rw [fieldNames, List.map_cons, List.nodup_cons] at nodup
    rw [List.foldl_cons, putEntry_fresh _ (fresh _ List.mem_cons_self), ih nodup.2, List.append_assoc,
      List.singleton_append]
    intro name member inside
    rw [List.map_append, List.mem_append] at inside
    rcases inside with before | here
    · exact fresh name (List.mem_cons_of_mem _ member) before
    · rw [List.map_singleton, List.mem_singleton] at here
      exact nodup.1 (here ▸ member)

theorem keepLast_nodup {fields : List (String × Json)} (nodup : (fieldNames fields).Nodup) :
    keepLast fields = fields := by
  rw [keepLast, foldl_putEntry_fresh nodup (by simp), List.nil_append]

section Agreement

variable {fuel : Nat}

/-- With this fuel the decoder reads what the strict parser reads. -/
structure Agree (fuel : Nat) : Prop where
  value : ∀ text result, parseValue fuel text = some result → decodeValue fuel text = some result
  items : ∀ text result, parseItems fuel text = some result → decodeItems fuel text = some result
  fields : ∀ text result, parseFields fuel text = some result → decodeFields fuel text = some result

theorem Agree.value_succ (agree : Agree fuel) {text : List Char} {result : Json × List Char}
    (parsed : parseValue (fuel + 1) text = some result) : decodeValue (fuel + 1) text = some result := by
  cases text with
  | nil => cases parsed
  | cons c rest =>
    rw [parseValue] at parsed
    rw [decodeValue]
    split_ifs at parsed ⊢ with quoted listed braced
    case pos => exact parsed
    case pos =>
      cases closed : expect ']' (skipSpace rest) with
      | some after =>
        rw [closed] at parsed
        exact parsed
      | none =>
        rw [closed] at parsed
        obtain ⟨⟨items, after⟩, inside, rest_eq⟩ := Option.bind_eq_some_iff.mp parsed
        change (decodeItems fuel (skipSpace rest)).bind _ = _
        rw [agree.items _ _ inside]
        exact rest_eq
    case pos =>
      cases closed : expect '\x7d' (skipSpace rest) with
      | some after =>
        rw [closed] at parsed
        exact parsed
      | none =>
        rw [closed] at parsed
        obtain ⟨⟨fields, after⟩, inside, rest_eq⟩ := Option.bind_eq_some_iff.mp parsed
        simp only at rest_eq
        split_ifs at rest_eq with nodup
        change (decodeFields fuel (skipSpace rest)).bind _ = _
        rw [agree.fields _ _ inside, ← rest_eq]
        simp [keepLast_nodup nodup]
    all_goals exact parsed

theorem Agree.items_succ (agree : Agree fuel) {text : List Char} {result : List Json × List Char}
    (parsed : parseItems (fuel + 1) text = some result) : decodeItems (fuel + 1) text = some result := by
  rw [parseItems] at parsed
  rw [decodeItems]
  obtain ⟨⟨item, after⟩, inside, rest_eq⟩ := Option.bind_eq_some_iff.mp parsed
  rw [agree.value _ _ inside]
  change (match expect ',' (skipSpace after) with
    | some next => _
    | none => _) = _
  simp only at rest_eq
  cases more : expect ',' (skipSpace after) with
  | some next =>
    rw [more] at rest_eq
    obtain ⟨⟨items, last⟩, others, same⟩ := Option.bind_eq_some_iff.mp rest_eq
    change (decodeItems fuel (skipSpace next)).bind _ = _
    rw [agree.items _ _ others]
    exact same
  | none =>
    rw [more] at rest_eq
    exact rest_eq

theorem Agree.fields_succ (agree : Agree fuel) {text : List Char} {result : List (String × Json) × List Char}
    (parsed : parseFields (fuel + 1) text = some result) : decodeFields (fuel + 1) text = some result := by
  rw [parseFields] at parsed
  rw [decodeFields]
  obtain ⟨opened, start, parsed⟩ := Option.bind_eq_some_iff.mp parsed
  obtain ⟨⟨key, keyed⟩, name, parsed⟩ := Option.bind_eq_some_iff.mp parsed
  obtain ⟨marked, colon, parsed⟩ := Option.bind_eq_some_iff.mp parsed
  obtain ⟨⟨value, after⟩, inside, rest_eq⟩ := Option.bind_eq_some_iff.mp parsed
  simp only [start, name, colon, agree.value _ _ inside, Option.bind_eq_bind, Option.bind_some]
  change (match expect ',' (skipSpace after) with
    | some next => _
    | none => _) = _
  simp only at rest_eq
  cases more : expect ',' (skipSpace after) with
  | some next =>
    rw [more] at rest_eq
    obtain ⟨⟨fields, last⟩, others, same⟩ := Option.bind_eq_some_iff.mp rest_eq
    change (decodeFields fuel (skipSpace next)).bind _ = _
    rw [agree.fields _ _ others]
    exact same
  | none =>
    rw [more] at rest_eq
    exact rest_eq

theorem agree (fuel : Nat) : Agree fuel := by
  induction fuel with
  | zero => exact ⟨nofun, nofun, nofun⟩
  | succ fuel ih => exact ⟨fun _ _ => ih.value_succ, fun _ _ => ih.items_succ, fun _ _ => ih.fields_succ⟩

/-- A text without repeated keys is decoded as the strict parser reads it. -/
theorem decode_of_loads {text : List Char} {value : Json} (loaded : loads text = some value) :
    decode text = some value := by
  obtain ⟨⟨parsed, rest⟩, inside, ended⟩ := Option.bind_eq_some_iff.mp loaded
  rw [decode, (agree _).value _ _ inside]
  exact ended

end Agreement

section WellKeyed

theorem putEntry_mem {name : String} {value : Json} {kept : List (String × Json)} {field : String × Json}
    (member : field ∈ putEntry name value kept) : field = (name, value) ∨ field ∈ kept := by
  induction kept with
  | nil => exact .inl (List.mem_singleton.mp member)
  | cons head rest ih =>
    rw [putEntry] at member
    split_ifs at member
    · rcases List.mem_cons.mp member with here | later
      · exact .inl here
      · exact .inr (List.mem_cons_of_mem _ later)
    · rcases List.mem_cons.mp member with here | later
      · exact .inr (here ▸ List.mem_cons_self)
      · rcases ih later with same | inside
        · exact .inl same
        · exact .inr (List.mem_cons_of_mem _ inside)

/-- Fields put one after the other are those kept and those put, each name once. -/
theorem foldl_putEntry_keyed {fields kept : List (String × Json)} (nodup : (fieldNames kept).Nodup) :
    (fieldNames (fields.foldl (fun kept field => putEntry field.1 field.2 kept) kept)).Nodup ∧
      ∀ field ∈ fields.foldl (fun kept field => putEntry field.1 field.2 kept) kept,
        field ∈ fields ∨ field ∈ kept := by
  induction fields generalizing kept with
  | nil => exact ⟨nodup, fun field member => .inr member⟩
  | cons field rest ih =>
    have put_nodup : (fieldNames (putEntry field.1 field.2 kept)).Nodup := by
      rw [fieldNames, putEntry_keys]
      split_ifs with held
      · exact nodup
      · exact List.nodup_append.mpr ⟨nodup, List.nodup_singleton _, by
          intro name inside other here same
          rw [List.mem_singleton.mp here] at same
          exact held (same ▸ inside)⟩
    obtain ⟨all_nodup, inside⟩ := ih put_nodup
    refine ⟨all_nodup, ?_⟩
    intro other member
    rcases inside other member with later | before
    · exact .inl (List.mem_cons_of_mem _ later)
    · rcases putEntry_mem before with same | held
      · exact .inl (same ▸ List.mem_cons_self)
      · exact .inr held

theorem wellKeyed_keepLast {fields : List (String × Json)} (each : ∀ field ∈ fields, wellKeyed field.2 = true) :
    wellKeyed (.obj (keepLast fields)) = true := by
  obtain ⟨nodup, inside⟩ := @foldl_putEntry_keyed fields [] List.nodup_nil
  rw [wellKeyed, Bool.and_eq_true, decide_eq_true_eq, wellKeyedFields_iff]
  refine ⟨nodup, ?_⟩
  intro field member
  exact each field ((inside field member).resolve_right List.not_mem_nil)

/-- With this fuel what is decoded is well keyed. -/
structure Keyed (fuel : Nat) : Prop where
  value : ∀ text result, decodeValue fuel text = some result → wellKeyed result.1 = true
  items : ∀ text result, decodeItems fuel text = some result → ∀ item ∈ result.1, wellKeyed item = true
  fields : ∀ text result, decodeFields fuel text = some result → ∀ field ∈ result.1, wellKeyed field.2 = true

theorem literal_keyed {expected text : List Char} {value : Json} {result : Json × List Char}
    (plain : wellKeyed value = true) (read : literal expected value text = some result) :
    wellKeyed result.1 = true := by
  unfold literal at read
  split_ifs at read
  cases read
  exact plain

theorem parseNumber_keyed {token : List Char} {value : Json} (read : parseNumber token = some value) :
    wellKeyed value = true := by
  unfold parseNumber at read
  split_ifs at read
  · cases read
    rfl
  · obtain ⟨d, -, same⟩ := Option.map_eq_some_iff.mp read
    rw [← same]
    rfl

theorem Keyed.value_succ {fuel : Nat} (keyed : Keyed fuel) {text : List Char} {result : Json × List Char}
    (decoded : decodeValue (fuel + 1) text = some result) : wellKeyed result.1 = true := by
  cases text with
  | nil => cases decoded
  | cons c rest =>
    rw [decodeValue] at decoded
    split_ifs at decoded with quoted listed braced nulled true_ false_
    case pos =>
      obtain ⟨⟨chars, after⟩, -, same⟩ := Option.bind_eq_some_iff.mp decoded
      cases same
      rfl
    case pos =>
      split at decoded
      next => cases decoded; rfl
      next =>
        obtain ⟨⟨items, after⟩, inside, same⟩ := Option.bind_eq_some_iff.mp decoded
        cases same
        exact (wellKeyedItems_iff items).mpr (keyed.items _ _ inside)
    case pos =>
      split at decoded
      next => cases decoded; rfl
      next =>
        obtain ⟨⟨fields, after⟩, inside, same⟩ := Option.bind_eq_some_iff.mp decoded
        cases same
        exact wellKeyed_keepLast (keyed.fields _ _ inside)
    case pos => exact literal_keyed rfl decoded
    case pos => exact literal_keyed rfl decoded
    case pos => exact literal_keyed rfl decoded
    case neg =>
      obtain ⟨number, read, same⟩ := Option.bind_eq_some_iff.mp decoded
      cases same
      exact parseNumber_keyed read

theorem Keyed.items_succ {fuel : Nat} (keyed : Keyed fuel) {text : List Char} {result : List Json × List Char}
    (decoded : decodeItems (fuel + 1) text = some result) : ∀ item ∈ result.1, wellKeyed item = true := by
  rw [decodeItems] at decoded
  obtain ⟨⟨item, after⟩, inside, decoded⟩ := Option.bind_eq_some_iff.mp decoded
  have first := keyed.value _ _ inside
  simp only at decoded
  split at decoded
  next =>
    obtain ⟨⟨items, last⟩, others, same⟩ := Option.bind_eq_some_iff.mp decoded
    cases same
    intro other member
    rcases List.mem_cons.mp member with rfl | later
    · exact first
    · exact keyed.items _ _ others other later
  next =>
    obtain ⟨last, -, same⟩ := Option.bind_eq_some_iff.mp decoded
    cases same
    intro other member
    rw [List.mem_singleton.mp member]
    exact first

theorem Keyed.fields_succ {fuel : Nat} (keyed : Keyed fuel) {text : List Char}
    {result : List (String × Json) × List Char} (decoded : decodeFields (fuel + 1) text = some result) :
    ∀ field ∈ result.1, wellKeyed field.2 = true := by
  rw [decodeFields] at decoded
  obtain ⟨opened, -, decoded⟩ := Option.bind_eq_some_iff.mp decoded
  obtain ⟨⟨key, named⟩, -, decoded⟩ := Option.bind_eq_some_iff.mp decoded
  obtain ⟨marked, -, decoded⟩ := Option.bind_eq_some_iff.mp decoded
  obtain ⟨⟨value, after⟩, inside, decoded⟩ := Option.bind_eq_some_iff.mp decoded
  have first := keyed.value _ _ inside
  simp only at decoded
  split at decoded
  next =>
    obtain ⟨⟨fields, last⟩, others, same⟩ := Option.bind_eq_some_iff.mp decoded
    cases same
    intro other member
    rcases List.mem_cons.mp member with rfl | later
    · exact first
    · exact keyed.fields _ _ others other later
  next =>
    obtain ⟨last, -, same⟩ := Option.bind_eq_some_iff.mp decoded
    cases same
    intro other member
    rw [List.mem_singleton.mp member]
    exact first

theorem keyed (fuel : Nat) : Keyed fuel := by
  induction fuel with
  | zero => exact ⟨nofun, nofun, nofun⟩
  | succ fuel ih => exact ⟨fun _ _ => ih.value_succ, fun _ _ => ih.items_succ, fun _ _ => ih.fields_succ⟩

/-- No object of a decoded value has a key twice. -/
theorem wellKeyed_decode {text : List Char} {value : Json} (decoded : decode text = some value) :
    wellKeyed value = true := by
  obtain ⟨⟨read, rest⟩, inside, ended⟩ := Option.bind_eq_some_iff.mp decoded
  simp only at ended
  split_ifs at ended
  cases ended
  exact (keyed _).value _ _ inside

end WellKeyed

end Lib.Json
