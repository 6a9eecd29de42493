import ExaServe.Lib.JsonLines
import ExaServe.Staging.CollectiveReading

namespace ExaServe.Staging

open Lib

section Identity

variable {attemptId : String} {rank : Nat} {node : String}

/-- The identity of a payload that is written as this value. -/
def idOf (attemptId : String) (rank : Nat) (node : String) (payload : Json) : String :=
  String.ofList ((Sha256.hexdigest (Plan.asciiBytes
    (Json.arr [.str attemptId, .int rank, .str node, payload]).dumps)).toList.take 32)

theorem resultId_textKeyed {payload : Value} {json : Json} (keyed : payload.textKeyed = true)
    (written : payload.json? = some json) :
    resultId attemptId rank node payload = some (idOf attemptId rank node json) := by
  have listed : (Value.list [.str attemptId, .int rank, .str node, payload]).textKeyed = true := by
    simp [Value.textKeyed, Value.textKeyedItems, keyed]
  have encoded : (Value.list [.str attemptId, .int rank, .str node, payload]).json? =
      some (.arr [.str attemptId, .int rank, .str node, json]) := by
    simp [Value.json?, Value.jsonItems, written]
  rw [resultId, ((Value.sortsText _) listed).1, encoded, Option.map_some, Option.map_some, Json.printed_canonical]
  rfl

/-- What a rank published has the same identity once it is decoded. -/
theorem resultId_decoded (json : Json) :
    resultId attemptId rank node (Value.ofJson json.canonical) = some (idOf attemptId rank node json) := by
  have whole : Value.list [.str attemptId, .int rank, .str node, Value.ofJson json.canonical] =
      Value.ofJson (.arr [.str attemptId, .int rank, .str node, json.canonical]) := rfl
  have same : (Json.arr [.str attemptId, .int rank, .str node, json.canonical]).dumps =
      (Json.arr [.str attemptId, .int rank, .str node, json]).dumps := by
    simp [Json.dumps, Json.dumps_canonical]
  rw [resultId, whole, Value.sortedJson?_ofJson, Option.map_some, Json.printed_canonical, same]
  rfl

theorem isResultId_idOf (json : Json) : isResultId (idOf attemptId rank node json) = true := by
  have hex_char : ∀ n < 16, isHexChar (Sha256.hexChar n) = true := by decide
  rw [isResultId, idOf, String.toList_ofList, List.length_take, Sha256.hexdigest_length]
  simp only [Nat.reduceLeDiff, Nat.min_eq_left, decide_true, Bool.true_and, List.all_eq_true]
  intro c member
  obtain ⟨n, small, same⟩ := Sha256.hexdigest_chars _ c (List.mem_of_mem_take member)
  rw [same]
  exact hex_char n small

end Identity

section Records

variable {refusal : Value → String} {attemptId : String} {rank : Nat} {run : RankRun}

/-- The dictionaries of what an operation returns have texts for keys. -/
def RankRun.TextKeyed (run : RankRun) : Prop :=
  ∀ payload, run.operation = .returned payload → payload.textKeyed = true

/-- The operation returned an object that can be written. -/
def RankRun.Publishes (run : RankRun) (fields : List (String × Json)) : Prop :=
  ∃ payload, run.operation = .returned payload ∧ payload.json? = some (.obj fields)

/-- What a rank publishes as JSON: its payload, and its error. -/
inductive Outcome (refusal : Value → String) (run : RankRun) : Json → String → Prop where
  | published {entries : List (Value × Value)} {fields : List (String × Json)}
      (returned : run.operation = .returned (.dict entries)) (keyed : (Value.dict entries).textKeyed = true)
      (written : (Value.dict entries).json? = some (.obj fields))
      (outcome : run.outcome refusal = (.dict entries, "")) : Outcome refusal run (.obj fields) ""
  | failed {error : String} (none : ∀ fields, ¬ run.Publishes fields)
      (outcome : run.outcome refusal = (.none, error)) : Outcome refusal run .null error

theorem json?_obj {payload : Value} {fields : List (String × Json)} (written : payload.json? = some (.obj fields)) :
    ∃ entries, payload = .dict entries := by
  cases payload with
  | dict entries => exact ⟨entries, rfl⟩
  | list items | tuple items =>
    obtain ⟨_, _, wrong⟩ := Option.map_eq_some_iff.mp written
    cases wrong
  | _ => cases written

theorem outcome_cases (keyed : run.TextKeyed) : ∃ json error, Outcome refusal run json error := by
  cases operation : run.operation with
  | raised error =>
    refine ⟨_, _, .failed ?_ (by rw [RankRun.outcome, operation])⟩
    rintro fields ⟨payload, returned, -⟩
    rw [operation] at returned
    cases returned
  | returned payload =>
    by_cases object : ∃ entries, payload = .dict entries
    · obtain ⟨entries, same⟩ := object
      subst same
      have texts := keyed _ operation
      have sorted := ((Value.sortsText _) texts).1
      cases written : (Value.dict entries).json? with
      | none =>
        rw [written] at sorted
        refine ⟨_, ?_, .failed ?_ ?_⟩
        · exact String.ofList (Plan.strip (bounded (refusal (.dict entries))).toList)
        · rintro fields ⟨payload, returned, encoded⟩
          cases operation.symm.trans returned
          rw [written] at encoded
          cases encoded
        · rw [RankRun.outcome, operation]
          simp only [sorted, Option.map_none]
      | some json =>
        obtain ⟨fields, -, same⟩ := Option.map_eq_some_iff.mp
          (show (Value.jsonEntries entries).map Json.obj = some json from written)
        subst same
        rw [written] at sorted
        exact ⟨_, _, .published operation texts written
          (by rw [RankRun.outcome, operation]; simp only [sorted, Option.map_some])⟩
    · refine ⟨_, ?_, .failed ?_ ?_⟩
      · exact String.ofList (Plan.strip (bounded "TypeError: staging operation payload must be an object\n").toList)
      · rintro fields ⟨other, returned, encoded⟩
        cases operation.symm.trans returned
        exact object (json?_obj encoded)
      · rw [RankRun.outcome, operation]
        cases payload with
        | dict entries => exact absurd ⟨entries, rfl⟩ object
        | _ => rfl

theorem Outcome.value {json : Json} {error : String} (outcome : Outcome refusal run json error) :
    (run.outcome refusal).1.textKeyed = true ∧ (run.outcome refusal).1.json? = some json ∧
      (run.outcome refusal).2 = error := by
  cases outcome with
  | published returned keyed written same => rw [same]; exact ⟨keyed, written, rfl⟩
  | failed none same => rw [same]; exact ⟨rfl, rfl, rfl⟩

/-- The record of a rank as JSON. -/
def recordJson (attemptId : String) (rank : Nat) (run : RankRun) (json : Json) (error : String) :
    List (String × Json) :=
  [("schema_version", .int 1), ("attempt_id", .str attemptId),
   ("result_id", .str (idOf attemptId rank run.node json)),
    ("rank", .int rank), ("node", .str run.node),
   ("ok", .bool (error = "")), ("payload", json), ("error", .str error),
    ("stdout", .str (bounded run.stdout)), ("stderr", .str (bounded run.stderr))]

theorem record_written {json : Json} {error : String} (outcome : Outcome refusal run json error) :
    ∃ value, run.record refusal attemptId rank = some value ∧ value.textKeyed = true ∧
      value.json? = some (.obj (recordJson attemptId rank run json error)) := by
  obtain ⟨keyed, written, failed⟩ := outcome.value
  rw [RankRun.record]
  simp only [resultId_textKeyed keyed written, Option.map_some, failed]
  refine ⟨_, rfl, ?_, ?_⟩
  · simp [Value.ofFields, Value.textKeyed, Value.textKeyedEntries, Value.text?, keyed]
  · simp [Value.ofFields, Value.json?, Value.jsonEntries, Value.keyText?, written, recordJson]

theorem recordJson_nodup {json : Json} {error : String} :
    (Json.fieldNames (recordJson attemptId rank run json error)).Nodup := by
  simp [recordJson, Json.fieldNames]

/-- The decoded record is well formed where the rank has a name and its verdict fits its payload. -/
theorem recordOf_written {json : Json} {error : String} :
    recordOf attemptId rank (Json.obj (recordJson attemptId rank run json error)).canonical =
      if run.node ≠ "" ∧ (if error = "" then isObject json.canonical else isNull json.canonical) = true then
        some ⟨idOf attemptId rank run.node json, run.node, error = "", json.canonical, error⟩
      else none := by
  have stored : ∀ key,
      Json.lookup key (Json.sortFields (Json.canonicalFields (recordJson attemptId rank run json error))) =
      (Json.lookup key (recordJson attemptId rank run json error)).map Json.canonical :=
        Json.lookup_stored recordJson_nodup
  have names : Json.sameNames (Json.sortFields (Json.canonicalFields (recordJson attemptId rank run json error)))
      recordFields = true := by
    rw [Json.sameNames_stored]
    simp [Json.sameNames, Json.fieldNames, recordJson, recordFields]
  rw [Json.canonical, recordOf, if_pos names]
  simp only [stored]
  simp [recordJson, Json.lookup, Json.canonical, isResultId_idOf]

/-- A rank's decoded record is published exactly where the rank has a name and its operation
    returned an object. -/
theorem published_iff {json : Json} {error : String} (outcome : Outcome refusal run json error) {record : Record} :
    Published attemptId rank (Json.obj (recordJson attemptId rank run json error)).canonical record ↔
      run.node ≠ "" ∧ (∃ fields, run.Publishes fields) ∧
        record = ⟨idOf attemptId rank run.node json, run.node, true, json.canonical, ""⟩ := by
  cases outcome with
  | @published entries fields returned keyed written same =>
    have formed_eq : recordOf attemptId rank
        (Json.obj (recordJson attemptId rank run (.obj fields) "")).canonical =
          if run.node ≠ "" then
            some ⟨idOf attemptId rank run.node (.obj fields), run.node, true, (Json.obj fields).canonical, ""⟩
          else none := by
      rw [recordOf_written]
      simp [Json.canonical, isObject]
    constructor
    · rintro ⟨formed, -, -⟩
      rw [formed_eq] at formed
      split_ifs at formed with named
      exact ⟨named, ⟨fields, _, returned, written⟩, (Option.some.inj formed).symm⟩
    · rintro ⟨named, -, same_record⟩
      subst same_record
      exact ⟨by rw [formed_eq, if_pos named], rfl, resultId_decoded (.obj fields)⟩
  | failed none same =>
    constructor
    · rintro ⟨formed, good, -⟩
      rw [recordOf_written] at formed
      split_ifs at formed with passed shape shape
      · cases shape.2
      · rw [← Option.some.inj formed] at good
        exact absurd (of_decide_eq_true good) passed
    · rintro ⟨-, ⟨fields, published⟩, -⟩
      exact absurd published (none fields)

end Records

end ExaServe.Staging
