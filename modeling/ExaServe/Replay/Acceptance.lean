import ExaServe.Replay.GoContract
import Mathlib.Algebra.BigOperators.Ring.Finset
import Mathlib.Algebra.Order.Ring.Cast

namespace ExaServe.Replay

open Lib

variable {F : Type} [GoFloat F]

section Present

theorem fieldNames_present {fields : List (String × Option Json)} {name : String}
    (absent : name ∉ fields.map Prod.fst) : Json.lookup name (present fields) = none := by
  induction fields with
  | nil => rfl
  | cons field rest ih =>
    rw [List.map_cons, List.mem_cons, not_or] at absent
    obtain ⟨key, value⟩ := field
    cases value with
    | none => exact ih absent.2
    | some value =>
      show Json.lookup name ((key, value) :: present rest) = none
      rw [Json.lookup, if_neg (Ne.symm absent.1)]
      exact ih absent.2

/-- A field of an object is the one that was written under its name, if it was. -/
theorem lookup_present {fields : List (String × Option Json)} (distinct : (fields.map Prod.fst).Nodup) (name : String) :
    Json.lookup name (present fields) = (findEntry name fields).join := by
  induction fields with
  | nil => rfl
  | cons field rest ih =>
    obtain ⟨key, value⟩ := field
    obtain ⟨fresh, later⟩ := List.nodup_cons.mp distinct
    rw [findEntry]
    split_ifs with same
    · cases value with
      | none =>
        show Json.lookup name (present rest) = none
        rw [← same]
        exact fieldNames_present fresh
      | some value =>
        show Json.lookup name ((key, value) :: present rest) = some value
        rw [Json.lookup, if_pos same]
    · cases value with
      | none => exact ih later
      | some value =>
        show Json.lookup name ((key, value) :: present rest) = _
        rw [Json.lookup, if_neg same]
        exact ih later

theorem mem_names_present {fields : List (String × Option Json)} {name : String} :
    name ∈ Json.fieldNames (present fields) ↔ ∃ value, (name, some value) ∈ fields := by
  simp only [Json.fieldNames, present, List.mem_map, List.mem_filterMap, Option.map_eq_some_iff]
  constructor
  · rintro ⟨_, ⟨⟨key, value⟩, listed, found, written, rfl⟩, rfl⟩
    exact ⟨found, by rwa [← written]⟩
  · rintro ⟨value, listed⟩
    exact ⟨(name, value), ⟨(name, some value), listed, value, rfl, rfl⟩, rfl⟩

end Present

section Values

variable [LawfulGoFloat F]

theorem numberOf_nonneg (value : F) : 0 ≤ numberOf value ↔ 0 ≤ value := by
  rw [← not_lt, ← not_lt, ← LawfulGoFloat.number_lt value 0, LawfulGoFloat.number_zero]

theorem number_ok (value : F) : numberOk (GoFloat.number value) = true ↔ 0 ≤ value := by
  rw [← numberOf_nonneg]
  unfold numberOf
  rcases LawfulGoFloat.number_plain value with ⟨whole, written⟩ | ⟨text, written⟩
  · rw [written]
    simp only [numberOk, Json.number?, Option.getD_some, decide_eq_true_eq]
    exact_mod_cast Iff.rfl
  · rw [written]
    simp [numberOk, Json.number?]

theorem numberField_ok (value : F) : (numberField value).all numberOk = true ↔ 0 ≤ value := by
  unfold numberField
  split_ifs with zero
  · simp [zero]
  · exact number_ok value

theorem countOk_int (value : Int) : countOk (.int value) = true ↔ 0 ≤ value := decide_eq_true_iff

theorem positiveOk_int (value : Int) : positiveOk (.int value) = true ↔ 1 ≤ value := decide_eq_true_iff

theorem textOk_str (text : String) : textOk (.str text) = true ↔ text ≠ "" := decide_eq_true_iff

theorem intField_ok (value : Int) : (intField value).all countOk = true ↔ 0 ≤ value := by
  unfold intField
  split_ifs with zero
  · simp [zero]
  · simp [countOk]

theorem textField_text (text : String) : (textField text).all isText = true := by
  unfold textField
  split_ifs <;> rfl

theorem usage_ok (usage : Usage) : usageOk (usageJson usage) = true ↔ ∀ count, usage = some count → 0 ≤ count := by
  cases usage with
  | none => simp [usageJson, usageOk]
  | some count => simp [usageJson, usageOk, countOk]

end Values

section Records

/-- What every row has of its request, and of the answer to it. -/
structure RowShape (rec : ResultRecord F) : Prop where
  reqId : rec.reqId ≠ ""
  model : rec.model ≠ ""
  inputLen : 0 ≤ rec.inputLen
  outputLen : 0 ≤ rec.outputLen
  tensorParallelSize : 1 ≤ rec.tensorParallelSize
  statusCode : 0 ≤ rec.statusCode
  decodeTokens : 0 ≤ rec.decodeTokens

/-- The measurements a reader accepts. -/
structure RowInRange (rec : ResultRecord F) : Prop where
  prompt : ∀ count, rec.actualPromptTokens = some count → 0 ≤ count
  completion : ∀ count, rec.actualCompletionTokens = some count → 0 ≤ count
  latency : 0 ≤ rec.latency
  endTime : 0 ≤ rec.endTime
  scheduledAt : 0 ≤ rec.scheduledAt
  enqueuedAt : 0 ≤ rec.enqueuedAt
  dequeuedAt : 0 ≤ rec.dequeuedAt
  requestStartAt : 0 ≤ rec.requestStartAt
  headersAt : 0 ≤ rec.headersAt
  firstTokenAt : 0 ≤ rec.firstTokenAt
  bodyDoneAt : 0 ≤ rec.bodyDoneAt
  ttft : 0 ≤ rec.ttft
  tbtP50 : 0 ≤ rec.tbtP50
  tbtP99 : 0 ≤ rec.tbtP99
  tbtMax : 0 ≤ rec.tbtMax

theorem recordFields_distinct (rec : ResultRecord F) : ((recordFields rec).map Prod.fst).Nodup := by
  simp [recordFields]

theorem record_names (rec : ResultRecord F) :
    requiredNames (present (recordFields rec)) recordRequired recordOptional = true := by
  simp only [requiredNames, Bool.and_eq_true, List.all_eq_true, List.contains_iff_mem, mem_names_present]
  constructor
  · simp [recordRequired, recordFields]
  · rintro name ⟨value, listed⟩
    have known : ∀ name ∈ (recordFields rec).map Prod.fst, name ∈ recordRequired ++ recordOptional := by
      simp [recordFields, recordRequired, recordOptional]
    exact known name (List.mem_map_of_mem listed)

/-- A check of a row is the check of the field that was written. -/
theorem record_check {rec : ResultRecord F} {place what name : String} {ok : Json → Bool} {value : Option Json}
    (found : findEntry name (recordFields rec) = some value) :
    checkField (present (recordFields rec)) place ok what name = .ok () ↔ value.all ok = true := by
  rw [checkField, ensure_ok_iff, lookup_present (recordFields_distinct rec), found]
  rfl

theorem record_written {rec : ResultRecord F} {place what name : String} {ok : Json → Bool} {value : Json}
    (found : findEntry name (recordFields rec) = some (some value)) :
    checkField (present (recordFields rec)) place ok what name = .ok () ↔ ok value = true := record_check found

variable [LawfulGoFloat F]

/-- A row is accepted exactly when its measurements are in range. -/
theorem record_valid_iff {rec : ResultRecord F} (shape : RowShape rec) :
    validateGoResultRecord (present (recordFields rec)) = .ok () ↔ RowInRange rec := by
  simp only [validateGoResultRecord, seq_ok_iff, ensure_ok_iff, forM_ok_iff, checkNumber, checkCount, recordNumbers,
    record_names, List.forall_mem_cons, List.not_mem_nil, false_implies, implies_true, and_true, true_and]
  constructor
  · intro checks
    obtain ⟨-, -, -, -, -, ⟨prompt, completion⟩, -, latency, endTime, scheduledAt, enqueuedAt, dequeuedAt, requestStartAt,
      headersAt, firstTokenAt, bodyDoneAt, ttft, tbtP50, tbtP99, tbtMax⟩ := checks
    exact {
      prompt := (usage_ok rec.actualPromptTokens).mp ((record_written rfl).mp prompt)
      completion := (usage_ok rec.actualCompletionTokens).mp ((record_written rfl).mp completion)
      latency := (number_ok rec.latency).mp ((record_written rfl).mp latency)
      endTime := (number_ok rec.endTime).mp ((record_written rfl).mp endTime)
      scheduledAt := (numberField_ok rec.scheduledAt).mp ((record_check rfl).mp scheduledAt)
      enqueuedAt := (numberField_ok rec.enqueuedAt).mp ((record_check rfl).mp enqueuedAt)
      dequeuedAt := (numberField_ok rec.dequeuedAt).mp ((record_check rfl).mp dequeuedAt)
      requestStartAt := (numberField_ok rec.requestStartAt).mp ((record_check rfl).mp requestStartAt)
      headersAt := (numberField_ok rec.headersAt).mp ((record_check rfl).mp headersAt)
      firstTokenAt := (numberField_ok rec.firstTokenAt).mp ((record_check rfl).mp firstTokenAt)
      bodyDoneAt := (numberField_ok rec.bodyDoneAt).mp ((record_check rfl).mp bodyDoneAt)
      ttft := (numberField_ok rec.ttft).mp ((record_check rfl).mp ttft)
      tbtP50 := (numberField_ok rec.tbtP50).mp ((record_check rfl).mp tbtP50)
      tbtP99 := (numberField_ok rec.tbtP99).mp ((record_check rfl).mp tbtP99)
      tbtMax := (numberField_ok rec.tbtMax).mp ((record_check rfl).mp tbtMax) }
  · intro range
    have numbers := @numberField_ok F _ _
    refine ⟨⟨(record_written rfl).mpr ((textOk_str _).mpr shape.reqId), (record_written rfl).mpr ((textOk_str _).mpr shape.model)⟩,
      ⟨(record_written rfl).mpr rfl, (record_check rfl).mpr (textField_text _)⟩, (record_written rfl).mpr rfl,
      ⟨(record_written rfl).mpr ((countOk_int _).mpr shape.inputLen), (record_written rfl).mpr ((countOk_int _).mpr shape.outputLen),
        (record_written rfl).mpr ((countOk_int _).mpr (le_trans Int.one_nonneg shape.tensorParallelSize))⟩,
      (record_written rfl).mpr ((positiveOk_int _).mpr shape.tensorParallelSize),
      ⟨(record_written rfl).mpr ((usage_ok _).mpr range.prompt), (record_written rfl).mpr ((usage_ok _).mpr range.completion)⟩,
      ⟨(record_check rfl).mpr ((intField_ok _).mpr shape.statusCode),
        (record_check rfl).mpr ((intField_ok _).mpr shape.decodeTokens)⟩,
      (record_written rfl).mpr ((number_ok _).mpr range.latency), (record_written rfl).mpr ((number_ok _).mpr range.endTime),
      (record_check rfl).mpr ((numbers _).mpr range.scheduledAt), (record_check rfl).mpr ((numbers _).mpr range.enqueuedAt),
      (record_check rfl).mpr ((numbers _).mpr range.dequeuedAt),
      (record_check rfl).mpr ((numbers _).mpr range.requestStartAt),
      (record_check rfl).mpr ((numbers _).mpr range.headersAt), (record_check rfl).mpr ((numbers _).mpr range.firstTokenAt),
      (record_check rfl).mpr ((numbers _).mpr range.bodyDoneAt), (record_check rfl).mpr ((numbers _).mpr range.ttft),
      (record_check rfl).mpr ((numbers _).mpr range.tbtP50), (record_check rfl).mpr ((numbers _).mpr range.tbtP99),
      (record_check rfl).mpr ((numbers _).mpr range.tbtMax)⟩

end Records

section RawStream

/-- The endpoints a reader accepts. -/
structure EndsInRange (ends : Endpoints F) : Prop where
  fire : 0 ≤ ends.lastFireTime
  start : 0 ≤ ends.lastRequestStartAt
  done : 0 ≤ ends.lastBodyDoneAt
  runT0 : 0 ≤ ends.runT0

def dispatchFields (ends : Endpoints F) : List (String × Json) :=
  [("__type__", .str "dispatch_done"), ("last_fire_time", GoFloat.number ends.lastFireTime),
    ("last_request_start_at", GoFloat.number ends.lastRequestStartAt),
    ("last_body_done_at", GoFloat.number ends.lastBodyDoneAt), ("adjusted_run_t0", GoFloat.number ends.runT0)]

theorem record_type (rec : ResultRecord F) : textAt "__type__" (present (recordFields rec)) = none := by
  rw [textAt, lookup_present (recordFields_distinct rec)]
  rfl

theorem record_reqId (rec : ResultRecord F) : textAt "req_id" (present (recordFields rec)) = some rec.reqId := by
  rw [textAt, lookup_present (recordFields_distinct rec)]
  rfl

variable [LawfulGoFloat F]

theorem dispatchDone_valid_iff (ends : Endpoints F) :
    validateDispatchDone (dispatchFields ends) = .ok () ↔ EndsInRange ends := by
  have names : Json.sameNames (dispatchFields ends) dispatchDoneFields = true := by
    simp [Json.sameNames, Json.fieldNames, dispatchFields, dispatchDoneFields]
  have field {name : String} {value : F} (found : Json.lookup name (dispatchFields ends) = some (GoFloat.number value)) :
      checkNumber (dispatchFields ends) "dispatch_done" name = .ok () ↔ 0 ≤ value := by
    rw [checkNumber, checkField, ensure_ok_iff, found]
    exact number_ok value
  simp only [validateDispatchDone, seq_ok_iff, ensure_ok_iff, forM_ok_iff, names, List.forall_mem_cons, List.not_mem_nil,
    false_implies, implies_true, and_true, true_and]
  rw [@field _ ends.lastFireTime rfl, @field _ ends.lastRequestStartAt rfl, @field _ ends.lastBodyDoneAt rfl,
    @field _ ends.runT0 rfl]
  constructor
  · rintro ⟨fire, start, done, runT0⟩
    exact ⟨fire, start, done, runT0⟩
  · intro range
    exact ⟨range.fire, range.start, range.done, range.runT0⟩

theorem takeRow_record {rec : ResultRecord F} (shape : RowShape rec) (records : List (List (String × Json)))
    (seen : List String) (next : Reading) :
    takeRow ⟨records, seen, none⟩ (recordJson rec) = .ok next ↔
      (RowInRange rec ∧ rec.reqId ∉ seen) ∧
        next = ⟨records ++ [present (recordFields rec)], rec.reqId :: seen, none⟩ := by
  have typed : ∀ kind : String, textAt "__type__" (present (recordFields rec)) ≠ some kind := by
    intro kind same
    rw [record_type] at same
    cases same
  rw [recordJson, takeRow, if_neg (by simp), if_neg (typed _), if_neg (typed _), record_reqId]
  constructor
  · intro done
    obtain ⟨⟨⟩, valid, done⟩ := bind_ok done
    obtain ⟨⟨⟩, fresh, done⟩ := bind_ok done
    cases done
    exact ⟨⟨(record_valid_iff shape).mp valid, ensure_holds fresh⟩, rfl⟩
  · rintro ⟨⟨range, fresh⟩, rfl⟩
    exact (ok_bind ((record_valid_iff shape).mpr range) _).trans (ok_bind (ensure_ok fresh _) _)

/-- The rows of a file are taken one after another, each with an identity of its own. -/
theorem takeRows_iff {rows : List (ResultRecord F)} (shape : ∀ row ∈ rows, RowShape row)
    (distinct : (rows.map ResultRecord.reqId).Nodup) {records : List (List (String × Json))} {seen : List String}
    (fresh : ∀ row ∈ rows, row.reqId ∉ seen) (next : Reading) :
    (rows.map recordJson).foldlM takeRow ⟨records, seen, none⟩ = .ok next ↔
      (∀ row ∈ rows, RowInRange row) ∧
        next = ⟨records ++ rows.map fun row => present (recordFields row),
          (rows.map ResultRecord.reqId).reverse ++ seen, none⟩ := by
  induction rows generalizing records seen with
  | nil =>
    simp only [List.map_nil, List.foldlM_nil, List.append_nil, List.reverse_nil, List.nil_append, List.not_mem_nil,
      false_implies, implies_true, true_and]
    exact ⟨fun same => (Except.ok.inj same).symm, fun same => congrArg Except.ok same.symm⟩
  | cons row rest ih =>
    obtain ⟨here, others⟩ := List.forall_mem_cons.mp shape
    obtain ⟨apart, later⟩ := List.nodup_cons.mp distinct
    have unseen : ∀ other ∈ rest, other.reqId ∉ row.reqId :: seen := by
      intro other listed repeated
      rcases List.mem_cons.mp repeated with same | known
      · exact apart (same ▸ List.mem_map_of_mem listed)
      · exact fresh other (List.mem_cons_of_mem _ listed) known
    have tail := @ih others later (records ++ [present (recordFields row)]) (row.reqId :: seen) unseen
    rw [List.map_cons, List.foldlM_cons]
    constructor
    · intro done
      obtain ⟨middle, taken, done⟩ := bind_ok done
      obtain ⟨⟨range, -⟩, rfl⟩ := (takeRow_record here _ _ _).mp taken
      obtain ⟨ranges, rfl⟩ := tail.mp done
      exact ⟨List.forall_mem_cons.mpr ⟨range, ranges⟩, by simp⟩
    · rintro ⟨ranges, rfl⟩
      obtain ⟨range, ranges⟩ := List.forall_mem_cons.mp ranges
      have first := (takeRow_record here records seen _).mpr ⟨⟨range, fresh row List.mem_cons_self⟩, rfl⟩
      rw [ok_bind first]
      exact tail.mpr ⟨ranges, by simp⟩

/-- The raw results of a process are read, and then as they were written, exactly when its rows and endpoints are in
    range. -/
theorem raw_stream_eq {process : GoProcess F} (collected : Collected F) (shape : ∀ row ∈ process.rows, RowShape row)
    (distinct : (process.rows.map ResultRecord.reqId).Nodup) (stream : GoResultStream) :
    readGoResultStream (writeResults false process collected) = .ok stream ↔
      ((∀ row ∈ process.rows, RowInRange row) ∧ EndsInRange process.ends) ∧
        stream = ⟨process.rows.map fun row => present (recordFields row), dispatchFields process.ends⟩ := by
  have rows := @takeRows_iff F _ _ process.rows shape distinct [] [] fun row _ => List.not_mem_nil
  have last (reading : Reading) (open_ : reading.terminal = none) :
      takeRow reading (dispatchDoneJson process.ends) =
        (validateDispatchDone (dispatchFields process.ends)).map fun _ =>
          { reading with terminal := some (dispatchFields process.ends) } := by
    have typed : textAt "__type__" (dispatchFields process.ends) = some "dispatch_done" := rfl
    show takeRow reading (.obj (dispatchFields process.ends)) = _
    rw [takeRow, if_neg (by simp [open_]), if_neg (by simp [typed]), if_pos typed]
    cases validateDispatchDone (dispatchFields process.ends) <;> rfl
  have written : writeResults false process collected = process.rows.map recordJson ++ [dispatchDoneJson process.ends] := rfl
  unfold readGoResultStream
  rw [written, List.foldlM_append]
  constructor
  · intro done
    obtain ⟨reading, taken, done⟩ := bind_ok done
    obtain ⟨before, taken, ended⟩ := bind_ok taken
    obtain ⟨ranges, rfl⟩ := (rows before).mp taken
    rw [List.foldlM_cons] at ended
    obtain ⟨after, final, ended⟩ := bind_ok ended
    rw [last _ rfl] at final
    cases valid : validateDispatchDone (dispatchFields process.ends) with
    | error failure =>
      rw [valid] at final
      cases final
    | ok _ =>
      rw [valid] at final
      cases final
      cases ended
      cases done
      exact ⟨⟨ranges, (dispatchDone_valid_iff process.ends).mp valid⟩, rfl⟩
  · rintro ⟨⟨ranges, range⟩, rfl⟩
    rw [ok_bind ((rows _).mpr ⟨ranges, rfl⟩), List.foldlM_cons, last _ rfl, (dispatchDone_valid_iff process.ends).mpr range]
    rfl

theorem raw_stream_iff {process : GoProcess F} (collected : Collected F) (shape : ∀ row ∈ process.rows, RowShape row)
    (distinct : (process.rows.map ResultRecord.reqId).Nodup) :
    readGoResultStream (writeResults false process collected) =
        .ok ⟨process.rows.map fun row => present (recordFields row), dispatchFields process.ends⟩ ↔
      (∀ row ∈ process.rows, RowInRange row) ∧ EndsInRange process.ends :=
  (raw_stream_eq collected shape distinct _).trans (and_iff_left rfl)

end RawStream

section SummaryStream

/-- What the health fields of a summary are when a client writes them. -/
structure HealthSound (health : Health F) : Prop where
  counts : ∀ entry ∈ health.errorCounts, entry.1 ≠ ""
  samples : ∀ entry ∈ health.errorSamples, entry.1 ≠ ""
  lag : 0 ≤ health.dispatchLagP99S

omit [GoFloat F] in
theorem errorClassOf_some (rec : ResultRecord F) : errorClassOf rec ≠ "" := by
  unfold errorClassOf
  split_ifs with empty
  · decide
  · exact empty

/-- Every error of a summary is counted and sampled under a class that has a name. -/
def Aggregate.Named (totals : Aggregate) : Prop :=
  "" ∉ totals.errorCounts.map Prod.fst ∧ "" ∉ totals.errorSamples.map Prod.fst

theorem Aggregate.Named.add {totals : Aggregate} (named : totals.Named) (rec : ResultRecord F) : (totals.add rec).Named := by
  have some_class := errorClassOf_some rec
  unfold Aggregate.add
  split_ifs
  · exact named
  · constructor
    · show "" ∉ (putEntry (errorClassOf rec) _ totals.errorCounts).map Prod.fst
      rw [putEntry_keys]
      split_ifs
      · exact named.1
      · simpa [named.1] using Ne.symm some_class
    · show "" ∉ (if (findEntry (errorClassOf rec) totals.errorSamples).isSome then totals.errorSamples
        else totals.errorSamples ++ [(errorClassOf rec, errorSample rec.error)]).map Prod.fst
      split_ifs
      · exact named.2
      · rw [List.map_append, List.mem_append, not_or]
        exact ⟨named.2, by simpa using Ne.symm some_class⟩

theorem aggregate_named (workerResults : List (List (ResultRecord F))) : (aggregate workerResults).Named := by
  have kept (rows : List (ResultRecord F)) (totals : Aggregate) (named : totals.Named) :
      (rows.foldl Aggregate.add totals).Named := by
    induction rows generalizing totals with
    | nil => exact named
    | cons row rest ih => exact ih _ (named.add row)
  exact kept _ _ ⟨List.not_mem_nil, List.not_mem_nil⟩

theorem summaryFields_distinct (summary : Summary F) (health : Health F) :
    ((summaryFields summary health).map Prod.fst).Nodup := by
  simp [summaryFields]

theorem summary_names (summary : Summary F) (health : Health F) :
    requiredNames (present (summaryFields summary health)) summaryRequired summaryOptional = true := by
  simp only [requiredNames, Bool.and_eq_true, List.all_eq_true, List.contains_iff_mem, mem_names_present]
  constructor
  · simp [summaryRequired, summaryFields]
  · rintro name ⟨value, listed⟩
    have known : ∀ name ∈ (summaryFields summary health).map Prod.fst, name ∈ summaryRequired ++ summaryOptional := by
      simp [summaryFields, summaryRequired, summaryOptional]
    exact known name (List.mem_map_of_mem listed)

theorem summary_check {summary : Summary F} {health : Health F} {place what name : String} {ok : Json → Bool}
    {value : Option Json} (found : findEntry name (summaryFields summary health) = some value) :
    checkField (present (summaryFields summary health)) place ok what name = .ok () ↔ value.all ok = true := by
  rw [checkField, ensure_ok_iff, lookup_present (summaryFields_distinct summary health), found]
  rfl

theorem summary_written {summary : Summary F} {health : Health F} {place what name : String} {ok : Json → Bool}
    {value : Json} (found : findEntry name (summaryFields summary health) = some (some value)) :
    checkField (present (summaryFields summary health)) place ok what name = .ok () ↔ ok value = true :=
  summary_check found

theorem intAt_summary {summary : Summary F} {health : Health F} {name : String} {value : Int}
    (found : findEntry name (summaryFields summary health) = some (some (.int value))) :
    intAt (present (summaryFields summary health)) name = value := by
  rw [intAt, lookup_present (summaryFields_distinct summary health), found]
  rfl

theorem errorCounts_ok {counts : List (String × Nat)} (named : ∀ entry ∈ counts, entry.1 ≠ "") :
    (if counts = [] then none else some (Json.obj (counts.map fun entry => (entry.1, .int entry.2)))).all
      (mapOf countOk) = true := by
  split_ifs
  · rfl
  · simp only [Option.all_some, mapOf, List.all_map, List.all_eq_true, Function.comp_apply, Bool.and_eq_true, decide_eq_true_eq]
    exact fun entry listed => ⟨named entry listed, (countOk_int _).mpr (Int.natCast_nonneg entry.2)⟩

theorem errorSamples_ok {samples : List (String × String)} (named : ∀ entry ∈ samples, entry.1 ≠ "") :
    (if samples = [] then none else some (Json.obj (samples.map fun entry => (entry.1, .str entry.2)))).all
      (mapOf isText) = true := by
  split_ifs
  · rfl
  · simp only [Option.all_some, mapOf, List.all_map, List.all_eq_true, Function.comp_apply, Bool.and_eq_true, decide_eq_true_eq]
    exact fun entry listed => ⟨named entry listed, rfl⟩

theorem warnings_ok (warnings : List String) :
    (if warnings = [] then none else some (Json.arr (warnings.map .str))).all (listOf isText) = true := by
  split_ifs
  · rfl
  · simp [listOf, isText]

theorem textField_some (text : String) : (textField text).all textOk = true := by
  unfold textField
  split_ifs with empty
  · rfl
  · exact (textOk_str text).mpr empty

variable [LawfulGoFloat F]

theorem number_some (value : F) : (GoFloat.number value).number? = some (numberOf value) := by
  unfold numberOf
  rcases LawfulGoFloat.number_plain value with ⟨whole, written⟩ | ⟨text, written⟩
  · rw [written]
    rfl
  · rw [written]
    rfl

theorem buckets_ok {histogram : Histogram F} (sound : HistogramSound histogram) :
    validateBuckets (histogram.bounds.map GoFloat.number) (histogram.counts.map fun count : Nat => .int count)
      histogram.count = .ok () := by
  obtain ⟨sorted, nonneg⟩ := @seconds_sorted F _ _
  have finite : histogram.bounds.dropLast = (logarithmicHistogramBounds F).map GoFloat.seconds := by
    rw [sound.bounds, snapshotBounds, List.dropLast_concat]
  have long : 2 ≤ histogram.bounds.length := by
    have some_bound := List.length_pos_iff.mpr (@bounds_sorted F _).2.1
    rw [sound.bounds, snapshotBounds, List.length_append, List.length_map, List.length_singleton]
    omega
  have mark : (histogram.bounds.map GoFloat.number).getLast?.bind Json.number? = some (-1) := by
    rw [sound.bounds, snapshotBounds, List.map_append, List.map_singleton, List.getLast?_concat, Option.bind_some,
      number_some, LawfulGoFloat.number_mark]
  have counts : (histogram.counts.map fun count : Nat => Json.int count).all countOk = true := by
    rw [List.all_map, List.all_eq_true]
    exact fun count _ => (countOk_int _).mpr (Int.natCast_nonneg count)
  have sum : (((histogram.counts.map fun count : Nat => Json.int count)).map intOf).sum = histogram.count := by
    rw [List.map_map, ← sound.counted]
    exact (Nat.cast_list_sum _).symm
  unfold validateBuckets
  rw [seq_ok_iff, seq_ok_iff, ensure_ok_iff, ensure_ok_iff, ensure_ok_iff, ← List.map_dropLast, finite]
  refine ⟨⟨?_, ?_, mark, Int.natCast_nonneg _, counts, sum⟩, ?_, ?_⟩
  · rw [List.length_map, List.length_map, sound.bounds, sound.width]
  · rwa [List.length_map]
  · rw [List.all_map, List.all_eq_true]
    exact fun bound listed => (number_ok bound).mpr (nonneg bound listed)
  · rw [List.map_map]
    refine (List.pairwise_map.mpr (sorted.imp ?_)).isChain
    intro lower upper below
    exact (LawfulGoFloat.number_lt lower upper).mpr below

theorem histogram_ok {histogram : Histogram F} (sound : HistogramSound histogram) :
    validateHistogram (histogramJson histogram) = .ok () := by
  have names : Json.sameNames [("bucket_upper_bounds_s", Json.arr (histogram.bounds.map GoFloat.number)),
      ("counts", .arr (histogram.counts.map fun count : Nat => .int count)), ("count", .int histogram.count),
      ("sum_s", GoFloat.number histogram.sumS)] histogramFields = true := by
    simp [Json.sameNames, Json.fieldNames, histogramFields]
  unfold histogramJson validateHistogram
  rw [seq_ok_iff, ensure_ok_iff, seq_ok_iff]
  refine ⟨names, buckets_ok sound, ?_⟩
  rw [checkNumber, checkField, ensure_ok_iff]
  exact (number_ok histogram.sumS).mpr sound.nonneg

theorem summary_valid {summary : Summary F} {health : Health F} (range : SummaryInRange summary) (sound : HealthSound health) :
    validateGoSummaryRow (present (summaryFields summary health)) = .ok () := by
  have completed := le_trans range.errors.1 range.errors.2
  have histogram : ((Json.lookup "latency_histogram" (present (summaryFields summary health))).map validateHistogram).getD
      (.ok ()) = .ok () := by
    rw [lookup_present (summaryFields_distinct summary health)]
    exact histogram_ok range.histogram
  have together : (Json.lookup "latency_histogram" (present (summaryFields summary health))).isSome =
      (Json.lookup "latency_quantile_method" (present (summaryFields summary health))).isSome := by
    rw [lookup_present (summaryFields_distinct summary health), lookup_present (summaryFields_distinct summary health)]
    rfl
  simp only [validateGoSummaryRow, seq_ok_iff, ensure_ok_iff, forM_ok_iff, checkNumber, checkCount, summary_names,
    together, histogram, List.forall_mem_cons, List.not_mem_nil, false_implies, implies_true, and_true, true_and]
  refine ⟨⟨(summary_written rfl).mpr ((countOk_int _).mpr completed),
      (summary_written rfl).mpr ((countOk_int _).mpr (le_trans completed range.scheduled)),
      (summary_written rfl).mpr ((countOk_int _).mpr range.errors.1),
      (summary_written rfl).mpr ((countOk_int _).mpr range.input),
      (summary_written rfl).mpr ((countOk_int _).mpr range.output)⟩, ?_,
    ⟨(summary_written rfl).mpr ((number_ok _).mpr range.quantiles.1),
      (summary_written rfl).mpr ((number_ok _).mpr range.quantiles.2),
      (summary_written rfl).mpr ((number_ok _).mpr range.fire), (summary_written rfl).mpr ((number_ok _).mpr range.start),
      (summary_written rfl).mpr ((number_ok _).mpr range.done), (summary_written rfl).mpr ((number_ok _).mpr range.runT0)⟩,
    ⟨(summary_check rfl).mpr ((intField_ok _).mpr (Int.natCast_nonneg _)),
      (summary_check rfl).mpr ((intField_ok _).mpr (Int.natCast_nonneg _)),
      (summary_check rfl).mpr ((intField_ok _).mpr (Int.natCast_nonneg _))⟩,
    (summary_check rfl).mpr ((numberField_ok _).mpr sound.lag), (summary_check rfl).mpr (textField_some _),
    (summary_check rfl).mpr (warnings_ok _), (summary_check rfl).mpr (errorCounts_ok sound.counts),
    (summary_check rfl).mpr (errorSamples_ok sound.samples), (summary_written rfl).mpr rfl⟩
  rw [@intAt_summary F _ summary health "errors" summary.errors rfl,
    @intAt_summary F _ summary health "requests_completed" summary.requestsCompleted rfl,
    @intAt_summary F _ summary health "requests_scheduled" summary.requestsScheduled rfl]
  exact ⟨range.errors.1, range.errors.2, range.scheduled⟩

omit [LawfulGoFloat F] in
theorem snapshot_shape {h : DurationHistogram} (sound : h.Sound (logarithmicHistogramBounds F)) :
    (h.snapshot : Histogram F).bounds = snapshotBounds F ∧
      (h.snapshot : Histogram F).counts.length = (h.snapshot : Histogram F).bounds.length := by
  have bounds : (h.snapshot : Histogram F).bounds = snapshotBounds F := by
    show h.bounds.map _ ++ _ = _
    rw [sound.same]
    rfl
  refine ⟨bounds, ?_⟩
  rw [bounds]
  show h.counts.length = _
  rw [sound.width, snapshotBounds, List.length_append, List.length_map, List.length_singleton]

theorem health_sound {totals : Aggregate} (named : totals.Named) {collected : Collected F}
    (lag : collected.lag.Sound (logarithmicHistogramBounds F)) : HealthSound (healthOf totals collected) where
  counts := by
    rintro ⟨cls, count⟩ listed rfl
    exact named.1 (List.mem_map.mpr ⟨_, listed, rfl⟩)
  samples := by
    rintro ⟨cls, message⟩ listed rfl
    exact named.2 (List.mem_map.mpr ⟨_, listed, rfl⟩)
  lag := by
    obtain ⟨bounds, width⟩ := snapshot_shape lag
    exact percentile_nonneg bounds width 99

/-- The figures a reader has accepted of a summary. -/
theorem summary_accepted {process : GoProcess F} {health : Health F}
    (valid : validateGoSummaryRow (present (summaryFields process.summary health)) = .ok ()) : ProcessInRange process := by
  have histogram : Json.lookup "latency_histogram" (present (summaryFields process.summary health)) =
      some (histogramJson process.summary.histogram) := by
    rw [lookup_present (summaryFields_distinct process.summary health)]
    rfl
  simp only [validateGoSummaryRow, seq_ok_iff, ensure_ok_iff, forM_ok_iff, checkNumber, checkCount, histogram,
    List.forall_mem_cons] at valid
  obtain ⟨-, ⟨-, -, -, input, output, -⟩, -, ⟨-, -, fire, start, done, runT0, -⟩, -, -, -, -, -, -, -, -, latency⟩ := valid
  have sumS : 0 ≤ process.summary.histogram.sumS := by
    have checked : validateHistogram (histogramJson process.summary.histogram) = .ok () := latency
    unfold histogramJson validateHistogram at checked
    rw [seq_ok_iff, seq_ok_iff, checkNumber, checkField, ensure_ok_iff, ensure_ok_iff] at checked
    exact (number_ok _).mp checked.2.2
  exact process_in_range ((countOk_int _).mp ((summary_written rfl).mp input))
    ((countOk_int _).mp ((summary_written rfl).mp output)) sumS
    ((number_ok process.ends.lastFireTime).mp ((summary_written rfl).mp fire))
    ((number_ok process.ends.lastRequestStartAt).mp ((summary_written rfl).mp start))
    ((number_ok process.ends.lastBodyDoneAt).mp ((summary_written rfl).mp done))
    ((number_ok process.ends.runT0).mp ((summary_written rfl).mp runT0))

/-- The summary of a process is read, and then as it was written, exactly when its sums and endpoints are in range. -/
theorem sum_stream_eq (process : GoProcess F) {collected : Collected F}
    (lag : collected.lag.Sound (logarithmicHistogramBounds F)) (stream : GoResultStream) :
    readGoResultStream (writeResults true process collected) = .ok stream ↔
      ProcessInRange process ∧
        stream = ⟨[], present (summaryFields process.summary (healthOf (aggregate process.workerResults) collected))⟩ := by
  have sound := health_sound (aggregate_named process.workerResults) lag
  have typed : textAt "__type__" (present (summaryFields process.summary
      (healthOf (aggregate process.workerResults) collected))) = some "summary" := by
    rw [textAt, lookup_present (summaryFields_distinct _ _)]
    rfl
  have taken : takeRow ⟨[], [], none⟩ (summaryJson process.summary (healthOf (aggregate process.workerResults) collected)) =
      (validateGoSummaryRow (present (summaryFields process.summary
        (healthOf (aggregate process.workerResults) collected)))).map fun _ =>
        ⟨[], [], some (present (summaryFields process.summary (healthOf (aggregate process.workerResults) collected)))⟩ := by
    rw [summaryJson, takeRow, if_neg (by simp), if_pos typed, ok_bind (ensure_ok rfl _)]
    cases validateGoSummaryRow (present (summaryFields process.summary
      (healthOf (aggregate process.workerResults) collected))) <;> rfl
  unfold readGoResultStream
  show (List.foldlM takeRow _ [summaryJson process.summary (healthOf (aggregate process.workerResults) collected)] >>= _) =
    _ ↔ _
  rw [List.foldlM_cons, taken]
  constructor
  · intro done
    cases valid : validateGoSummaryRow (present (summaryFields process.summary
        (healthOf (aggregate process.workerResults) collected))) with
    | error failure =>
      rw [valid] at done
      cases done
    | ok _ =>
      rw [valid] at done
      cases done
      exact ⟨summary_accepted valid, rfl⟩
  · rintro ⟨range, rfl⟩
    rw [summary_valid (summary_in_range range) sound]
    rfl

theorem sum_stream_iff (process : GoProcess F) {collected : Collected F}
    (lag : collected.lag.Sound (logarithmicHistogramBounds F)) :
    readGoResultStream (writeResults true process collected) =
        .ok ⟨[], present (summaryFields process.summary (healthOf (aggregate process.workerResults) collected))⟩ ↔
      ProcessInRange process :=
  (sum_stream_eq process lag _).trans (and_iff_left rfl)

end SummaryStream

end ExaServe.Replay
