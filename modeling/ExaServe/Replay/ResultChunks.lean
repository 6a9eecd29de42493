import ExaServe.Replay.GoContract
import ExaServe.Replay.MpiFrames
import ExaServe.Replay.Numbering

namespace ExaServe.Replay

open Lib

/-- A result of `_read_go_results`: the request, and its measurements in their order. -/
structure ResultTuple where
  request : TraceRequest
  measurements : List Json

def requestRecord (request : TraceRequest) : List (String × Json) :=
  [("timestamp", .float request.timestamp), ("model", .str request.model), ("prompt", .str request.prompt),
    ("input_len", .int request.inputLen), ("output_len", .int request.outputLen),
    ("tensor_parallel_size", .int request.tensorParallelSize), ("req_id", .str request.reqId),
    ("mode", .str request.mode)]

/-- `_result_record`. -/
def resultRecord (item : ResultTuple) : Json :=
  .obj [("request", .obj (requestRecord item.request)), ("measurements", .arr item.measurements)]

def encodeRecord (item : ResultTuple) : Bytes := Json.line (resultRecord item)

/-- `_iter_result_chunks` from a chunk begun: the chunks it yields, and the failure that ends them. -/
def iterResultChunks : Nat → Bytes → List ResultTuple → List Bytes × Option Failure
  | _, chunk, [] => (if chunk = [] then [] else [chunk], none)
  | index, chunk, item :: rest =>
    if resultChunkBytes < (encodeRecord item).length then
      ([], some (.value s!"gather result {index} exceeds the {resultChunkBytes}-byte MPI chunk bound"))
    else if chunk ≠ [] ∧ resultChunkBytes < chunk.length + (encodeRecord item).length then
      let later := iterResultChunks (index + 1) (encodeRecord item) rest
      (chunk :: later.1, later.2)
    else iterResultChunks (index + 1) (chunk ++ encodeRecord item) rest

def resultChunks (items : List ResultTuple) : List Bytes × Option Failure := iterResultChunks 0 [] items

def requestFields : List String :=
  ["timestamp", "model", "prompt", "input_len", "output_len", "tensor_parallel_size", "req_id", "mode"]

/-- An interpreter's `float(value)`: of a float it has made, it makes that float, and never a negative one of a number
    that is not. -/
structure PythonFloat where
  of : Json → FloatOf
  settled : ∀ value text, of value = .finite text → of (.float text) = .finite text
  nonneg : ∀ value text, of value = .finite text → 0 ≤ value.number?.getD 0 → 0 ≤ text.value

variable (float : Json → FloatOf)

/-- `math.isfinite(float(value))` of a number. -/
def isFinite (value : Json) : Except Failure Bool :=
  match value with
  | .int _ | .float _ => match float value with
    | .overflow => .error .overflow
    | .infinite => .ok false
    | .finite _ => .ok true
  | _ => .ok false

def intAtLeast (minimum : Int) : Json → Bool
  | .int value => minimum ≤ value
  | _ => false

def isMode : Json → Bool
  | .str mode => mode = "chat" ∨ mode = "completion"
  | _ => false

/-- `TraceRequest(**request)`. -/
def newTraceRequest (request : List (String × Json)) : Except Failure TraceRequest := do
  let field (name : String) : Json := (Json.lookup name request).getD .null
  let timestamp ← requireTimestamp float (field "timestamp")
  let inputLen ← requireCount "input_len" 0 (field "input_len")
  let outputLen ← requireCount "output_len" 1 (field "output_len")
  let tensorParallelSize ← requireCount "tensor_parallel_size" 1 (field "tensor_parallel_size")
  let model ← requireModel (field "model")
  let prompt ← requirePrompt (field "prompt")
  ensure (textOk (field "req_id") = true) (.value "trace request req_id must be non-empty text")
  let mode ← requireMode (field "mode")
  return ⟨timestamp, model, prompt, inputLen, outputLen, tensorParallelSize,
    (textAt "req_id" request).getD "", mode⟩

/-- `_result_number`. -/
def resultNumber (place : String) (nullable : Bool) (value : Json) : Except Failure Unit :=
  if nullable ∧ value matches .null then .ok ()
  else do
    let finite ← isFinite float value
    ensure (finite = true ∧ 0 ≤ value.number?.getD 0)
      (.value ("Go replay " ++ place ++ " must be a finite nonnegative number"))

/-- `_result_count`. -/
def resultCount (place : String) (value : Json) : Except Failure Unit :=
  ensure (usageOk value = true) (.value ("Go replay " ++ place ++ " must be a nonnegative integer"))

/-- `_validate_gather_measurements`. -/
def validateGatherMeasurements (index : Nat) (value : List Json) : Except Failure Unit := do
  let at_ (position : Nat) : Json := value[position]?.getD .null
  let place (name : String) : String := s!"gather[{index}]." ++ name
  ensure (isBool (at_ 1) = true) (.value s!"gather record {index} success must be boolean")
  ensure (isText (at_ 2) = true) (.value s!"gather record {index} error must be text")
  [(0, "latency"), (3, "end_time")].forM fun field => resultNumber float (place field.2) false (at_ field.1)
  [(4, "actual_prompt_tokens"), (5, "actual_completion_tokens"), (11, "decode_tokens")].forM fun field =>
    resultCount (place field.2) (at_ field.1)
  [(6, "ttft_s"), (7, "first_token_at"), (8, "tbt_p50_s"), (9, "tbt_p99_s"), (10, "tbt_max_s")].forM fun field =>
    resultNumber float (place field.2) true (at_ field.1)

/-- The checks that `_decode_gather_payload` makes of the fields of a request. -/
def checkRequestFields (index : Nat) (request : List (String × Json)) : Except Failure Unit := do
  let field (name : String) : Json := (Json.lookup name request).getD .null
  let finite ← isFinite float (field "timestamp")
  ensure (finite = true ∧ intAtLeast 0 (field "input_len") = true ∧ intAtLeast 0 (field "output_len") = true ∧
    intAtLeast 1 (field "tensor_parallel_size") = true ∧ textOk (field "model") = true ∧ textOk (field "req_id") = true ∧
    textOk (field "mode") = true ∧ isText (field "prompt") = true ∧ isMode (field "mode") = true)
    (.value s!"gather record {index} request fields are invalid")

/-- One record of `_decode_gather_payload`. -/
def gatherRecord (index : Nat) (record : Json) : Except Failure ResultTuple :=
  match record with
  | .obj fields =>
    if Json.sameNames fields ["request", "measurements"] = false then
      .error (.value s!"gather record {index} has an invalid shape")
    else match Json.lookup "request" fields, Json.lookup "measurements" fields with
      | some (.obj request), some (.arr measurements) => do
        ensure (Json.sameNames request requestFields = true)
          (.value s!"gather record {index} request has an invalid shape")
        ensure (measurements.length = 12) (.value s!"gather record {index} measurements must contain 12 fields")
        checkRequestFields float index request
        let rebuilt ← newTraceRequest float request
        validateGatherMeasurements float index measurements
        return ⟨rebuilt, measurements⟩
      | some (.obj request), _ =>
        if Json.sameNames request requestFields = true then
          .error (.value s!"gather record {index} measurements must contain 12 fields")
        else .error (.value s!"gather record {index} request has an invalid shape")
      | _, _ => .error (.value s!"gather record {index} request has an invalid shape")
  | _ => .error (.value s!"gather record {index} has an invalid shape")

/-- `_decode_gather_payload` of records. -/
def decodeGatherPayload (content : Bytes) : Except Failure (List ResultTuple) :=
  match decodeUtf8 content with
  | none => .error .unicode
  | some text => match Json.loads text with
    | none => .error (.value "invalid JSON")
    | some (.obj payload) => do
      ensure (isVersion (Json.lookup "schema_version" payload) = true)
        (.value "gather shard schema_version is missing or unsupported")
      ensure (textAt "kind" payload = some "records" ∧
        Json.sameNames payload ["schema_version", "kind", "records"] = true)
        (.value "gather record shard has an invalid shape")
      match Json.lookup "records" payload with
      | some (.arr records) => records.zipIdx.mapM fun entry => gatherRecord float entry.2 entry.1
      | _ => .error (.value "gather records must be a list")
    | some _ => .error (.value "gather shard schema_version is missing or unsupported")

/-- The shard of one record. -/
def shardOf (record : Json) : Json :=
  .obj [("schema_version", .int 1), ("kind", .str "records"), ("records", .arr [record])]

def decodeRow (line : Bytes) : Except Failure (List ResultTuple) :=
  if line = [] then .error (.value "MPI result chunk contains an empty row")
  else match decodeUtf8 line with
    | none => .error .unicode
    | some text => match Json.loads text with
      | none => .error (.value "invalid JSON")
      | some record => decodeGatherPayload float (Json.line (shardOf record))

/-- `_decode_result_chunk`. -/
def decodeResultChunk (content : Bytes) : Except Failure (List ResultTuple) :=
  if resultChunkBytes < content.length then .error (.value "MPI result chunk is missing or exceeds its bound")
  else do
    let rows ← (splitLines content).mapM (decodeRow float)
    return rows.flatten

def measurementNames : List String :=
  ["latency", "success", "error", "end_time", "actual_prompt_tokens", "actual_completion_tokens", "ttft_s",
    "first_token_at", "tbt_p50_s", "tbt_p99_s", "tbt_max_s", "decode_tokens"]

/-- A number of a file as the reader holds it. -/
def heldValue (value : Json) : Json :=
  match value with
  | .float _ => match float value with
    | .finite text => .float text
    | _ => value
  | _ => value

def measurementsOf (fields : List (String × Json)) : List Json :=
  measurementNames.map fun name => heldValue float ((Json.lookup name fields).getD .null)

def FiniteRow (fields : List (String × Json)) : Prop :=
  ∀ name ∈ recordNumbers, ∀ value, Json.lookup name fields = some value → ∃ text, float value = .finite text

/-- A tuple that `_read_go_results` can make: a request that the loader of the trace accepts, and the measurements of
    its record in a stream that is accepted. -/
structure Readable (item : ResultTuple) : Prop where
  request : ∃ line index, traceRequestFromLine float line index = .ok (some item.request)
  record : ∃ lines stream fields, readGoResultStream lines = .ok stream ∧ fields ∈ stream.records ∧
    textAt "req_id" fields = some item.request.reqId ∧ FiniteRow float fields ∧
      item.measurements = measurementsOf float fields

section Measurements

def isScalar : Json → Bool
  | .arr _ | .obj _ => false
  | _ => true

theorem scalar_canonical {value : Json} (scalar : isScalar value = true) : value.canonical = value := by
  cases value with
  | arr items => cases scalar
  | obj fields => cases scalar
  | _ => rfl

theorem scalar_keyed {value : Json} (scalar : isScalar value = true) : value.wellKeyed = true := by
  cases value with
  | arr items => cases scalar
  | obj fields => cases scalar
  | _ => rfl

/-- A number that a reader takes. -/
structure Number (value : Json) : Prop where
  nonneg : numberOk value = true
  finite : ∃ text, float value = .finite text

variable {float}

theorem Number.scalar {value : Json} (number : Number float value) : isScalar value = true := by
  have nonneg := number.nonneg
  cases value with
  | arr items => cases nonneg
  | obj fields => cases nonneg
  | _ => rfl

theorem Number.isFinite {value : Json} (number : Number float value) : isFinite float value = .ok true := by
  obtain ⟨nonneg, text, finite⟩ := number
  cases value with
  | int value => rw [Replay.isFinite, finite]
  | float value => rw [Replay.isFinite, finite]
  | _ => cases nonneg

theorem Number.value {value : Json} (number : Number float value) : 0 ≤ value.number?.getD 0 := by
  have nonneg := number.nonneg
  cases value with
  | int value =>
    show (0 : ℚ) ≤ (value : ℚ)
    exact_mod_cast of_decide_eq_true nonneg
  | float value => exact of_decide_eq_true nonneg
  | _ => cases nonneg

theorem Number.result {value : Json} (number : Number float value) (place : String) (nullable : Bool) :
    resultNumber float place nullable value = .ok () := by
  unfold resultNumber
  split_ifs
  · rfl
  · rw [ok_bind number.isFinite]
    exact ensure_ok ⟨rfl, number.value⟩ _

theorem held_number (float : PythonFloat) {value : Json} (number : Number float.of value) :
    Number float.of (heldValue float.of value) := by
  obtain ⟨nonneg, text, finite⟩ := number
  cases value with
  | int value => exact ⟨nonneg, text, finite⟩
  | float value =>
    rw [heldValue, finite]
    exact ⟨decide_eq_true (float.nonneg _ _ finite (of_decide_eq_true nonneg)), text, float.settled _ _ finite⟩
  | _ => cases nonneg

theorem held_other {value : Json} (other : ∀ text, value ≠ .float text) : heldValue float value = value := by
  cases value with
  | float text => exact absurd rfl (other text)
  | _ => rfl

theorem usage_scalar {value : Json} (usage : usageOk value = true) : isScalar value = true := by
  cases value with
  | arr items => cases usage
  | obj fields => cases usage
  | _ => rfl

theorem flag_scalar {value : Json} (flag : isBool value = true) : isScalar value = true := by
  cases value with
  | bool value => rfl
  | _ => cases flag

theorem text_scalar {value : Json} (text : isText value = true) : isScalar value = true := by
  cases value with
  | str value => rfl
  | _ => cases text

theorem optional_scalar {value : Json} (either : value = .null ∨ Number float value) : isScalar value = true := by
  rcases either with rfl | number
  · rfl
  · exact number.scalar

/-- The measurements that a reader of chunks takes. -/
structure Measured (measurements : List Json) : Prop where
  length : measurements.length = 12
  scalar : ∀ value ∈ measurements, isScalar value = true
  success : isBool (measurements[1]?.getD .null) = true
  error : isText (measurements[2]?.getD .null) = true
  numbers : ∀ position ∈ [0, 3], Number float (measurements[position]?.getD .null)
  counts : ∀ position ∈ [4, 5, 11], usageOk (measurements[position]?.getD .null) = true
  optional : ∀ position ∈ [6, 7, 8, 9, 10], measurements[position]?.getD .null = .null ∨
    Number float (measurements[position]?.getD .null)

theorem Measured.valid {measurements : List Json} (measured : @Measured float measurements) (index : Nat) :
    validateGatherMeasurements float index measurements = .ok () := by
  have count (name : String) (position : Nat) (listed : position ∈ [4, 5, 11]) :
      resultCount (s!"gather[{index}]." ++ name) (measurements[position]?.getD .null) = .ok () :=
    ensure_ok (measured.counts position listed) _
  have optional (name : String) (position : Nat) (listed : position ∈ [6, 7, 8, 9, 10]) :
      resultNumber float (s!"gather[{index}]." ++ name) true (measurements[position]?.getD .null) = .ok () := by
    rcases measured.optional position listed with null | number
    · rw [null]
      rfl
    · exact number.result _ _
  unfold validateGatherMeasurements
  rw [seq_ok_iff, seq_ok_iff, seq_ok_iff, seq_ok_iff, ensure_ok_iff, ensure_ok_iff, forM_ok_iff, forM_ok_iff, forM_ok_iff]
  refine ⟨measured.success, measured.error, ?_, ?_, ?_⟩
  · simp only [List.forall_mem_cons]
    exact ⟨(measured.numbers 0 (by decide)).result _ _, (measured.numbers 3 (by decide)).result _ _, nofun⟩
  · simp only [List.forall_mem_cons]
    exact ⟨count _ 4 (by decide), count _ 5 (by decide), count _ 11 (by decide), nofun⟩
  · simp only [List.forall_mem_cons]
    exact ⟨optional _ 6 (by decide), optional _ 7 (by decide), optional _ 8 (by decide), optional _ 9 (by decide),
      optional _ 10 (by decide), nofun⟩

theorem lookup_some {fields : List (String × Json)} {name : String} (named : name ∈ Json.fieldNames fields) :
    ∃ value, Json.lookup name fields = some value := by
  induction fields with
  | nil => cases named
  | cons field rest ih =>
    obtain ⟨key, value⟩ := field
    by_cases same : key = name
    · exact ⟨value, by rw [Json.lookup, if_pos same]⟩
    · obtain ⟨value, found⟩ := ih ((List.mem_cons.mp named).resolve_left fun equal => same equal.symm)
      exact ⟨value, by rw [Json.lookup, if_neg same, found]⟩

/-- A record that a reader of results has accepted. -/
theorem record_checks {fields : List (String × Json)} (valid : validateGoResultRecord fields = .ok ()) :
    (∀ name ∈ recordRequired, ∃ value, Json.lookup name fields = some value) ∧
      (Json.lookup "error" fields).all isText = true ∧ (Json.lookup "success" fields).all isBool = true ∧
      (∀ name ∈ ["actual_prompt_tokens", "actual_completion_tokens"], (Json.lookup name fields).all usageOk = true) ∧
      (Json.lookup "decode_tokens" fields).all countOk = true ∧
      ∀ name ∈ recordNumbers, (Json.lookup name fields).all numberOk = true := by
  simp only [validateGoResultRecord, checkNumber, checkCount, checkField, seq_ok_iff, ensure_ok_iff, forM_ok_iff] at valid
  obtain ⟨names, -, texts, success, -, -, usage, counts, numbers⟩ := valid
  refine ⟨?_, texts "error" (by decide), success, usage, counts "decode_tokens" (by decide), numbers⟩
  intro name listed
  rw [requiredNames, Bool.and_eq_true, List.all_eq_true] at names
  exact lookup_some (List.contains_iff_mem.mp (names.1 name listed))

theorem measured_of_record (float : PythonFloat) {fields : List (String × Json)}
    (valid : validateGoResultRecord fields = .ok ()) (finite : FiniteRow float.of fields) :
    @Measured float.of (measurementsOf float.of fields) := by
  obtain ⟨required, error, success, usage, decoded, numbers⟩ := record_checks valid
  have number {name : String} (listed : name ∈ recordNumbers) {value : Json} (found : Json.lookup name fields = some value) :
      Number float.of (heldValue float.of value) := by
    have checked := numbers name listed
    rw [found] at checked
    exact held_number float ⟨checked, finite name listed value found⟩
  have needed {name : String} (named : name ∈ recordRequired) (listed : name ∈ recordNumbers) :
      Number float.of (heldValue float.of ((Json.lookup name fields).getD .null)) := by
    obtain ⟨value, found⟩ := required name named
    rw [found]
    exact number listed found
  have optional {name : String} (listed : name ∈ recordNumbers) :
      heldValue float.of ((Json.lookup name fields).getD .null) = .null ∨
        Number float.of (heldValue float.of ((Json.lookup name fields).getD .null)) := by
    cases found : Json.lookup name fields with
    | none => exact Or.inl rfl
    | some value => exact Or.inr (number listed found)
  have used {name : String} (listed : name ∈ ["actual_prompt_tokens", "actual_completion_tokens"]) :
      usageOk (heldValue float.of ((Json.lookup name fields).getD .null)) = true := by
    have checked := usage name listed
    cases found : Json.lookup name fields with
    | none => rfl
    | some value =>
      rw [found] at checked
      cases value with
      | float text => cases checked
      | _ => exact checked
  have flag : isBool (heldValue float.of ((Json.lookup "success" fields).getD .null)) = true := by
    obtain ⟨value, found⟩ := required "success" (by decide)
    rw [found] at success ⊢
    cases value with
    | bool value => rfl
    | _ => cases success
  have text : isText (heldValue float.of ((Json.lookup "error" fields).getD .null)) = true := by
    obtain ⟨value, found⟩ := required "error" (by decide)
    rw [found] at error ⊢
    cases value with
    | str value => rfl
    | _ => cases error
  have tokens : usageOk (heldValue float.of ((Json.lookup "decode_tokens" fields).getD .null)) = true := by
    cases found : Json.lookup "decode_tokens" fields with
    | none => rfl
    | some value =>
      rw [found] at decoded
      cases value with
      | int value => exact decoded
      | _ => cases decoded
  constructor
  case length => rfl
  case success => exact flag
  case error => exact text
  case numbers =>
    simp only [List.forall_mem_cons]
    exact ⟨needed (by decide) (by decide), needed (by decide) (by decide), nofun⟩
  case counts =>
    simp only [List.forall_mem_cons]
    exact ⟨used (by decide), used (by decide), tokens, nofun⟩
  case optional =>
    simp only [List.forall_mem_cons]
    exact ⟨optional (by decide), optional (by decide), optional (by decide), optional (by decide), optional (by decide),
      nofun⟩
  case scalar =>
    simp only [measurementsOf, measurementNames, List.map_cons, List.map_nil, List.forall_mem_cons]
    exact ⟨(needed (by decide) (by decide)).scalar, flag_scalar flag, text_scalar text,
      (needed (by decide) (by decide)).scalar, usage_scalar (used (by decide)), usage_scalar (used (by decide)),
      optional_scalar (optional (by decide)), optional_scalar (optional (by decide)),
      optional_scalar (optional (by decide)), optional_scalar (optional (by decide)),
      optional_scalar (optional (by decide)), usage_scalar tokens, nofun⟩

/-- Every record of a stream that is accepted was checked. -/
theorem stream_checked {lines : List Json} {stream : GoResultStream} (read : readGoResultStream lines = .ok stream) :
    ∀ fields ∈ stream.records, validateGoResultRecord fields = .ok () := by
  obtain ⟨reading, folded, read⟩ := bind_ok read
  have kept : ∀ fields ∈ reading.records, validateGoResultRecord fields = .ok () := by
    refine @foldlM_kept _ _ _ takeRow (fun reading => ∀ fields ∈ reading.records, validateGoResultRecord fields = .ok ())
      _ ?_ _ _ folded nofun
    intro line _ before after step held
    cases line with
    | obj fields =>
      rw [takeRow] at step
      split_ifs at step
      · obtain ⟨_, _, step⟩ := bind_ok step
        obtain ⟨_, _, step⟩ := bind_ok step
        cases step
        exact held
      · obtain ⟨_, _, step⟩ := bind_ok step
        cases step
        exact held
      · obtain ⟨⟨⟩, valid, step⟩ := bind_ok step
        obtain ⟨_, _, step⟩ := bind_ok step
        cases step
        intro other listed
        rcases List.mem_append.mp listed with earlier | last
        · exact held other earlier
        · rw [List.mem_singleton.mp last]
          exact valid
    | _ => cases step
  cases ended : reading.terminal with
  | none =>
    rw [ended] at read
    cases read
  | some terminal =>
    rw [ended] at read
    cases read
    exact kept

end Measurements

section Records

variable {float : Json → FloatOf}

/-- What the loader of the trace promises of a request. -/
structure Loaded (request : TraceRequest) : Prop where
  settled : float (.float request.timestamp) = .finite request.timestamp
  timestamp : 0 ≤ request.timestamp.value
  outputLen : 1 ≤ request.outputLen
  tensorParallelSize : 1 ≤ request.tensorParallelSize
  model : request.model ≠ ""
  reqId : request.reqId ≠ ""
  mode : request.mode = "chat" ∨ request.mode = "completion"

theorem requireTimestamp_ok {value : Json} {timestamp : FloatText} (read : requireTimestamp float value = .ok timestamp) :
    float value = .finite timestamp ∧ 0 ≤ value.number?.getD 0 := by
  unfold requireTimestamp at read
  cases value with
  | int value =>
    cases made : float (.int value) with
    | finite text =>
      simp only [made] at read
      split_ifs at read with negative
      cases read
      exact ⟨rfl, not_lt.mp negative⟩
    | _ =>
      simp only [made] at read
      cases read
  | float value =>
    cases made : float (.float value) with
    | finite text =>
      simp only [made] at read
      split_ifs at read with negative
      cases read
      exact ⟨rfl, not_lt.mp negative⟩
    | _ =>
      simp only [made] at read
      cases read
  | _ => cases read

theorem loaded_of_line (float : PythonFloat) {line : Bytes} {index : Nat} {request : TraceRequest}
    (read : traceRequestFromLine float.of line index = .ok (some request)) : @Loaded float.of request := by
  have numbered := line_numbered read
  obtain ⟨fields, made⟩ := line_fields read
  obtain ⟨timestamp, stamped, made⟩ := bind_ok made
  obtain ⟨inputLen, -, made⟩ := bind_ok made
  obtain ⟨outputLen, output, made⟩ := bind_ok made
  obtain ⟨tensorParallelSize, -, made⟩ := bind_ok made
  obtain ⟨model, -, made⟩ := bind_ok made
  obtain ⟨prompt, -, made⟩ := bind_ok made
  obtain ⟨mode, -, made⟩ := bind_ok made
  cases made
  obtain ⟨made, nonneg⟩ := requireTimestamp_ok stamped
  refine ⟨float.settled _ _ made, float.nonneg _ _ made nonneg, requireCount_ok output, numbered.tensorParallelSize, numbered.model, ?_, numbered.mode⟩
  rw [numbered.reqId]
  exact requestId_ne_empty index

theorem requestRecord_distinct (request : TraceRequest) : (Json.fieldNames (requestRecord request)).Nodup := by
  simp [Json.fieldNames, requestRecord]

theorem requestRecord_canonical (request : TraceRequest) :
    Json.canonicalFields (requestRecord request) = requestRecord request := rfl

theorem requestRecord_lookup (request : TraceRequest) (name : String) :
    Json.lookup name (Json.sortFields (requestRecord request)) = Json.lookup name (requestRecord request) :=
  Json.lookup_congr (Json.sortFields_perm _) ((Json.fieldNames_sortFields _).nodup_iff.mpr (requestRecord_distinct request)) name

theorem newTraceRequest_record {request : TraceRequest} (loaded : @Loaded float request) :
    newTraceRequest float (Json.sortFields (requestRecord request)) = .ok request := by
  have timestamp : requireTimestamp float (.float request.timestamp) = .ok request.timestamp := by
    unfold requireTimestamp
    simp only [loaded.settled]
    exact if_neg (not_lt.mpr loaded.timestamp)
  have count (name : String) (minimum number : Nat) (enough : minimum ≤ number) :
      requireCount name minimum (.int number) = .ok number := by
    rw [requireCount, if_pos (Int.ofNat_le.mpr enough)]
    rfl
  have mode : requireMode (.str request.mode) = .ok request.mode := if_pos loaded.mode
  have model : requireModel (.str request.model) = .ok request.model := if_pos loaded.model
  have reqId : textOk (.str request.reqId) = true := decide_eq_true loaded.reqId
  unfold newTraceRequest textAt
  simp only [requestRecord_lookup]
  refine (ok_bind timestamp _).trans ?_
  refine (ok_bind (count _ 0 request.inputLen (Nat.zero_le _)) _).trans ?_
  refine (ok_bind (count _ 1 _ loaded.outputLen) _).trans ?_
  refine (ok_bind (count _ 1 _ loaded.tensorParallelSize) _).trans ?_
  refine (ok_bind model _).trans ?_
  refine (ok_bind (ensure_ok reqId _) _).trans ?_
  exact ok_bind mode _

theorem checkRequestFields_record {request : TraceRequest} (loaded : @Loaded float request) (index : Nat) :
    checkRequestFields float index (Json.sortFields (requestRecord request)) = .ok () := by
  have finite : isFinite float (.float request.timestamp) = .ok true := by
    unfold isFinite
    simp only [loaded.settled]
  have count (minimum number : Nat) (enough : minimum ≤ number) : intAtLeast minimum (.int number) = true :=
    decide_eq_true (Int.ofNat_le.mpr enough)
  have text {value : String} (some_text : value ≠ "") : textOk (.str value) = true := decide_eq_true some_text
  have some_mode : request.mode ≠ "" := by
    rcases loaded.mode with chat | completion
    · rw [chat]
      decide
    · rw [completion]
      decide
  unfold checkRequestFields
  simp only [requestRecord_lookup]
  refine (ok_bind finite _).trans ?_
  exact ensure_ok ⟨rfl, count 0 _ (Nat.zero_le _), count 0 _ (Nat.zero_le _), count 1 _ loaded.tensorParallelSize,
    text loaded.model, text loaded.reqId, text some_mode, rfl, decide_eq_true loaded.mode⟩ _

/-- What the reader of chunks needs of a tuple. -/
structure Sound (item : ResultTuple) : Prop where
  loaded : @Loaded float item.request
  measured : @Measured float item.measurements

theorem readable_sound (float : PythonFloat) {item : ResultTuple} (readable : Readable float.of item) :
    @Sound float.of item := by
  obtain ⟨line, index, read⟩ := readable.request
  obtain ⟨lines, stream, fields, accepted, listed, -, finite, measurements⟩ := readable.record
  refine ⟨loaded_of_line float read, ?_⟩
  rw [measurements]
  exact measured_of_record float (stream_checked accepted fields listed) finite

theorem resultRecord_keyed {item : ResultTuple} (sound : @Sound float item) :
    (resultRecord item).wellKeyed = true := by
  have measurements : Json.wellKeyedItems item.measurements = true :=
    (Json.wellKeyedItems_iff _).mpr fun value listed => scalar_keyed (sound.measured.scalar value listed)
  have request : Json.wellKeyed (.obj (requestRecord item.request)) = true := by
    rw [Json.wellKeyed, decide_eq_true (requestRecord_distinct item.request)]
    rfl
  simp only [resultRecord, Json.wellKeyed, Json.wellKeyedFields, measurements, Bool.and_true] at request ⊢
  rw [request]
  simp [Json.fieldNames]

theorem resultRecord_canonical {item : ResultTuple} (sound : @Sound float item) :
    (resultRecord item).canonical = .obj [("measurements", .arr item.measurements),
      ("request", .obj (Json.sortFields (requestRecord item.request)))] := by
  have measurements : item.measurements.map Json.canonical = item.measurements :=
    (List.map_congr_left fun value listed => scalar_canonical (sound.measured.scalar value listed)).trans (List.map_id _)
  rw [resultRecord, Json.canonical, Json.canonicalFields, Json.canonicalFields, Json.canonicalFields, Json.canonical,
    Json.canonical, Json.canonicalItems_eq_map, measurements, requestRecord_canonical]
  simp [Json.sortFields]

/-- A record that was written and read is the tuple it was made of. -/
theorem gatherRecord_stored {item : ResultTuple} (sound : @Sound float item) (index : Nat) :
    gatherRecord float index (resultRecord item).canonical = .ok item := by
  have names : Json.sameNames (Json.sortFields (requestRecord item.request)) requestFields = true := by
    rw [Json.sameNames_congr (Json.fieldNames_sortFields (requestRecord item.request))]
    rfl
  rw [resultRecord_canonical sound]
  show (ensure _ _ >>= fun _ => _) = _
  rw [ok_bind (ensure_ok names _), ok_bind (ensure_ok sound.measured.length _),
    ok_bind (checkRequestFields_record sound.loaded index), ok_bind (newTraceRequest_record sound.loaded),
    ok_bind (sound.measured.valid index)]
  rfl

theorem shardOf_canonical (record : Json) : (shardOf record).canonical =
    .obj [("kind", .str "records"), ("records", .arr [record.canonical]), ("schema_version", .int 1)] := by
  simp [shardOf, Json.canonical, Json.canonicalFields, Json.canonicalItems, Json.sortFields]

theorem shardOf_bytes (record : Json) : Json.line (shardOf record.canonical) = Json.line (shardOf record) := by
  have same : Json.dumps (shardOf record.canonical) = Json.dumps (shardOf record) := by
    simp only [shardOf, Json.dumps, Json.dumpsFields_eq_map, Json.dumpsItems_eq_map, List.map_cons, List.map_nil,
      Json.dumps_canonical]
  rw [Json.line, Json.bytes, same, Json.line, Json.bytes]

theorem decodeGatherPayload_shard {item : ResultTuple} (sound : @Sound float item) :
    decodeGatherPayload float (Json.line (shardOf (resultRecord item).canonical)) = .ok [item] := by
  have keyed : (shardOf (resultRecord item)).wellKeyed = true := by
    simp [shardOf, Json.wellKeyed, Json.wellKeyedFields, Json.wellKeyedItems, Json.fieldNames, resultRecord_keyed sound]
  unfold decodeGatherPayload
  rw [shardOf_bytes, Json.decodeUtf8_line]
  simp only [Json.loads_line keyed, shardOf_canonical]
  refine (ok_bind (ensure_ok rfl _) _).trans ?_
  refine (ok_bind (ensure_ok ⟨rfl, rfl⟩ _) _).trans ?_
  show [((resultRecord item).canonical, 0)].mapM (fun entry => gatherRecord float entry.2 entry.1) = _
  rw [List.mapM_cons, ok_bind (gatherRecord_stored sound 0)]
  rfl

theorem decodeRow_record {item : ResultTuple} (sound : @Sound float item) :
    decodeRow float (Json.bytes (resultRecord item)) = .ok [item] := by
  unfold decodeRow
  rw [if_neg (Json.bytes_nonempty _), Json.decodeUtf8_bytes]
  simp only [Json.loads_dumps (resultRecord_keyed sound)]
  exact decodeGatherPayload_shard sound

/-- The rows of a chunk are read back in their order. -/
theorem decodeResultChunk_rows {items : List ResultTuple} (sound : ∀ item ∈ items, @Sound float item)
    (fits : (items.flatMap encodeRecord).length ≤ resultChunkBytes) :
    decodeResultChunk float (items.flatMap encodeRecord) = .ok items := by
  have lines : splitLines (items.flatMap encodeRecord) = items.map fun item => Json.bytes (resultRecord item) :=
    Json.splitLines_lines resultRecord items
  have rows : (items.map fun item => Json.bytes (resultRecord item)).mapM (decodeRow float) =
      .ok (items.map fun item => [item]) := by
    rw [List.mapM_map, Function.comp_def]
    exact @mapM_ok _ _ _ (fun item => decodeRow float (Json.bytes (resultRecord item))) (fun item => [item]) items
      fun item listed => decodeRow_record (sound item listed)
  unfold decodeResultChunk
  rw [if_neg (not_lt.mpr fits), lines, ok_bind rows]
  have flat : (items.map fun item => [item]).flatten = items := by
    rw [← List.flatMap_def, List.flatMap_singleton']
  rw [flat]
  rfl

end Records

section Chunks

/-- A record that a chunk can hold. -/
def RecordFits (item : ResultTuple) : Prop := (encodeRecord item).length ≤ resultChunkBytes

theorem encodeRecord_nonempty (item : ResultTuple) : encodeRecord item ≠ [] := by
  simp [encodeRecord, Json.line]

/-- The chunks are whole groups of records, in their order, and none is missing unless one record is too large. -/
structure Grouped (held rest : List ResultTuple) (yielded : List Bytes × Option Failure)
    (groups : List (List ResultTuple)) : Prop where
  chunks : yielded.1 = groups.map fun group => group.flatMap encodeRecord
  nonempty : ∀ group ∈ groups, group ≠ []
  bounded : ∀ group ∈ groups, (group.flatMap encodeRecord).length ≤ resultChunkBytes
  inside : ∀ group ∈ groups, ∀ item ∈ group, item ∈ held ++ rest
  whole : yielded.2 = none → groups.flatten = held ++ rest
  fits : yielded.2 = none ↔ ∀ item ∈ rest, RecordFits item

theorem iterResultChunks_grouped (index : Nat) (held rest : List ResultTuple)
    (bounded : (held.flatMap encodeRecord).length ≤ resultChunkBytes) :
    ∃ groups, Grouped held rest (iterResultChunks index (held.flatMap encodeRecord) rest) groups := by
  induction rest generalizing index held with
  | nil =>
    rw [iterResultChunks]
    by_cases empty : held = []
    · subst empty
      exact ⟨[], rfl, nofun, nofun, nofun, fun _ => rfl, fun _ => nofun, fun _ => rfl⟩
    · have some_byte : held.flatMap encodeRecord ≠ [] := by
        obtain ⟨item, items, rfl⟩ := List.exists_cons_of_ne_nil empty
        rw [List.flatMap_cons]
        exact List.append_ne_nil_of_left_ne_nil (encodeRecord_nonempty item) _
      rw [if_neg some_byte]
      refine ⟨[held], rfl, ?_, ?_, ?_, fun _ => rfl, fun _ => nofun, fun _ => rfl⟩
      · simpa using empty
      · simpa using bounded
      · simp
  | cons item rest ih =>
    rw [iterResultChunks]
    by_cases large : resultChunkBytes < (encodeRecord item).length
    · rw [if_pos large]
      refine ⟨[], rfl, nofun, nofun, nofun, nofun, nofun, ?_⟩
      intro all
      exact absurd (all item List.mem_cons_self) (not_le.mpr large)
    · rw [if_neg large]
      have fits := not_lt.mp large
      by_cases full : held.flatMap encodeRecord ≠ [] ∧ resultChunkBytes < (held.flatMap encodeRecord).length + (encodeRecord item).length
      · rw [if_pos full]
        have single : [item].flatMap encodeRecord = encodeRecord item := List.append_nil _
        obtain ⟨groups, grouped⟩ := ih (index + 1) [item] (by rwa [single])
        rw [single] at grouped
        have some_item : held ≠ [] := by
          rintro rfl
          exact full.1 rfl
        refine ⟨held :: groups, ?_, ?_, ?_, ?_, ?_, ?_⟩
        · exact congrArg (_ :: ·) grouped.chunks
        · exact List.forall_mem_cons.mpr ⟨some_item, grouped.nonempty⟩
        · exact List.forall_mem_cons.mpr ⟨bounded, grouped.bounded⟩
        · refine List.forall_mem_cons.mpr ⟨fun other listed => List.mem_append_left _ listed, ?_⟩
          exact fun group listed other inside => List.mem_append_right _ (grouped.inside group listed other inside)
        · intro complete
          rw [List.flatten_cons, grouped.whole complete]
          rfl
        · exact grouped.fits.trans ⟨fun all => List.forall_mem_cons.mpr ⟨fits, all⟩,
            fun all => (List.forall_mem_cons.mp all).2⟩
      · rw [if_neg full]
        have longer : held.flatMap encodeRecord ++ encodeRecord item = (held ++ [item]).flatMap encodeRecord := by
          rw [List.flatMap_append, List.flatMap_singleton]
        have room : ((held ++ [item]).flatMap encodeRecord).length ≤ resultChunkBytes := by
          rw [← longer, List.length_append]
          by_contra beyond
          by_cases empty : held.flatMap encodeRecord = []
          · rw [empty, List.length_nil] at beyond
            omega
          · exact full ⟨empty, not_le.mp beyond⟩
        obtain ⟨groups, grouped⟩ := ih (index + 1) (held ++ [item]) room
        rw [longer]
        refine ⟨groups, grouped.chunks, grouped.nonempty, grouped.bounded, ?_, ?_, ?_⟩
        · intro group listed other inside
          simpa using grouped.inside group listed other inside
        · intro complete
          simpa using grouped.whole complete
        · exact grouped.fits.trans ⟨fun all => List.forall_mem_cons.mpr ⟨fits, all⟩,
            fun all => (List.forall_mem_cons.mp all).2⟩

end Chunks

end ExaServe.Replay
