import ExaServe.Lib.Dict
import ExaServe.Replay.Summaries

namespace ExaServe.Replay

open Lib

variable {F : Type} [GoFloat F]

section Encoding

/-- The fields of an object, less those left out when empty. -/
def present (fields : List (String × Option Json)) : List (String × Json) :=
  fields.filterMap fun field => field.2.map fun value => (field.1, value)

def textField (text : String) : Option Json := if text = "" then none else some (.str text)

def intField (value : Int) : Option Json := if value = 0 then none else some (.int value)

def numberField (value : F) : Option Json := if value = 0 then none else some (GoFloat.number value)

def usageJson : Usage → Json
  | some count => .int count
  | none => .null

def recordFields (rec : ResultRecord F) : List (String × Option Json) :=
  [("req_id", some (.str rec.reqId)), ("model", some (.str rec.model)), ("latency", some (GoFloat.number rec.latency)),
    ("success", some (.bool rec.success)), ("error", some (.str rec.error)), ("error_class", textField rec.errorClass),
    ("status_code", intField rec.statusCode), ("end_time", some (GoFloat.number rec.endTime)),
    ("input_len", some (.int rec.inputLen)), ("output_len", some (.int rec.outputLen)),
    ("actual_prompt_tokens", some (usageJson rec.actualPromptTokens)),
    ("actual_completion_tokens", some (usageJson rec.actualCompletionTokens)),
    ("tensor_parallel_size", some (.int rec.tensorParallelSize)), ("scheduled_at", numberField rec.scheduledAt),
    ("enqueued_at", numberField rec.enqueuedAt), ("dequeued_at", numberField rec.dequeuedAt),
    ("request_start_at", numberField rec.requestStartAt), ("headers_at", numberField rec.headersAt),
    ("first_token_at", numberField rec.firstTokenAt), ("body_done_at", numberField rec.bodyDoneAt),
    ("ttft_s", numberField rec.ttft), ("tbt_p50_s", numberField rec.tbtP50), ("tbt_p99_s", numberField rec.tbtP99),
    ("tbt_max_s", numberField rec.tbtMax), ("decode_tokens", intField rec.decodeTokens)]

def recordJson (rec : ResultRecord F) : Json := .obj (present (recordFields rec))

def dispatchDoneJson (ends : Endpoints F) : Json :=
  .obj [("__type__", .str "dispatch_done"), ("last_fire_time", GoFloat.number ends.lastFireTime),
    ("last_request_start_at", GoFloat.number ends.lastRequestStartAt),
    ("last_body_done_at", GoFloat.number ends.lastBodyDoneAt), ("adjusted_run_t0", GoFloat.number ends.runT0)]

def histogramJson (histogram : Histogram F) : Json :=
  .obj [("bucket_upper_bounds_s", .arr (histogram.bounds.map GoFloat.number)),
    ("counts", .arr (histogram.counts.map fun count : Nat => .int count)), ("count", .int histogram.count),
    ("sum_s", GoFloat.number histogram.sumS)]

def summaryFields (summary : Summary F) (health : Health F) : List (String × Option Json) :=
  [("__type__", some (.str "summary")), ("requests_completed", some (.int summary.requestsCompleted)),
    ("requests_scheduled", some (.int summary.requestsScheduled)), ("errors", some (.int summary.errors)),
    ("error_counts", if health.errorCounts = [] then none
      else some (.obj (health.errorCounts.map fun entry => (entry.1, .int entry.2)))),
    ("error_samples", if health.errorSamples = [] then none
      else some (.obj (health.errorSamples.map fun entry => (entry.1, .str entry.2)))),
    ("p50_s", some (GoFloat.number summary.p50S)), ("p99_s", some (GoFloat.number summary.p99S)),
    ("latency_quantile_method", some (.str "mergeable_histogram_estimate_2pct_through_7200s")),
    ("latency_histogram", some (histogramJson summary.histogram)),
    ("total_input_tokens", some (.int summary.totalInputTokens)),
    ("total_output_tokens", some (.int summary.totalOutputTokens)),
    ("last_fire_time", some (GoFloat.number summary.lastFireTime)),
    ("last_request_start_at", some (GoFloat.number summary.lastRequestStartAt)),
    ("last_body_done_at", some (GoFloat.number summary.lastBodyDoneAt)),
    ("adjusted_run_t0", some (GoFloat.number summary.adjustedRunT0)),
    ("dispatch_health", textField health.dispatchHealth),
    ("dispatch_warnings", if health.dispatchWarnings = [] then none
      else some (.arr (health.dispatchWarnings.map .str))),
    ("dispatch_lag_p99_s", numberField health.dispatchLagP99S),
    ("max_observed_active", intField health.maxObservedActive), ("new_connections", intField health.newConnections),
    ("reused_connections", intField health.reusedConnections)]

def summaryJson (summary : Summary F) (health : Health F) : Json := .obj (present (summaryFields summary health))

/-- `writeResults`: the lines of the result file. -/
def writeResults (sumOnly : Bool) (process : GoProcess F) (collected : Collected F) : List Json :=
  if sumOnly then [summaryJson process.summary (healthOf (aggregate process.workerResults) collected)]
  else process.rows.map recordJson ++ [dispatchDoneJson process.ends]

end Encoding

section Grammar

def numberOk : Json → Bool
  | .int value => 0 ≤ value
  | .float value => 0 ≤ value.value
  | _ => false

def countOk : Json → Bool
  | .int value => 0 ≤ value
  | _ => false

def positiveOk : Json → Bool
  | .int value => 1 ≤ value
  | _ => false

def usageOk : Json → Bool
  | .null => true
  | value => countOk value

def isText : Json → Bool
  | .str _ => true
  | _ => false

def textOk : Json → Bool
  | .str text => text ≠ ""
  | _ => false

def isBool : Json → Bool
  | .bool _ => true
  | _ => false

def listOf (ok : Json → Bool) : Json → Bool
  | .arr items => items.all ok
  | _ => false

def mapOf (ok : Json → Bool) : Json → Bool
  | .obj fields => fields.all fun field => field.1 ≠ "" && ok field.2
  | _ => false

/-- A check of a field, where it is there. -/
def checkField (fields : List (String × Json)) (place : String) (ok : Json → Bool) (what : String) (name : String) :
    Except String Unit :=
  ensure ((Json.lookup name fields).all ok = true) ("Go replay " ++ place ++ "." ++ name ++ " " ++ what)

def checkNumber (fields : List (String × Json)) (place : String) : String → Except String Unit :=
  checkField fields place numberOk "must be a finite nonnegative number"

def checkCount (fields : List (String × Json)) (place : String) : String → Except String Unit :=
  checkField fields place countOk "must be a nonnegative integer"

def requiredNames (fields : List (String × Json)) (required optional : List String) : Bool :=
  required.all (Json.fieldNames fields).contains && (Json.fieldNames fields).all (required ++ optional).contains

def recordRequired : List String :=
  ["req_id", "model", "latency", "success", "error", "end_time", "input_len", "output_len", "actual_prompt_tokens",
    "actual_completion_tokens", "tensor_parallel_size"]

def recordOptional : List String :=
  ["error_class", "status_code", "scheduled_at", "enqueued_at", "dequeued_at", "request_start_at", "headers_at",
    "first_token_at", "body_done_at", "ttft_s", "tbt_p50_s", "tbt_p99_s", "tbt_max_s", "decode_tokens"]

def recordNumbers : List String :=
  ["latency", "end_time", "scheduled_at", "enqueued_at", "dequeued_at", "request_start_at", "headers_at",
    "first_token_at", "body_done_at", "ttft_s", "tbt_p50_s", "tbt_p99_s", "tbt_max_s"]

/-- `validate_go_result_record`. -/
def validateGoResultRecord (fields : List (String × Json)) : Except String Unit := do
  ensure (requiredNames fields recordRequired recordOptional = true) "Go replay result row fields are invalid"
  ["req_id", "model"].forM (checkField fields "result" textOk "is invalid")
  ["error", "error_class"].forM (checkField fields "result" isText "is invalid")
  checkField fields "result" isBool "must be boolean" "success"
  ["input_len", "output_len", "tensor_parallel_size"].forM (checkCount fields "result")
  checkField fields "result" positiveOk "must be positive" "tensor_parallel_size"
  ["actual_prompt_tokens", "actual_completion_tokens"].forM
    (checkField fields "result" usageOk "must be a nonnegative integer")
  ["status_code", "decode_tokens"].forM (checkCount fields "result")
  recordNumbers.forM (checkNumber fields "result")

def dispatchDoneFields : List String :=
  ["__type__", "last_fire_time", "last_request_start_at", "last_body_done_at", "adjusted_run_t0"]

/-- `validate_dispatch_done`, of a row with its type. -/
def validateDispatchDone (fields : List (String × Json)) : Except String Unit := do
  ensure (Json.sameNames fields dispatchDoneFields = true) "Go replay dispatch_done fields are invalid"
  ["last_fire_time", "last_request_start_at", "last_body_done_at", "adjusted_run_t0"].forM
    (checkNumber fields "dispatch_done")

def summaryRequired : List String :=
  ["__type__", "requests_completed", "requests_scheduled", "errors", "p50_s", "p99_s", "total_input_tokens",
    "total_output_tokens", "last_fire_time", "last_request_start_at", "last_body_done_at", "adjusted_run_t0"]

def summaryOptional : List String :=
  ["error_counts", "error_samples", "dispatch_health", "dispatch_warnings", "dispatch_lag_p99_s",
    "max_observed_active", "new_connections", "reused_connections", "latency_histogram", "latency_quantile_method"]

def histogramFields : List String := ["bucket_upper_bounds_s", "counts", "count", "sum_s"]

def ratOf (value : Json) : ℚ := value.number?.getD 0

def intOf : Json → Int
  | .int value => value
  | _ => 0

def intAt (fields : List (String × Json)) (name : String) : Int := ((Json.lookup name fields).map intOf).getD 0

def isMethod : Json → Bool
  | .str method => method = "mergeable_histogram_estimate_2pct_through_7200s"
  | _ => false

/-- The bounds and counts of a histogram that belong together. -/
def validateBuckets (bounds counts : List Json) (count : Int) : Except String Unit := do
  ensure (bounds.length = counts.length ∧ 2 ≤ bounds.length ∧ bounds.getLast?.bind Json.number? = some (-1) ∧
    0 ≤ count ∧ counts.all countOk = true ∧ (counts.map intOf).sum = count)
    "Go replay summary.latency_histogram values are invalid"
  ensure (bounds.dropLast.all numberOk = true)
    "Go replay summary.latency_histogram.bounds must be a finite nonnegative number"
  ensure ((bounds.dropLast.map ratOf).IsChain (· < ·)) "Go replay summary.latency_histogram bounds are not ordered"

def validateHistogram : Json → Except String Unit
  | .obj histogram => do
    ensure (Json.sameNames histogram histogramFields = true) "Go replay summary.latency_histogram fields are invalid"
    (match Json.lookup "bucket_upper_bounds_s" histogram, Json.lookup "counts" histogram, Json.lookup "count" histogram with
      | some (.arr bounds), some (.arr counts), some (.int count) => validateBuckets bounds counts count
      | _, _, _ => .error "Go replay summary.latency_histogram values are invalid")
    checkNumber histogram "summary.latency_histogram" "sum_s"
  | _ => .error "Go replay summary.latency_histogram fields are invalid"

/-- `validate_go_summary`, of a row with its type. -/
def validateGoSummaryRow (fields : List (String × Json)) : Except String Unit := do
  ensure (requiredNames fields summaryRequired summaryOptional = true) "Go replay summary fields are invalid"
  ["requests_completed", "requests_scheduled", "errors", "total_input_tokens", "total_output_tokens"].forM
    (checkCount fields "summary")
  ensure (0 ≤ intAt fields "errors" ∧ intAt fields "errors" ≤ intAt fields "requests_completed" ∧
    intAt fields "requests_completed" ≤ intAt fields "requests_scheduled")
    "Go replay summary request counts are inconsistent"
  ["p50_s", "p99_s", "last_fire_time", "last_request_start_at", "last_body_done_at", "adjusted_run_t0"].forM
    (checkNumber fields "summary")
  ["max_observed_active", "new_connections", "reused_connections"].forM (checkCount fields "summary")
  checkNumber fields "summary" "dispatch_lag_p99_s"
  checkField fields "summary" textOk "is invalid" "dispatch_health"
  checkField fields "summary" (listOf isText) "is invalid" "dispatch_warnings"
  checkField fields "summary" (mapOf countOk) "is invalid" "error_counts"
  checkField fields "summary" (mapOf isText) "is invalid" "error_samples"
  ensure ((Json.lookup "latency_histogram" fields).isSome = (Json.lookup "latency_quantile_method" fields).isSome)
    "Go replay summary latency histogram and quantile method must be published together"
  checkField fields "summary" isMethod "is unsupported" "latency_quantile_method"
  ((Json.lookup "latency_histogram" fields).map validateHistogram).getD (.ok ())

end Grammar

section Reader

structure GoResultStream where
  records : List (List (String × Json))
  terminal : List (String × Json)

/-- The rows a reader has taken so far. -/
structure Reading where
  records : List (List (String × Json))
  seen : List String
  terminal : Option (List (String × Json))

def textAt (name : String) (fields : List (String × Json)) : Option String :=
  match Json.lookup name fields with
  | some (.str text) => some text
  | _ => none

def takeRow (reading : Reading) : Json → Except String Reading
  | .obj fields =>
    if reading.terminal.isSome then .error "Go replay result contains data after terminal row"
    else if textAt "__type__" fields = some "summary" then do
      ensure (reading.records = []) "Go replay summary cannot follow per-request rows"
      validateGoSummaryRow fields
      return { reading with terminal := some fields }
    else if textAt "__type__" fields = some "dispatch_done" then do
      validateDispatchDone fields
      return { reading with terminal := some fields }
    else do
      validateGoResultRecord fields
      let requestId := (textAt "req_id" fields).getD ""
      ensure (requestId ∉ reading.seen) ("Go replay result repeats request id " ++ requestId)
      return { reading with records := reading.records ++ [fields], seen := requestId :: reading.seen }
  | _ => .error "Go replay result row must be a JSON object"

/-- `read_go_result_stream` of the lines of a file. -/
def readGoResultStream (lines : List Json) : Except String GoResultStream := do
  let reading ← lines.foldlM takeRow ⟨[], [], none⟩
  match reading.terminal with
  | some terminal => return ⟨reading.records, terminal⟩
  | none => .error "Go replay result is missing its terminal row"

end Reader

end ExaServe.Replay
