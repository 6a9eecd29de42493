import ExaServe.Replay.Acceptance
import ExaServe.Replay.Nanoseconds
import ExaServe.Replay.Trace

namespace ExaServe.Replay

open Lib

section Requests

variable {F : Type} [GoFloat F]

/-- Why a stream was not read to its end. -/
inductive StreamFailure where
  | stalled (timeout : Nat)
  | read (error : String)

/-- What a stream has brought. Its durations are differences of the monotonic clock. -/
structure SseResult (F : Type) where
  firstTokenAt : Option F
  ttft : Nat
  tbtP50 : Nat
  tbtP99 : Nat
  tbtMax : Nat
  numChunks : Nat
  usage : Option (Usage × Usage)
  failed : Option StreamFailure

/-- How a request ended, with what the wall clock read on the way. -/
inductive Reply (F : Type) where
  | unbuilt (error : String)
  | failed (startAt headersAt : F) (error errorClass : String)
  | streamed (startAt headersAt : F) (sse : SseResult F)
  | answered (startAt headersAt : F) (status : Nat) (body : String) (readError : Option String)
      (usage : Option (Usage × Usage))

structure Attempt (F : Type) where
  request : TraceRequest
  scheduledAt : F
  enqueuedAt : F
  dequeuedAt : F
  doneAt : F
  reply : Reply F

def latencyAnchor (rec : ResultRecord F) : F := if 0 < rec.requestStartAt then rec.requestStartAt else rec.enqueuedAt

/-- The end of a request, and its latency up to there. -/
def finished (rec : ResultRecord F) (doneAt : F) : ResultRecord F :=
  { rec with bodyDoneAt := doneAt, endTime := doneAt, latency := GoFloat.sub doneAt (latencyAnchor rec) }

def reported (rec : ResultRecord F) (usage : Option (Usage × Usage)) : ResultRecord F :=
  match usage with
  | some (prompt, completion) => { rec with actualPromptTokens := prompt, actualCompletionTokens := completion }
  | none => rec

def streamedRow (rec : ResultRecord F) (sse : SseResult F) : ResultRecord F :=
  let timed := match sse.firstTokenAt with
    | some firstTokenAt => { rec with firstTokenAt, ttft := GoFloat.seconds sse.ttft }
    | none => rec
  let counted := { timed with decodeTokens := sse.numChunks }
  let spaced := if 0 < sse.tbtP99 then
    { counted with
      tbtP50 := GoFloat.seconds sse.tbtP50
      tbtP99 := GoFloat.seconds sse.tbtP99
      tbtMax := GoFloat.seconds sse.tbtMax } else counted
  match sse.failed with
  | some (.stalled timeout) =>
    { spaced with
      errorClass := "stall"
      error := "stream idle >" ++ toString timeout ++ "s (no bytes); connection wedged" }
  | some (.read error) => { spaced with errorClass := "body_read", error := "SSE read error: " ++ error }
  | none => reported { spaced with success := true } sse.usage

def startRow (attempt : Attempt F) : ResultRecord F :=
  { ResultRecord.empty with
    reqId := attempt.request.reqId
    model := attempt.request.model
    inputLen := attempt.request.inputLen
    outputLen := attempt.request.outputLen
    tensorParallelSize := attempt.request.tensorParallelSize
    scheduledAt := attempt.scheduledAt
    enqueuedAt := attempt.enqueuedAt
    dequeuedAt := attempt.dequeuedAt }

def sentRow (attempt : Attempt F) (startAt headersAt : F) : ResultRecord F :=
  { startRow attempt with requestStartAt := startAt, headersAt }

/-- `doRequest`. -/
def doRequest (attempt : Attempt F) : ResultRecord F :=
  match attempt.reply with
  | .unbuilt error =>
    finished { startRow attempt with error := "request build error: " ++ error, errorClass := "build" } attempt.doneAt
  | .failed startAt headersAt error errorClass =>
    finished { sentRow attempt startAt headersAt with error, errorClass } attempt.doneAt
  | .streamed startAt headersAt sse =>
    streamedRow (finished { sentRow attempt startAt headersAt with statusCode := 200 } attempt.doneAt) sse
  | .answered startAt headersAt status body readError usage =>
    let row := finished { sentRow attempt startAt headersAt with statusCode := status } attempt.doneAt
    if status ≠ 200 then
      { row with error := "HTTP " ++ toString status ++ ": " ++ errorSample body, errorClass := "http_status" }
    else match readError with
      | some error => { row with error := "body read error: " ++ error, errorClass := "body_read" }
      | none => reported { row with success := true } usage

end Requests

section Rank

variable {F : Type} [GoFloat F]

/-- A request as the trace's loader lets it pass. -/
structure RequestValid (request : TraceRequest) : Prop where
  reqId : request.reqId ≠ ""
  model : request.model ≠ ""
  tensorParallelSize : 1 ≤ request.tensorParallelSize

/-- One process of the client at its end: for each scheduler the requests of its partition, with what became of
    those that were sent before an interruption, and what the metrics have seen. -/
structure ClientProcess (F : Type) where
  schedulers : List (List (Option (Attempt F)))
  dispatchLags : List Int
  maxObservedActive : Nat
  newConnections : Nat
  reusedConnections : Nat

def ClientProcess.attempts (process : ClientProcess F) : List (Attempt F) :=
  process.schedulers.flatMap fun slots => slots.filterMap id

def ClientProcess.workerResults (process : ClientProcess F) : List (List (ResultRecord F)) :=
  process.schedulers.map fun slots => slots.map fun slot => slot.elim ResultRecord.empty doRequest

def ClientProcess.collected (process : ClientProcess F) : Collected F where
  lag := process.dispatchLags.foldl DurationHistogram.observe (newDurationHistogram (logarithmicHistogramBounds F))
  maxObservedActive := process.maxObservedActive
  newConnections := process.newConnections
  reusedConnections := process.reusedConnections

/-- `recordMaxTime` over the times of the completed requests. -/
def lastNano (times : List F) : Int :=
  times.foldl (fun last at_ => if at_ ≤ 0 then last else max last (GoFloat.unixNano at_)) 0

/-- The latest start of a request of the process, zero when none was sent. -/
def ClientProcess.lastRequestStartAt (process : ClientProcess F) : F :=
  GoFloat.seconds (lastNano (process.attempts.map fun attempt => (doRequest attempt).requestStartAt))

def ClientProcess.lastBodyDoneAt (process : ClientProcess F) : F :=
  GoFloat.seconds (lastNano (process.attempts.map fun attempt => (doRequest attempt).bodyDoneAt))

/-- `run`, from its last request on. -/
def run (runT0 : F) (process : ClientProcess F) : GoProcess F where
  workerResults := process.workerResults
  ends := {
    lastFireTime := if process.lastRequestStartAt ≤ 0 then runT0 else process.lastRequestStartAt
    lastRequestStartAt := process.lastRequestStartAt
    lastBodyDoneAt := process.lastBodyDoneAt
    runT0 }

/-- The processes of one rank, which share the start of the run. The requests of a process have identities of
    their own. -/
structure ClientRank (F : Type) where
  runT0 : F
  first : ClientProcess F
  rest : List (ClientProcess F)
  valid : ∀ process ∈ first :: rest, ∀ attempt ∈ process.attempts, RequestValid attempt.request
  distinct : ∀ process ∈ first :: rest, (process.attempts.map fun attempt => attempt.request.reqId).Nodup

def ClientRank.processes (rank : ClientRank F) : List (ClientProcess F) := rank.first :: rank.rest

/-- What a process has written, as its reader returns it. -/
def streamOf (sumOnly : Bool) (process : GoProcess F) (collected : Collected F) : GoResultStream :=
  if sumOnly then ⟨[], present (summaryFields process.summary (healthOf (aggregate process.workerResults) collected))⟩
  else ⟨process.rows.map fun row => present (recordFields row), dispatchFields process.ends⟩

/-- The `max_last_fire_time` of `_send_run_t0_and_wait`. -/
def ClientRank.maxLastFireTime (rank : ClientRank F) : F :=
  maximum 0 (rank.processes.map ClientProcess.lastRequestStartAt)

/-- Every process's result file is read back as it was written, and in the summary mode the summaries merge to one
    whose endpoint is the one the reader has computed. -/
def Agrees (sumOnly : Bool) (rank : ClientRank F) : Prop :=
  (∀ process ∈ rank.processes, readGoResultStream (writeResults sumOnly (run rank.runT0 process) process.collected) =
    .ok (streamOf sumOnly (run rank.runT0 process) process.collected)) ∧
  (sumOnly = true → ∃ merged,
    mergeGoProcessSummaries (rank.processes.map fun process => (run rank.runT0 process).summary) = .ok merged ∧
      merged.lastFireTime = rank.maxLastFireTime)

end Rank

section Rows

variable {F : Type} [GoFloat F]

def Attempt.startAt (attempt : Attempt F) : F :=
  match attempt.reply with
  | .unbuilt _ => 0
  | .failed startAt _ _ _ | .streamed startAt _ _ | .answered startAt _ _ _ _ _ => startAt

def Attempt.headersAt (attempt : Attempt F) : F :=
  match attempt.reply with
  | .unbuilt _ => 0
  | .failed _ headersAt _ _ | .streamed _ headersAt _ | .answered _ headersAt _ _ _ _ => headersAt

def Attempt.firstTokenAt (attempt : Attempt F) : F :=
  match attempt.reply with
  | .streamed _ _ sse => sse.firstTokenAt.getD 0
  | _ => 0

/-- The time that the latency of a request counts from. -/
def Attempt.anchor (attempt : Attempt F) : F := if 0 < attempt.startAt then attempt.startAt else attempt.enqueuedAt

/-- The server's counts, of a request that succeeded. -/
def Attempt.usage (attempt : Attempt F) : Usage × Usage :=
  match attempt.reply with
  | .streamed _ _ sse => if sse.failed.isNone then sse.usage.getD (none, none) else (none, none)
  | .answered _ _ status _ readError usage =>
    if status = 200 ∧ readError.isNone = true then usage.getD (none, none) else (none, none)
  | _ => (none, none)

/-- What the row of a request has of it. -/
structure Describes (attempt : Attempt F) (rec : ResultRecord F) : Prop where
  reqId : rec.reqId = attempt.request.reqId
  model : rec.model = attempt.request.model
  inputLen : rec.inputLen = attempt.request.inputLen
  outputLen : rec.outputLen = attempt.request.outputLen
  tensorParallelSize : rec.tensorParallelSize = attempt.request.tensorParallelSize
  statusCode : 0 ≤ rec.statusCode
  decodeTokens : 0 ≤ rec.decodeTokens
  scheduledAt : rec.scheduledAt = attempt.scheduledAt
  enqueuedAt : rec.enqueuedAt = attempt.enqueuedAt
  dequeuedAt : rec.dequeuedAt = attempt.dequeuedAt
  requestStartAt : rec.requestStartAt = attempt.startAt
  headersAt : rec.headersAt = attempt.headersAt
  firstTokenAt : rec.firstTokenAt = attempt.firstTokenAt
  bodyDoneAt : rec.bodyDoneAt = attempt.doneAt
  endTime : rec.endTime = attempt.doneAt
  latency : rec.latency = GoFloat.sub attempt.doneAt attempt.anchor
  usage : (rec.actualPromptTokens, rec.actualCompletionTokens) = attempt.usage

/-- The durations of a row come from the monotonic clock. -/
structure Steady (rec : ResultRecord F) : Prop where
  ttft : 0 ≤ rec.ttft
  tbtP50 : 0 ≤ rec.tbtP50
  tbtP99 : 0 ≤ rec.tbtP99
  tbtMax : 0 ≤ rec.tbtMax

/-- What follows the end of a stream leaves the rest of its row as it is. -/
structure SameStart (rec row : ResultRecord F) : Prop where
  reqId : row.reqId = rec.reqId
  model : row.model = rec.model
  inputLen : row.inputLen = rec.inputLen
  outputLen : row.outputLen = rec.outputLen
  tensorParallelSize : row.tensorParallelSize = rec.tensorParallelSize
  statusCode : row.statusCode = rec.statusCode
  scheduledAt : row.scheduledAt = rec.scheduledAt
  enqueuedAt : row.enqueuedAt = rec.enqueuedAt
  dequeuedAt : row.dequeuedAt = rec.dequeuedAt
  requestStartAt : row.requestStartAt = rec.requestStartAt
  headersAt : row.headersAt = rec.headersAt
  bodyDoneAt : row.bodyDoneAt = rec.bodyDoneAt
  endTime : row.endTime = rec.endTime
  latency : row.latency = rec.latency

theorem streamedRow_start (rec : ResultRecord F) (sse : SseResult F) : SameStart rec (streamedRow rec sse) := by
  obtain ⟨firstTokenAt, ttft, tbtP50, tbtP99, tbtMax, numChunks, usage, failed⟩ := sse
  unfold streamedRow
  split_ifs <;> rcases firstTokenAt with - | firstTokenAt <;> rcases failed with - | ⟨timeout⟩ | ⟨error⟩ <;>
    rcases usage with - | ⟨prompt, completion⟩ <;> constructor <;> rfl

theorem streamedRow_counts (rec : ResultRecord F) (sse : SseResult F) : (streamedRow rec sse).decodeTokens = sse.numChunks := by
  obtain ⟨firstTokenAt, ttft, tbtP50, tbtP99, tbtMax, numChunks, usage, failed⟩ := sse
  unfold streamedRow
  split_ifs <;> rcases firstTokenAt with - | firstTokenAt <;> rcases failed with - | ⟨timeout⟩ | ⟨error⟩ <;>
    rcases usage with - | ⟨prompt, completion⟩ <;> rfl

theorem streamedRow_firstToken {rec : ResultRecord F} (untimed : rec.firstTokenAt = 0) (sse : SseResult F) :
    (streamedRow rec sse).firstTokenAt = sse.firstTokenAt.getD 0 := by
  obtain ⟨firstTokenAt, ttft, tbtP50, tbtP99, tbtMax, numChunks, usage, failed⟩ := sse
  unfold streamedRow
  split_ifs <;> rcases firstTokenAt with - | firstTokenAt <;> rcases failed with - | ⟨timeout⟩ | ⟨error⟩ <;>
    rcases usage with - | ⟨prompt, completion⟩ <;> first | exact untimed | rfl

theorem streamedRow_usage {rec : ResultRecord F} (unreported : (rec.actualPromptTokens, rec.actualCompletionTokens) = (none, none))
    (sse : SseResult F) : ((streamedRow rec sse).actualPromptTokens, (streamedRow rec sse).actualCompletionTokens) =
      if sse.failed.isNone then sse.usage.getD (none, none) else (none, none) := by
  obtain ⟨firstTokenAt, ttft, tbtP50, tbtP99, tbtMax, numChunks, usage, failed⟩ := sse
  unfold streamedRow
  split_ifs <;> rcases firstTokenAt with - | firstTokenAt <;> rcases failed with - | ⟨timeout⟩ | ⟨error⟩ <;>
    rcases usage with - | ⟨prompt, completion⟩ <;> first | exact unreported | rfl | simp_all

omit [GoFloat F] in
theorem reported_start (rec : ResultRecord F) (usage : Option (Usage × Usage)) : SameStart rec (reported rec usage) := by
  rcases usage with - | ⟨prompt, completion⟩ <;> constructor <;> rfl

theorem doRequest_describes (attempt : Attempt F) : Describes attempt (doRequest attempt) := by
  obtain ⟨request, scheduledAt, enqueuedAt, dequeuedAt, doneAt, reply⟩ := attempt
  cases reply with
  | unbuilt error => constructor <;> rfl
  | failed startAt headersAt error errorClass => constructor <;> rfl
  | streamed startAt headersAt sse =>
    obtain start := streamedRow_start (finished { sentRow ⟨request, scheduledAt, enqueuedAt, dequeuedAt, doneAt,
      .streamed startAt headersAt sse⟩ startAt headersAt with statusCode := 200 } doneAt) sse
    exact {
      reqId := start.reqId
      model := start.model
      inputLen := start.inputLen
      outputLen := start.outputLen
      tensorParallelSize := start.tensorParallelSize
      statusCode := le_of_le_of_eq (by decide : (0 : Int) ≤ 200) start.statusCode.symm
      decodeTokens := le_of_le_of_eq (Int.natCast_nonneg _) (streamedRow_counts _ sse).symm
      scheduledAt := start.scheduledAt
      enqueuedAt := start.enqueuedAt
      dequeuedAt := start.dequeuedAt
      requestStartAt := start.requestStartAt
      headersAt := start.headersAt
      firstTokenAt := streamedRow_firstToken rfl sse
      bodyDoneAt := start.bodyDoneAt
      endTime := start.endTime
      latency := start.latency
      usage := streamedRow_usage rfl sse }
  | answered startAt headersAt status body readError usage =>
    have nonneg : (0 : Int) ≤ status := Int.natCast_nonneg status
    by_cases refused : status ≠ 200
    · have none_reported : Attempt.usage ⟨request, scheduledAt, enqueuedAt, dequeuedAt, doneAt,
          .answered startAt headersAt status body readError usage⟩ = (none, none) := if_neg fun both => refused both.1
      unfold doRequest
      simp only [if_pos refused]
      constructor <;> first | exact none_reported.symm | exact nonneg | rfl
    · have accepted : status = 200 := not_not.mp refused
      unfold doRequest
      simp only [if_neg refused]
      cases readError with
      | some error =>
        have none_reported : Attempt.usage ⟨request, scheduledAt, enqueuedAt, dequeuedAt, doneAt,
            .answered startAt headersAt status body (some error) usage⟩ = (none, none) :=
          if_neg fun both => Bool.false_ne_true both.2
        constructor <;> first | exact none_reported.symm | exact nonneg | rfl
      | none =>
        have all_reported : Attempt.usage ⟨request, scheduledAt, enqueuedAt, dequeuedAt, doneAt,
            .answered startAt headersAt status body none usage⟩ = usage.getD (none, none) := if_pos ⟨accepted, rfl⟩
        rcases usage with - | ⟨prompt, completion⟩ <;> constructor <;>
          first | exact all_reported.symm | exact nonneg | rfl

variable [LawfulGoFloat F]

theorem streamedRow_steady {rec : ResultRecord F} (steady : Steady rec) (sse : SseResult F) : Steady (streamedRow rec sse) := by
  obtain ⟨firstTokenAt, ttft, tbtP50, tbtP99, tbtMax, numChunks, usage, failed⟩ := sse
  have seconds (ns : Nat) : 0 ≤ (GoFloat.seconds ns : F) := (LawfulGoFloat.seconds_nonneg _).mpr (Int.natCast_nonneg ns)
  unfold streamedRow
  split_ifs <;> rcases firstTokenAt with - | firstTokenAt <;> rcases failed with - | ⟨timeout⟩ | ⟨error⟩ <;>
    rcases usage with - | ⟨prompt, completion⟩ <;> constructor <;>
      first | exact seconds _ | exact steady.ttft | exact steady.tbtP50 | exact steady.tbtP99 | exact steady.tbtMax

theorem doRequest_steady (attempt : Attempt F) : Steady (doRequest attempt) := by
  have still : Steady (ResultRecord.empty : ResultRecord F) := ⟨le_refl _, le_refl _, le_refl _, le_refl _⟩
  obtain ⟨request, scheduledAt, enqueuedAt, dequeuedAt, doneAt, reply⟩ := attempt
  cases reply with
  | unbuilt error => exact ⟨le_refl _, le_refl _, le_refl _, le_refl _⟩
  | failed startAt headersAt error errorClass => exact ⟨le_refl _, le_refl _, le_refl _, le_refl _⟩
  | streamed startAt headersAt sse => exact streamedRow_steady ⟨le_refl _, le_refl _, le_refl _, le_refl _⟩ sse
  | answered startAt headersAt status body readError usage =>
    unfold doRequest
    simp only
    split_ifs
    · exact ⟨le_refl _, le_refl _, le_refl _, le_refl _⟩
    · cases readError with
      | some error => exact ⟨le_refl _, le_refl _, le_refl _, le_refl _⟩
      | none => rcases usage with - | ⟨prompt, completion⟩ <;> exact ⟨le_refl _, le_refl _, le_refl _, le_refl _⟩

/-- What the clock and the server may say of a request for its row to be accepted. -/
structure Attempt.InRange (attempt : Attempt F) : Prop where
  prompt : ∀ count, attempt.usage.1 = some count → 0 ≤ count
  completion : ∀ count, attempt.usage.2 = some count → 0 ≤ count
  forward : attempt.anchor ≤ attempt.doneAt
  scheduledAt : 0 ≤ attempt.scheduledAt
  enqueuedAt : 0 ≤ attempt.enqueuedAt
  dequeuedAt : 0 ≤ attempt.dequeuedAt
  startAt : 0 ≤ attempt.startAt
  headersAt : 0 ≤ attempt.headersAt
  firstTokenAt : 0 ≤ attempt.firstTokenAt
  doneAt : 0 ≤ attempt.doneAt

theorem attempt_in_range_iff (attempt : Attempt F) : RowInRange (doRequest attempt) ↔ attempt.InRange := by
  have row := doRequest_describes attempt
  have steady := doRequest_steady attempt
  have prompt : (doRequest attempt).actualPromptTokens = attempt.usage.1 := congrArg Prod.fst row.usage
  have completion : (doRequest attempt).actualCompletionTokens = attempt.usage.2 := congrArg Prod.snd row.usage
  have forward : 0 ≤ (doRequest attempt).latency ↔ attempt.anchor ≤ attempt.doneAt := by
    rw [row.latency, LawfulGoFloat.sub_nonneg]
  constructor
  · intro range
    exact {
      prompt := prompt ▸ range.prompt
      completion := completion ▸ range.completion
      forward := forward.mp range.latency
      scheduledAt := row.scheduledAt ▸ range.scheduledAt
      enqueuedAt := row.enqueuedAt ▸ range.enqueuedAt
      dequeuedAt := row.dequeuedAt ▸ range.dequeuedAt
      startAt := row.requestStartAt ▸ range.requestStartAt
      headersAt := row.headersAt ▸ range.headersAt
      firstTokenAt := row.firstTokenAt ▸ range.firstTokenAt
      doneAt := row.bodyDoneAt ▸ range.bodyDoneAt }
  · intro range
    exact {
      prompt := prompt ▸ range.prompt
      completion := completion ▸ range.completion
      latency := forward.mpr range.forward
      endTime := row.endTime ▸ range.doneAt
      scheduledAt := row.scheduledAt ▸ range.scheduledAt
      enqueuedAt := row.enqueuedAt ▸ range.enqueuedAt
      dequeuedAt := row.dequeuedAt ▸ range.dequeuedAt
      requestStartAt := row.requestStartAt ▸ range.startAt
      headersAt := row.headersAt ▸ range.headersAt
      firstTokenAt := row.firstTokenAt ▸ range.firstTokenAt
      bodyDoneAt := row.bodyDoneAt ▸ range.doneAt
      ttft := steady.ttft
      tbtP50 := steady.tbtP50
      tbtP99 := steady.tbtP99
      tbtMax := steady.tbtMax }

end Rows

section Agreement

variable {F : Type} [GoFloat F]

theorem run_rows {process : ClientProcess F} (valid : ∀ attempt ∈ process.attempts, RequestValid attempt.request) (runT0 : F) :
    (run runT0 process).rows = process.attempts.map doRequest := by
  have each (slots : List (Option (Attempt F))) (named : ∀ attempt ∈ slots.filterMap id, RequestValid attempt.request) :
      (slots.map fun slot => slot.elim ResultRecord.empty doRequest).filter recordPopulated =
        (slots.filterMap id).map doRequest := by
    induction slots with
    | nil => rfl
    | cons slot rest ih =>
      cases slot with
      | none =>
        rw [List.map_cons, List.filter_cons_of_neg (by simp)]
        exact ih named
      | some attempt =>
        obtain ⟨here, later⟩ := List.forall_mem_cons.mp (show ∀ other ∈ attempt :: rest.filterMap id, _ from named)
        have filled : recordPopulated (doRequest attempt) = true := by
          have named : (doRequest attempt).reqId ≠ "" := (doRequest_describes attempt).reqId ▸ here.reqId
          simp [recordPopulated, named]
        rw [List.map_cons, Option.elim_some, List.filter_cons_of_pos filled, ih later]
        rfl
  have all (schedulers : List (List (Option (Attempt F))))
      (named : ∀ attempt ∈ schedulers.flatMap fun slots => slots.filterMap id, RequestValid attempt.request) :
      populated (schedulers.map fun slots => slots.map fun slot => slot.elim ResultRecord.empty doRequest) =
        (schedulers.flatMap fun slots => slots.filterMap id).map doRequest := by
    induction schedulers with
    | nil => rfl
    | cons slots rest ih =>
      rw [List.flatMap_cons] at named ⊢
      have first := each slots fun attempt listed => named attempt (List.mem_append_left _ listed)
      have others := ih fun attempt listed => named attempt (List.mem_append_right _ listed)
      rw [List.map_append, ← first, ← others]
      rfl
  exact all process.schedulers valid

theorem row_shape {attempt : Attempt F} (valid : RequestValid attempt.request) : RowShape (doRequest attempt) := by
  have row := doRequest_describes attempt
  exact {
    reqId := row.reqId ▸ valid.reqId
    model := row.model ▸ valid.model
    inputLen := row.inputLen ▸ Int.natCast_nonneg _
    outputLen := row.outputLen ▸ Int.natCast_nonneg _
    tensorParallelSize := row.tensorParallelSize ▸ Int.ofNat_le.mpr valid.tensorParallelSize
    statusCode := row.statusCode
    decodeTokens := row.decodeTokens }

theorem collected_lag (process : ClientProcess F) : process.collected.lag.Sound (logarithmicHistogramBounds F) := by
  have kept (lags : List Int) (h : DurationHistogram) (sound : h.Sound (logarithmicHistogramBounds F)) :
      (lags.foldl DurationHistogram.observe h).Sound (logarithmicHistogramBounds F) := by
    induction lags generalizing h with
    | nil => exact sound
    | cons lag rest ih => exact ih _ (sound.observe lag)
  exact kept _ _ (newDurationHistogram_sound _)

theorem maximum_le_iff {first bound : F} {rest : List F} :
    maximum first rest ≤ bound ↔ first ≤ bound ∧ ∀ value ∈ rest, value ≤ bound := by
  induction rest generalizing first with
  | nil => simp [maximum]
  | cons value others ih =>
    show maximum (max first value) others ≤ bound ↔ _
    rw [ih, max_le_iff, List.forall_mem_cons, and_assoc]

theorem le_maximum (first : F) {rest : List F} {value : F} (listed : value ∈ rest) : value ≤ maximum first rest :=
  (maximum_le_iff.mp (le_refl (maximum first rest))).2 value listed

theorem first_le_maximum (first : F) (rest : List F) : first ≤ maximum first rest :=
  (maximum_le_iff.mp (le_refl (maximum first rest))).1

theorem maximum_mem (first : F) (rest : List F) : maximum first rest ∈ first :: rest := by
  induction rest generalizing first with
  | nil => exact List.mem_cons_self
  | cons value others ih =>
    rcases List.mem_cons.mp (ih (max first value)) with same | later
    · have both : maximum first (value :: others) = max first value := same
      rw [both]
      rcases max_choice first value with one | other
      · rw [one]
        exact List.mem_cons_self
      · rw [other]
        exact List.mem_cons_of_mem _ List.mem_cons_self
    · exact List.mem_cons_of_mem _ (List.mem_cons_of_mem _ later)

/-- What a process records as its last fire time. -/
def fireTime (runT0 start : F) : F := if start ≤ 0 then runT0 else start

/-- The fallback of the fire times is harmless exactly when no process needed it, or some process began a request no
    earlier than the run. -/
theorem fire_times_iff {runT0 first : F} {rest : List F} (nonneg : ∀ start ∈ first :: rest, 0 ≤ start) (begun : 0 ≤ runT0) :
    maximum (fireTime runT0 first) (rest.map (fireTime runT0)) = maximum 0 (first :: rest) ↔
      (∀ start ∈ first :: rest, 0 < start) ∨ ∃ start ∈ first :: rest, runT0 ≤ start := by
  have above : ∀ start ∈ first :: rest, start ≤ maximum (fireTime runT0 first) (rest.map (fireTime runT0)) := by
    have own (start : F) : start ≤ fireTime runT0 start := by
      unfold fireTime
      split_ifs with unsent
      · exact le_trans unsent begun
      · exact le_refl _
    intro start listed
    rcases List.mem_cons.mp listed with rfl | later
    · exact le_trans (own start) (first_le_maximum _ _)
    · exact le_trans (own start) (le_maximum _ (List.mem_map_of_mem later))
  have upper : maximum 0 (first :: rest) ≤ maximum (fireTime runT0 first) (rest.map (fireTime runT0)) :=
    maximum_le_iff.mpr ⟨le_trans (nonneg first List.mem_cons_self) (above first List.mem_cons_self), above⟩
  have lower (small : ∀ start ∈ first :: rest, fireTime runT0 start ≤ maximum 0 (first :: rest)) :
      maximum (fireTime runT0 first) (rest.map (fireTime runT0)) ≤ maximum 0 (first :: rest) := by
    refine maximum_le_iff.mpr ⟨small first List.mem_cons_self, ?_⟩
    intro fire listed
    obtain ⟨start, held, rfl⟩ := List.mem_map.mp listed
    exact small start (List.mem_cons_of_mem _ held)
  constructor
  · intro same
    by_contra neither
    rw [not_or] at neither
    obtain ⟨idle, late⟩ := neither
    push Not at idle late
    obtain ⟨unsent, held, zero⟩ := idle
    have fallback : runT0 ≤ maximum 0 (first :: rest) := by
      have fire : fireTime runT0 unsent = runT0 := if_pos zero
      have reached : fireTime runT0 unsent ≤ maximum (fireTime runT0 first) (rest.map (fireTime runT0)) := by
        rcases List.mem_cons.mp held with rfl | later
        · exact first_le_maximum _ _
        · exact le_maximum _ (List.mem_map_of_mem later)
      rw [← same]
      exact le_of_eq_of_le fire.symm reached
    rcases List.mem_cons.mp (maximum_mem 0 (first :: rest)) with none_sent | reached
    · rw [none_sent] at fallback
      exact absurd (late unsent held) (not_lt.mpr (le_trans fallback (nonneg unsent held)))
    · exact absurd (late _ reached) (not_lt.mpr fallback)
  · intro either
    refine le_antisymm (lower fun start listed => ?_) upper
    rcases either with sent | ⟨late, held, begun⟩
    · rw [fireTime, if_neg (not_le.mpr (sent start listed))]
      exact le_maximum _ listed
    · unfold fireTime
      split_ifs
      · exact le_trans begun (le_maximum _ held)
      · exact le_maximum _ listed

variable [LawfulGoFloat F]

/-- The sums a process writes to its summary: its rows' tokens and its latencies, as its counters hold them. -/
def SumsInRange (process : ClientProcess F) : Prop :=
  0 ≤ wrap64 ((process.attempts.map doRequest).map inputTokens).sum ∧
    0 ≤ wrap64 ((process.attempts.map doRequest).map outputTokens).sum ∧
      0 ≤ wrap64 ((process.attempts.map doRequest).map latencyNs).sum

/-- The runs whose results are read back. -/
def Acceptable (sumOnly : Bool) (rank : ClientRank F) : Prop :=
  0 ≤ rank.runT0 ∧
    if sumOnly then
      (∀ process ∈ rank.processes, SumsInRange process) ∧
        ((∀ process ∈ rank.processes, 0 < process.lastRequestStartAt) ∨
          ∃ process ∈ rank.processes, rank.runT0 ≤ process.lastRequestStartAt)
    else ∀ process ∈ rank.processes, ∀ attempt ∈ process.attempts, attempt.InRange

omit [LawfulGoFloat F] in
theorem lastNano_nonneg (times : List F) : 0 ≤ lastNano times := by
  have kept (times : List F) (last : Int) (nonneg : 0 ≤ last) :
      0 ≤ times.foldl (fun last at_ => if at_ ≤ 0 then last else max last (GoFloat.unixNano at_)) last := by
    induction times generalizing last with
    | nil => exact nonneg
    | cons time rest ih =>
      refine ih _ ?_
      show 0 ≤ if time ≤ 0 then last else max last (GoFloat.unixNano time)
      split_ifs
      · exact nonneg
      · exact le_trans nonneg (le_max_left _ _)
  exact kept times 0 (le_refl _)

theorem lastRequestStartAt_nonneg (process : ClientProcess F) : 0 ≤ process.lastRequestStartAt :=
  (LawfulGoFloat.seconds_nonneg _).mpr (lastNano_nonneg _)

theorem run_ends {runT0 : F} (process : ClientProcess F) : EndsInRange (run runT0 process).ends ↔ 0 ≤ runT0 := by
  constructor
  · intro range
    exact range.runT0
  · intro begun
    have start := lastRequestStartAt_nonneg process
    refine ⟨?_, start, (LawfulGoFloat.seconds_nonneg _).mpr (lastNano_nonneg _), begun⟩
    show 0 ≤ if process.lastRequestStartAt ≤ 0 then runT0 else process.lastRequestStartAt
    split_ifs
    · exact begun
    · exact start

/-- The raw results of one process are read back exactly when its requests, as the clock and the servers had them,
    are in range. -/
theorem process_raw_iff {runT0 : F} {process : ClientProcess F}
    (valid : ∀ attempt ∈ process.attempts, RequestValid attempt.request)
    (distinct : (process.attempts.map fun attempt => attempt.request.reqId).Nodup) (stream : GoResultStream) :
    readGoResultStream (writeResults false (run runT0 process) process.collected) = .ok stream ↔
      ((∀ attempt ∈ process.attempts, attempt.InRange) ∧ 0 ≤ runT0) ∧
        stream = streamOf false (run runT0 process) process.collected := by
  have rows := run_rows valid runT0
  have shape : ∀ row ∈ (run runT0 process).rows, RowShape row := by
    intro row listed
    rw [rows] at listed
    obtain ⟨attempt, sent, rfl⟩ := List.mem_map.mp listed
    exact row_shape (valid attempt sent)
  have identities : ((run runT0 process).rows.map ResultRecord.reqId).Nodup := by
    have ids : (fun attempt : Attempt F => (doRequest attempt).reqId) = fun attempt => attempt.request.reqId :=
      funext fun attempt => (doRequest_describes attempt).reqId
    rw [rows, List.map_map]
    show (process.attempts.map fun attempt => (doRequest attempt).reqId).Nodup
    rw [ids]
    exact distinct
  rw [raw_stream_eq process.collected shape identities, run_ends, rows]
  simp only [List.forall_mem_map, attempt_in_range_iff]
  rw [← rows]
  rfl

theorem raw_agrees_iff (rank : ClientRank F) : Agrees false rank ↔ Acceptable false rank := by
  have each : ∀ process ∈ rank.processes,
      (readGoResultStream (writeResults false (run rank.runT0 process) process.collected) =
        .ok (streamOf false (run rank.runT0 process) process.collected) ↔
        (∀ attempt ∈ process.attempts, attempt.InRange) ∧ 0 ≤ rank.runT0) := fun process held =>
    (process_raw_iff (rank.valid process held) (rank.distinct process held) _).trans (and_iff_left rfl)
  unfold Agrees Acceptable
  simp only [Bool.false_eq_true, false_implies, and_true, if_false]
  constructor
  · intro read
    exact ⟨((each rank.first List.mem_cons_self).mp (read rank.first List.mem_cons_self)).2,
      fun process held => ((each process held).mp (read process held)).1⟩
  · rintro ⟨begun, ranges⟩ process held
    exact (each process held).mpr ⟨ranges process held, begun⟩

theorem sum_agrees_iff (rank : ClientRank F) : Agrees true rank ↔ Acceptable true rank := by
  have each : ∀ process ∈ rank.processes,
      (ProcessInRange (run rank.runT0 process) ↔ SumsInRange process ∧ 0 ≤ rank.runT0) := by
    intro process held
    have rows := run_rows (rank.valid process held) rank.runT0
    constructor
    · intro range
      refine ⟨⟨?_, ?_, ?_⟩, range.runT0⟩
      · exact rows ▸ range.input
      · exact rows ▸ range.output
      · exact rows ▸ range.latency
    · rintro ⟨⟨input, output, latency⟩, begun⟩
      have ends := (run_ends process).mpr begun
      exact ⟨rows ▸ input, rows ▸ output, rows ▸ latency, ends.fire, ends.start, ends.done, ends.runT0⟩
  have streams : (∀ process ∈ rank.processes, readGoResultStream (writeResults true (run rank.runT0 process) process.collected) =
      .ok (streamOf true (run rank.runT0 process) process.collected)) ↔
      ∀ process ∈ rank.processes, ProcessInRange (run rank.runT0 process) :=
    forall₂_congr fun process _ => sum_stream_iff (run rank.runT0 process) (collected_lag process)
  have starts : ∀ start ∈ rank.first.lastRequestStartAt :: rank.rest.map ClientProcess.lastRequestStartAt, 0 ≤ start := by
    intro start listed
    obtain ⟨process, -, rfl⟩ := List.mem_map.mp (show start ∈ rank.processes.map ClientProcess.lastRequestStartAt from listed)
    exact lastRequestStartAt_nonneg process
  have merged (ranges : ∀ process ∈ rank.processes, ProcessInRange (run rank.runT0 process)) (begun : 0 ≤ rank.runT0) :
      (∃ merged, mergeGoProcessSummaries (rank.processes.map fun process => (run rank.runT0 process).summary) = .ok merged ∧
        merged.lastFireTime = rank.maxLastFireTime) ↔
        (∀ process ∈ rank.processes, 0 < process.lastRequestStartAt) ∨
          ∃ process ∈ rank.processes, rank.runT0 ≤ process.lastRequestStartAt := by
    have inside : ∀ process ∈ run rank.runT0 rank.first :: rank.rest.map (run rank.runT0), ProcessInRange process := by
      intro process listed
      obtain ⟨own, held, rfl⟩ := List.mem_map.mp (show process ∈ rank.processes.map (run rank.runT0) from listed)
      exact ranges own held
    have together : ∀ process ∈ rank.rest.map (run rank.runT0), process.ends.runT0 = (run rank.runT0 rank.first).ends.runT0 := by
      intro process listed
      obtain ⟨own, -, rfl⟩ := List.mem_map.mp listed
      rfl
    obtain ⟨result, done, fire⟩ := merge_ok inside together
    have same : mergeGoProcessSummaries (rank.processes.map fun process => (run rank.runT0 process).summary) = .ok result := by
      rw [← done, ClientRank.processes]
      simp only [List.map_cons, List.map_map]
      rfl
    have fires : result.lastFireTime = maximum (fireTime rank.runT0 rank.first.lastRequestStartAt)
        ((rank.rest.map ClientProcess.lastRequestStartAt).map (fireTime rank.runT0)) := by
      rw [fire]
      simp only [List.map_map]
      rfl
    have either := fire_times_iff starts begun
    have listed : rank.first.lastRequestStartAt :: rank.rest.map ClientProcess.lastRequestStartAt =
        rank.processes.map ClientProcess.lastRequestStartAt := rfl
    rw [listed, List.forall_mem_map] at either
    simp only [List.mem_map, exists_exists_and_eq_and] at either
    rw [← either, ← fires]
    constructor
    · rintro ⟨other, found, equal⟩
      rw [same] at found
      cases found
      exact equal
    · intro equal
      exact ⟨result, same, equal⟩
  unfold Agrees Acceptable
  simp only [streams, true_implies, if_true]
  constructor
  · rintro ⟨ranges, found⟩
    have begun := ((each rank.first List.mem_cons_self).mp (ranges rank.first List.mem_cons_self)).2
    exact ⟨begun, fun process held => ((each process held).mp (ranges process held)).1, (merged ranges begun).mp found⟩
  · rintro ⟨begun, sums, sent⟩
    have ranges : ∀ process ∈ rank.processes, ProcessInRange (run rank.runT0 process) := fun process held =>
      (each process held).mpr ⟨sums process held, begun⟩
    exact ⟨ranges, (merged ranges begun).mpr sent⟩

/-- What the client writes is read back as it was, and its summaries merge, exactly when the clock has not stepped
    back under a request, no server reported a negative count, and in the summary mode the sums are in range and
    no process fell back to the start of the run, or some request began no earlier than it. -/
theorem client_agrees_iff (sumOnly : Bool) (rank : ClientRank F) : Agrees sumOnly rank ↔ Acceptable sumOnly rank := by
  cases sumOnly with
  | false => exact raw_agrees_iff rank
  | true => exact sum_agrees_iff rank

end Agreement

section Idle

/-- A rank of one process whose partition was empty. -/
def idleRank : ClientRank Nanoseconds where
  runT0 := ⟨5⟩
  first := ⟨[[]], [], 0, 0, 0⟩
  rest := []
  valid := by
    intro process held attempt sent
    rw [List.mem_singleton.mp held] at sent
    cases sent
  distinct := by
    intro process held
    rw [List.mem_singleton.mp held]
    exact List.nodup_nil

/-- The summary of a rank without traffic ends at the start of the run, its reader expects zero. -/
theorem idle_rank_refused : ¬ Agrees true idleRank := by
  rw [sum_agrees_iff]
  rintro ⟨-, -, sent | ⟨process, held, late⟩⟩
  · exact absurd (sent idleRank.first List.mem_cons_self) (by decide)
  · rw [List.mem_singleton.mp held] at late
    exact absurd late (by decide)

/-- The same rank is read back in the raw mode. -/
theorem idle_rank_read : Agrees false idleRank := by
  refine (client_agrees_iff false idleRank).mpr ⟨by decide, ?_⟩
  intro process held attempt sent
  rw [List.mem_singleton.mp held] at sent
  cases sent

end Idle

end ExaServe.Replay
