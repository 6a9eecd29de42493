import ExaServe.Lib.Dict
import ExaServe.Lib.Json
import Mathlib.Data.Rat.Defs
import Mathlib.Order.Defs.LinearOrder

namespace ExaServe.Replay

open Lib

/-- The float64 operations of the client. -/
class GoFloat (F : Type) extends LinearOrder F, Zero F where
  sub : F → F → F
  add : F → F → F
  /-- `time.Duration(x * float64(time.Second))`. -/
  nanos : F → Int
  /-- `float64(ns) / 1e9`. -/
  seconds : Int → F
  /-- `unixFloatSecondsToTime(x).UnixNano()`. -/
  unixNano : F → Int
  /-- `time.Duration(float64(d) * 1.02)`. -/
  grow : Int → Int
  /-- The rank of a fraction of a count, in hundredths, rounded up. -/
  rank : Nat → Nat → Nat
  /-- `lower + position / count * (upper - lower)`. -/
  interpolate : F → F → Nat → Nat → F
  /-- `%.1f` and `%.0f`. -/
  fixed : Nat → F → String
  ratio : Nat → Nat → F
  one : F
  /-- The number the encoders write. -/
  number : F → Json

/-- What a reader compares of a number that was written. -/
def numberOf {F : Type} [GoFloat F] (value : F) : ℚ := (GoFloat.number value).number?.getD 0

/-- What the proofs use of float64 arithmetic: signs, order and what is written. -/
class LawfulGoFloat (F : Type) [GoFloat F] : Prop where
  sub_nonneg : ∀ left right : F, 0 ≤ GoFloat.sub left right ↔ right ≤ left
  add_nonneg : ∀ left right : F, 0 ≤ left → 0 ≤ right → 0 ≤ GoFloat.add left right
  seconds_nonneg : ∀ ns : Int, 0 ≤ (GoFloat.seconds ns : F) ↔ 0 ≤ ns
  seconds_lt : ∀ short long : Int, 0 ≤ short → short < long → long ≤ 7200 * 10 ^ 9 →
    (GoFloat.seconds short : F) < GoFloat.seconds long
  rank_le : ∀ count hundredths : Nat, hundredths ≤ 100 → GoFloat.rank F count hundredths ≤ count
  interpolate_nonneg : ∀ (lower upper : F) (position count : Nat), 0 ≤ lower → lower ≤ upper →
    0 ≤ GoFloat.interpolate lower upper position count
  number_plain : ∀ value : F, (∃ whole, GoFloat.number value = .int whole) ∨ ∃ text, GoFloat.number value = .float text
  number_lt : ∀ left right : F, numberOf left < numberOf right ↔ left < right
  number_zero : numberOf (0 : F) = 0
  number_mark : numberOf (GoFloat.seconds (-(10 ^ 9)) : F) = -1

/-- A server's count of the tokens of one request, an `int` of the client. -/
abbrev Usage := Option Int

structure ResultRecord (F : Type) where
  reqId : String
  model : String
  latency : F
  success : Bool
  error : String
  errorClass : String
  statusCode : Int
  endTime : F
  inputLen : Int
  outputLen : Int
  actualPromptTokens : Usage
  actualCompletionTokens : Usage
  tensorParallelSize : Int
  scheduledAt : F
  enqueuedAt : F
  dequeuedAt : F
  requestStartAt : F
  headersAt : F
  firstTokenAt : F
  bodyDoneAt : F
  ttft : F
  tbtP50 : F
  tbtP99 : F
  tbtMax : F
  decodeTokens : Int

section

variable {F : Type} [GoFloat F]

/-- A slot of `make([]resultRecord, n)` that no worker has filled. -/
def ResultRecord.empty : ResultRecord F where
  reqId := ""
  model := ""
  latency := 0
  success := false
  error := ""
  errorClass := ""
  statusCode := 0
  endTime := 0
  inputLen := 0
  outputLen := 0
  actualPromptTokens := none
  actualCompletionTokens := none
  tensorParallelSize := 0
  scheduledAt := 0
  enqueuedAt := 0
  dequeuedAt := 0
  requestStartAt := 0
  headersAt := 0
  firstTokenAt := 0
  bodyDoneAt := 0
  ttft := 0
  tbtP50 := 0
  tbtP99 := 0
  tbtMax := 0
  decodeTokens := 0

def recordPopulated (rec : ResultRecord F) : Bool :=
  rec.reqId ≠ "" || rec.success || rec.error ≠ "" || 0 < rec.endTime

@[simp] theorem empty_not_populated : recordPopulated (ResultRecord.empty : ResultRecord F) = false := by
  simp [recordPopulated, ResultRecord.empty]

/-- The records written, scheduler by scheduler. -/
def populated (workerResults : List (List (ResultRecord F))) : List (ResultRecord F) :=
  workerResults.flatMap (·.filter recordPopulated)

/-- The value an `int64` holds after an addition. -/
def wrap64 (value : Int) : Int := (value + 2 ^ 63) % 2 ^ 64 - 2 ^ 63

section Histogram

structure Histogram (F : Type) where
  bounds : List F
  counts : List Nat
  count : Nat
  sumS : F

/-- The bounds from `current` on, up to two hours. -/
def boundsFrom (F : Type) [GoFloat F] (current : Int) : List Int :=
  if current ≤ 7200 * 10 ^ 9 then
    current :: boundsFrom F (if GoFloat.grow F current ≤ current then current + 1 else GoFloat.grow F current)
  else []
termination_by (7200 * 10 ^ 9 + 1 - current).toNat
decreasing_by
  split <;> omega

def logarithmicHistogramBounds (F : Type) [GoFloat F] : List Int :=
  let bounds := boundsFrom F 50000
  if bounds.getLast?.getD 0 < 7200 * 10 ^ 9 then bounds ++ [7200 * 10 ^ 9] else bounds

structure DurationHistogram where
  bounds : List Int
  counts : List Nat
  total : Nat
  sumNs : Int

def newDurationHistogram (bounds : List Int) : DurationHistogram :=
  ⟨bounds, List.replicate (bounds.length + 1) 0, 0, 0⟩

def DurationHistogram.observe (h : DurationHistogram) (duration : Int) : DurationHistogram :=
  let d := max duration 0
  { h with
    counts := h.counts.modify (h.bounds.findIdx (d ≤ ·)) (· + 1)
    total := h.total + 1
    sumNs := wrap64 (h.sumNs + d) }

def DurationHistogram.snapshot (h : DurationHistogram) : Histogram F where
  bounds := h.bounds.map GoFloat.seconds ++ [GoFloat.seconds (-(10 ^ 9))]
  counts := h.counts
  count := h.total
  sumS := GoFloat.seconds h.sumNs

/-- The bucket a cumulative count reaches, with the count before it. -/
def bucketOf (threshold : Nat) : List Nat → Nat → Nat → Option (Nat × Nat × Nat)
  | [], _, _ => none
  | count :: rest, index, before =>
    if threshold ≤ before + count then some (index, before, count) else bucketOf threshold rest (index + 1) (before + count)

def lastFinite (bounds : List F) : F := (bounds.reverse.find? fun bound => decide (0 ≤ bound)).getD 0

/-- `PercentileFromHistogram`, for a fraction in hundredths. -/
def percentileFromHistogram (snap : Histogram F) (hundredths : Nat) : F :=
  if snap.count = 0 then 0
  else
    let threshold := max 1 (GoFloat.rank F snap.count hundredths)
    match bucketOf threshold snap.counts 0 0 with
    | none => lastFinite snap.bounds
    | some (index, before, count) =>
      let upper := snap.bounds[index]?.getD 0
      let lower := if index = 0 then 0 else snap.bounds[index - 1]?.getD 0
      if upper < 0 then lower
      else if count = 0 then upper
      else GoFloat.interpolate lower upper (threshold - before) count

end Histogram

/-- What the summary counts of the records, one after another. -/
structure Aggregate where
  completed : Nat
  errorsCount : Nat
  totalInputTokens : Int
  totalOutputTokens : Int
  errorCounts : List (String × Nat)
  errorSamples : List (String × String)
  latencies : DurationHistogram

def Aggregate.start (F : Type) [GoFloat F] : Aggregate :=
  ⟨0, 0, 0, 0, [], [], newDurationHistogram (logarithmicHistogramBounds F)⟩

def errorClassOf (rec : ResultRecord F) : String := if rec.errorClass = "" then "unknown" else rec.errorClass

/-- `msg[:room]`: the bytes of a cut character are written as replacement characters. -/
def cutText : Nat → List Char → List Char
  | _, [] => []
  | room, c :: rest =>
    if c.utf8Size ≤ room then c :: cutText (room - c.utf8Size) rest else List.replicate room (Char.ofNat 0xFFFD)

def errorSample (message : String) : String := String.ofList (cutText 300 message.toList)

def Aggregate.add (totals : Aggregate) (rec : ResultRecord F) : Aggregate :=
  if rec.success then
    { totals with
      completed := totals.completed + 1
      latencies := totals.latencies.observe (GoFloat.nanos rec.latency)
      totalInputTokens := wrap64 (totals.totalInputTokens + rec.actualPromptTokens.getD rec.inputLen)
      totalOutputTokens := wrap64 (totals.totalOutputTokens + rec.actualCompletionTokens.getD rec.outputLen) }
  else
    let cls := errorClassOf rec
    { totals with
      errorsCount := totals.errorsCount + 1
      errorCounts := putEntry cls ((findEntry cls totals.errorCounts).getD 0 + 1) totals.errorCounts
      errorSamples := if (findEntry cls totals.errorSamples).isSome then totals.errorSamples
        else totals.errorSamples ++ [(cls, errorSample rec.error)] }

/-- What the metrics collector knows of a finished run. -/
structure Collected (F : Type) where
  lag : DurationHistogram
  maxObservedActive : Nat
  newConnections : Nat
  reusedConnections : Nat

structure Summary (F : Type) where
  requestsCompleted : Int
  requestsScheduled : Int
  errors : Int
  p50S : F
  p99S : F
  totalInputTokens : Int
  totalOutputTokens : Int
  lastFireTime : F
  lastRequestStartAt : F
  lastBodyDoneAt : F
  adjustedRunT0 : F
  histogram : Histogram F

/-- The fields of a summary that only describe the client's health. -/
structure Health (F : Type) where
  errorCounts : List (String × Nat)
  errorSamples : List (String × String)
  dispatchHealth : String
  dispatchWarnings : List String
  dispatchLagP99S : F
  maxObservedActive : Nat
  newConnections : Nat
  reusedConnections : Nat

/-- When a process began its run and what it last did, as its result file records it. -/
structure Endpoints (F : Type) where
  lastFireTime : F
  lastRequestStartAt : F
  lastBodyDoneAt : F
  runT0 : F

def aggregate (workerResults : List (List (ResultRecord F))) : Aggregate :=
  (populated workerResults).foldl Aggregate.add (Aggregate.start F)

def summaryOf (totals : Aggregate) (totalResults : Nat) (ends : Endpoints F) : Summary F :=
  let snapshot : Histogram F := totals.latencies.snapshot
  { requestsCompleted := totals.completed + totals.errorsCount
    requestsScheduled := totalResults
    errors := totals.errorsCount
    p50S := percentileFromHistogram snapshot 50
    p99S := percentileFromHistogram snapshot 99
    totalInputTokens := totals.totalInputTokens
    totalOutputTokens := totals.totalOutputTokens
    lastFireTime := ends.lastFireTime
    lastRequestStartAt := ends.lastRequestStartAt
    lastBodyDoneAt := ends.lastBodyDoneAt
    adjustedRunT0 := ends.runT0
    histogram := snapshot }

def healthOf (totals : Aggregate) (collected : Collected F) : Health F :=
  let lagP99 : F := percentileFromHistogram collected.lag.snapshot 99
  let exhausted := findEntry "port_exhaustion" totals.errorCounts
  let connections := collected.newConnections + collected.reusedConnections
  { errorCounts := totals.errorCounts
    errorSamples := totals.errorSamples
    dispatchHealth :=
      if exhausted.isSome then "port_exhaustion" else if GoFloat.one < lagP99 then "degraded" else "healthy"
    dispatchWarnings :=
      (if GoFloat.one < lagP99 then
        ["dispatch_lag_p99=" ++ GoFloat.fixed 1 lagP99 ++
          "s: dispatcher fell behind schedule — server or proxy cannot absorb the target rate"] else []) ++
      (exhausted.toList.map fun count => "port_exhaustion: " ++ toString count ++
        " requests failed — increase headroom or reduce max_active_requests") ++
      (if 0 < connections ∧ connections / 2 < collected.newConnections then
        ["low_connection_reuse: " ++ toString collected.newConnections ++ "/" ++ toString connections ++
          " new connections (" ++ GoFloat.fixed 0 (GoFloat.ratio collected.newConnections connections : F) ++
          "%) — connection pool may be undersized or server is closing connections"] else [])
    dispatchLagP99S := lagP99
    maxObservedActive := collected.maxObservedActive
    newConnections := collected.newConnections
    reusedConnections := collected.reusedConnections }

end

end ExaServe.Replay
