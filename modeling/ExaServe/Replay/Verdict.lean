import ExaServe.Lib.Stride
import ExaServe.Replay.Totals

namespace ExaServe.Replay

open Lib

section Evidence

structure Shard where
  rank : Int
  sizeBytes : Int
  sha256 : String
  transport : String

/-- The transfer evidence of one repeat. -/
structure Gather where
  schemaVersion : Int
  expectedRanks : Int
  collectedRanks : List Int
  missingRanks : List Int
  complete : Bool
  shards : List Shard

def isHexDigest (digest : String) : Bool :=
  digest.toList.length = 64 && digest.toList.all "0123456789abcdef".toList.contains

def shardValid (shard : Shard) : Bool :=
  0 ≤ shard.sizeBytes && isHexDigest shard.sha256 &&
    ["in_memory", "mpi_chunked", "mpi_reduce", "mpi_summary_p2p"].contains shard.transport

/-- `_valid_gather_evidence`. -/
def validGatherEvidence (gather : Gather) (expectedRanks : Nat) : Bool :=
  let expected := (List.range expectedRanks).map Nat.cast
  gather.schemaVersion = 1 && gather.expectedRanks = expectedRanks && gather.collectedRanks = expected &&
    gather.missingRanks = [] && gather.complete && gather.shards.length = expectedRanks &&
    gather.shards.all shardValid && gather.shards.map Shard.rank = expected

end Evidence

section Engine

variable {F : Type} [GoFloat F]

/-- One repeat of an arm: what the processes of every rank were left with, and how it was transferred. -/
structure Repeat (F : Type) where
  ranks : List (List (GoProcess F))
  gather : Gather

structure Arm (F : Type) where
  name : String
  repeats : List (Repeat F)

/-- A replay of a trace, as far as every arm of it came. -/
structure ReplayRun (F : Type) where
  trace : List TraceRequest
  distinct : (trace.map TraceRequest.reqId).Nodup
  numNodes : Nat
  some_node : 0 < numNodes
  numRuns : Nat
  sumOnly : Bool
  targetResponses : Option Nat
  arms : List (Arm F)
  world : ∀ arm ∈ arms, ∀ repeat_ ∈ arm.repeats, repeat_.ranks.length = numNodes

inductive RunResults (F : Type) where
  | summed (totals : Totals)
  | rows (items : List (RawItem F))

def requestMap (requests : List TraceRequest) (reqId : String) : Option TraceRequest :=
  requests.find? fun request => request.reqId = reqId

/-- The raw results of one rank, over its processes. -/
def rankResults (requests : List TraceRequest) (processes : List (GoProcess F)) : Except String (List (RawItem F)) := do
  let items ← processes.mapM fun process => readGoResults (requestMap requests) process.rows
  ensure ((items.flatten.map fun item => item.1.reqId).Nodup) "go dispatch processes returned duplicate request ids"
  return items.flatten

def repeatResults (run : ReplayRun F) (repeat_ : Repeat F) : Except String (RunResults F) :=
  if run.sumOnly then (runSummary repeat_.ranks).map fun reduced => .summed reduced.totals
  else do
    let items ← repeat_.ranks.zipIdx.mapM fun rank => rankResults (stride run.numNodes rank.2 run.trace) rank.1
    return .rows (match run.targetResponses with
      | some target => items.flatten.take target
      | none => items.flatten)

structure PerRun where
  runIndex : Nat
  requestsCompleted : Int
  requestsScheduled : Int
  errors : Int

/-- `_summarize_run_results`. -/
def summarizeRunResults (runIndex totalRequests : Nat) : RunResults F → Except String PerRun
  | .summed totals => do
    ensure (∀ value ∈ totals.all, 0 ≤ value) "Go replay merged summary must be a nonnegative integer"
    ensure (0 ≤ totals.errors ∧ totals.errors ≤ totals.requestsCompleted ∧
      totals.requestsCompleted ≤ totals.requestsScheduled) "merged Go replay summary request counts are inconsistent"
    return ⟨runIndex, totals.requestsCompleted, totals.requestsScheduled, totals.errors⟩
  | .rows items => return ⟨runIndex, items.length, totalRequests, items.length - (items.filter (·.2.success)).length⟩

def overallTotals (totalRequests : Nat) : Option (RunResults F) → Totals
  | some (.summed totals) => totals
  | some (.rows items) => rawTotals totalRequests items
  | none => rawTotals (F := F) totalRequests []

/-- What the validator reads of a result file. -/
structure Payload where
  overall : Totals
  completedRuns : Nat
  gatherByRun : List Gather
  perRun : List PerRun

/-- `_save_results` of the repeats that were made. -/
def saveResults (run : ReplayRun F) (arm : Arm F) : Except String Payload := do
  let results ← arm.repeats.mapM (repeatResults run)
  let perRun ← results.zipIdx.mapM fun result => summarizeRunResults result.2 run.trace.length result.1
  return {
    overall := overallTotals run.trace.length results.getLast?
    completedRuns := results.length
    gatherByRun := arm.repeats.map Repeat.gather
    perRun }

end Engine

section Validation

def reason (fact : Prop) [Decidable fact] (text : String) : List String := if fact then [text] else []

theorem reason_nil {fact : Prop} [Decidable fact] {text : String} : reason fact text = [] ↔ ¬ fact := by
  unfold reason
  split_ifs with holds
  · simp [holds]
  · simp [holds]

/-- `_per_run_incomplete_reason`. -/
def perRunIncompleteReason (summary : PerRun) (runIndex : Nat) : String :=
  if summary.runIndex ≠ runIndex then s!"per_run[{runIndex}] has invalid identity"
  else if summary.requestsCompleted < 0 then s!"per_run[{runIndex}].requests_completed must be a nonnegative integer"
  else if summary.requestsScheduled < 0 then s!"per_run[{runIndex}].requests_scheduled must be a nonnegative integer"
  else if summary.errors < 0 then s!"per_run[{runIndex}].errors must be a nonnegative integer"
  else if summary.errors > summary.requestsCompleted ∨ summary.requestsCompleted > summary.requestsScheduled then
    s!"per_run[{runIndex}] has inconsistent request counts"
  else if summary.errors ≠ 0 ∨ summary.requestsCompleted < summary.requestsScheduled then
    s!"per_run[{runIndex}] is incomplete: scheduled={summary.requestsScheduled}, completed={summary.requestsCompleted}, errors={summary.errors}"
  else ""

/-- The reasons of one arm, from the result file it published. -/
def armReasons (expectedRanks expectedRuns : Nat) (name : String) : Except String Payload → List String
  | .error _ => [s!"replay arm {name}: result file missing"]
  | .ok payload =>
    let completed := max payload.overall.requestsCompleted 0
    let scheduled := max payload.overall.requestsScheduled 0
    let errors := max payload.overall.errors 0
    reason (payload.overall.requestsCompleted < 0) s!"replay arm {name}: requests_completed must be a nonnegative integer" ++
    reason (payload.overall.requestsScheduled < 0) s!"replay arm {name}: requests_scheduled must be a nonnegative integer" ++
    reason (payload.overall.errors < 0) s!"replay arm {name}: errors must be a nonnegative integer" ++
    reason (errors > completed ∨ completed > scheduled)
      s!"replay arm {name}: inconsistent request counts scheduled={scheduled}, completed={completed}, errors={errors}" ++
    reason (completed - errors < 1) s!"replay arm {name}: all requests failed" ++
    reason (errors ≠ 0) s!"replay arm {name}: {errors} request error(s)" ++
    reason (completed < scheduled) s!"replay arm {name}: only {completed}/{scheduled} completed" ++
    reason (payload.gatherByRun.length ≠ expectedRuns ∨
        payload.gatherByRun.any (fun gather => !validGatherEvidence gather expectedRanks) = true)
      s!"replay arm {name}: missing, incomplete, or invalid typed gather evidence for {expectedRuns} run(s) x {expectedRanks} client rank(s)" ++
    reason (payload.completedRuns ≠ expectedRuns)
      s!"replay arm {name}: completed_runs does not equal declared num_runs={expectedRuns}" ++
    (if payload.perRun.length ≠ expectedRuns then
      [s!"replay arm {name}: per_run does not cover declared num_runs={expectedRuns}"]
    else (payload.perRun.zipIdx.map fun summary => perRunIncompleteReason summary.1 summary.2).filterMap fun text =>
      if text = "" then none else some s!"replay arm {name}: {text}")

variable {F : Type} [GoFloat F]

/-- The incomplete reasons of `_validate_replay_results`. -/
def incompleteReasons (run : ReplayRun F) : List String :=
  run.arms.flatMap fun arm => armReasons run.numNodes run.numRuns arm.name (saveResults run arm)

/-- Every arm has made every repeat, and every request of the trace was completed in each without error. -/
def WholeTrace (run : ReplayRun F) : Prop :=
  ∀ arm ∈ run.arms, arm.repeats.length = run.numRuns ∧
    ∀ repeat_ ∈ arm.repeats, (runRows repeat_.ranks).countP (·.success) = run.trace.length

/-- A repeat in whose results nothing is missing. -/
def Complete (totalRequests : Nat) : RunResults F → Prop
  | .summed totals => totals.errors = 0 ∧ totals.requestsCompleted = totals.requestsScheduled
  | .rows items => (∀ item ∈ items, item.2.success = true) ∧ items.length = totalRequests

theorem complete_reason {summary : PerRun} {runIndex : Nat} :
    perRunIncompleteReason summary runIndex = "" ↔ summary.runIndex = runIndex ∧ 0 ≤ summary.requestsCompleted ∧
      summary.errors = 0 ∧ summary.requestsCompleted = summary.requestsScheduled := by
  unfold perRunIncompleteReason
  constructor
  · intro none_given
    split_ifs at none_given
    iterate 6 simp at none_given
    exact ⟨by omega, by omega, by omega, by omega⟩
  · rintro ⟨identity, completed, errors, same⟩
    rw [if_neg (by omega), if_neg (by omega), if_neg (by omega), if_neg (by omega), if_neg (by omega), if_neg (by omega)]

omit [GoFloat F] in
theorem summarize_complete {runIndex totalRequests : Nat} {results : RunResults F} {summary : PerRun}
    (summarized : summarizeRunResults runIndex totalRequests results = .ok summary) :
    perRunIncompleteReason summary runIndex = "" ↔ Complete totalRequests results := by
  rw [complete_reason]
  cases results with
  | summed totals =>
    obtain ⟨⟨⟩, -, summarized⟩ := bind_ok summarized
    obtain ⟨⟨⟩, consistent, summarized⟩ := bind_ok summarized
    cases summarized
    have counts := ensure_holds consistent
    simp only [Complete, true_and]
    constructor
    · rintro ⟨-, errors, same⟩
      exact ⟨errors, same⟩
    · rintro ⟨errors, same⟩
      exact ⟨by omega, errors, same⟩
  | rows items =>
    cases summarized
    have fewer := List.length_filter_le (fun item : RawItem F => item.2.success) items
    simp only [Complete, true_and]
    constructor
    · rintro ⟨-, errors, same⟩
      refine ⟨List.length_filter_eq_length_iff.mp ?_, ?_⟩
      · omega
      · exact_mod_cast same
    · rintro ⟨all, same⟩
      have kept : (items.filter (·.2.success)).length = items.length := List.length_filter_eq_length_iff.mpr all
      rw [kept, same]
      exact ⟨Int.natCast_nonneg _, by omega, rfl⟩

omit [GoFloat F] in
/-- No repeat gives a reason exactly when each is complete. -/
theorem per_run_complete {totalRequests start : Nat} {results : List (RunResults F)} {perRun : List PerRun}
    (summarized : List.Forall₂ (fun result summary => summarizeRunResults result.2 totalRequests result.1 = .ok summary)
      (results.zipIdx start) perRun) :
    (∀ summary ∈ perRun.zipIdx start, perRunIncompleteReason summary.1 summary.2 = "") ↔
      ∀ result ∈ results, Complete totalRequests result := by
  induction results generalizing start perRun with
  | nil =>
    cases summarized
    simp
  | cons result rest ih =>
    rw [List.zipIdx_cons] at summarized
    cases summarized with
    | cons here later =>
      rw [List.zipIdx_cons, List.forall_mem_cons, List.forall_mem_cons, ih later, summarize_complete here]

omit [GoFloat F] in
theorem zipIdx_forall₂_length {results : List (RunResults F)} {totalRequests : Nat} {perRun : List PerRun}
    (summarized : results.zipIdx.mapM (fun result => summarizeRunResults result.2 totalRequests result.1) = .ok perRun) :
    perRun.length = results.length := by
  have length := (forall₂_of_mapM summarized).length_eq
  rw [List.length_zipIdx] at length
  exact length.symm

omit [GoFloat F] in
theorem overall_complete {totalRequests : Nat} {result : RunResults F} (complete : Complete totalRequests result) :
    (overallTotals totalRequests (some result)).errors = 0 ∧
      (overallTotals totalRequests (some result)).requestsCompleted =
        (overallTotals totalRequests (some result)).requestsScheduled := by
  cases result with
  | summed totals => exact complete
  | rows items =>
    obtain ⟨all, same⟩ := complete
    have none_failed : items.countP (!·.2.success) = 0 := List.countP_eq_zero.mpr fun item listed => by simp [all item listed]
    constructor
    · show ((((modelGroups items).map fun group => modelErrors group.2).sum : Nat) : Int) = 0
      rw [raw_errors, none_failed]
      rfl
    · exact congrArg Nat.cast same

omit [GoFloat F] in
/-- What a published arm without a reason has, and conversely. -/
theorem arm_reasons_nil {expectedRanks expectedRuns totalRequests : Nat} {name : String} {results : List (RunResults F)}
    {perRun : List PerRun} {gathers : List Gather}
    (summarized : results.zipIdx.mapM (fun result => summarizeRunResults result.2 totalRequests result.1) = .ok perRun) :
    armReasons expectedRanks expectedRuns name
        (.ok ⟨overallTotals totalRequests results.getLast?, results.length, gathers, perRun⟩) = [] ↔
      (∀ result ∈ results, Complete totalRequests result) ∧ results.length = expectedRuns ∧
        1 ≤ (overallTotals totalRequests results.getLast?).requestsCompleted ∧ gathers.length = expectedRuns ∧
          ∀ gather ∈ gathers, validGatherEvidence gather expectedRanks = true := by
  have length := zipIdx_forall₂_length summarized
  have complete := per_run_complete (forall₂_of_mapM summarized)
  have each : (if perRun.length ≠ expectedRuns then
      [s!"replay arm {name}: per_run does not cover declared num_runs={expectedRuns}"]
    else (perRun.zipIdx.map fun summary => perRunIncompleteReason summary.1 summary.2).filterMap fun text =>
      if text = "" then none else some s!"replay arm {name}: {text}") = [] ↔
      results.length = expectedRuns ∧ ∀ result ∈ results, Complete totalRequests result := by
    rw [length, ← complete]
    split_ifs with other
    · simp [other]
    · simp only [not_not.mp other, List.filterMap_eq_nil_iff, List.forall_mem_map, true_and]
      refine forall₂_congr fun summary _ => ?_
      split_ifs with empty
      · simp [empty]
      · simp [empty]
  have last : (∀ result ∈ results, Complete totalRequests result) →
      1 ≤ (overallTotals totalRequests results.getLast?).requestsCompleted →
      (overallTotals totalRequests results.getLast?).errors = 0 ∧
        (overallTotals totalRequests results.getLast?).requestsCompleted =
          (overallTotals totalRequests results.getLast?).requestsScheduled := by
    intro all some_completed
    cases found : results.getLast? with
    | none =>
      rw [found] at some_completed
      exact absurd some_completed (by simp [overallTotals, rawTotals])
    | some result => exact overall_complete (all result (List.mem_of_getLast? found))
  rw [armReasons]
  simp only [List.append_eq_nil_iff, reason_nil, each]
  constructor
  · rintro ⟨⟨⟨⟨⟨⟨⟨⟨⟨-, -⟩, -⟩, -⟩, enough⟩, -⟩, -⟩, evidence⟩, -⟩, lengths, all⟩
    rw [not_or] at evidence
    refine ⟨all, lengths, by omega, not_not.mp evidence.1, ?_⟩
    intro gather listed
    by_contra invalid
    exact evidence.2 (List.any_eq_true.mpr ⟨gather, listed, by simp [invalid]⟩)
  · rintro ⟨all, lengths, some_completed, count, evidence⟩
    obtain ⟨errors, same⟩ := last all some_completed
    refine ⟨⟨⟨⟨⟨⟨⟨⟨⟨?_, ?_⟩, ?_⟩, ?_⟩, ?_⟩, ?_⟩, ?_⟩, ?_⟩, ?_⟩, lengths, all⟩
    · omega
    · omega
    · omega
    · omega
    · omega
    · omega
    · omega
    · rw [not_or]
      refine ⟨not_not.mpr count, ?_⟩
      intro some_invalid
      obtain ⟨gather, listed, invalid⟩ := List.any_eq_true.mp some_invalid
      simp [evidence gather listed] at invalid
    · exact not_not.mpr lengths

end Validation

section Verdict

variable {F : Type} [GoFloat F]

theorem summed_totals {ranks : List (List (GoProcess F))} {reduced : Reduced F} (summed : runSummary ranks = .ok reduced) :
    reduced.totals.requestsCompleted = (runRows ranks).length ∧
      reduced.totals.requestsScheduled = (runRows ranks).length ∧
        reduced.totals.errors = (runRows ranks).countP (!·.success) := by
  rw [run_totals summed, process_totals]
  exact ⟨rfl, rfl, rfl⟩

theorem processes_rows {requests : List TraceRequest} {processes : List (GoProcess F)} {parts : List (List (RawItem F))}
    (read : List.Forall₂ (fun process items => readGoResults (requestMap requests) process.rows = .ok items) processes parts) :
    parts.flatten.map Prod.snd = processes.flatMap GoProcess.rows ∧ ∀ item ∈ parts.flatten, item.1 ∈ requests := by
  induction read with
  | nil => simp
  | cons here _ ih =>
    obtain ⟨same, known⟩ := read_rows here
    rw [List.flatten_cons, List.map_append, List.flatMap_cons, same, ih.1]
    refine ⟨rfl, fun item listed => ?_⟩
    rcases List.mem_append.mp listed with first | later
    · exact List.mem_of_find?_eq_some (known item first)
    · exact ih.2 item later

/-- The rows of one rank come from requests of its own, each at most once. -/
theorem rank_rows {requests : List TraceRequest} {processes : List (GoProcess F)} {items : List (RawItem F)}
    (read : rankResults requests processes = .ok items) :
    items.map Prod.snd = processes.flatMap GoProcess.rows ∧ items.length ≤ requests.length := by
  obtain ⟨parts, each, read⟩ := bind_ok read
  obtain ⟨⟨⟩, distinct, read⟩ := bind_ok read
  cases read
  have rows := processes_rows (forall₂_of_mapM each)
  refine ⟨rows.1, ?_⟩
  have distinct_items : (parts.flatten.map Prod.fst).Nodup := by
    refine List.Nodup.of_map TraceRequest.reqId ?_
    rw [List.map_map]
    exact ensure_holds distinct
  have inside : parts.flatten.map Prod.fst ⊆ requests := by
    intro request listed
    obtain ⟨item, held, rfl⟩ := List.mem_map.mp listed
    exact rows.2 item held
  have fewer := (distinct_items.subperm inside).length_le
  rwa [List.length_map] at fewer

theorem ranks_rows {size start : Nat} {trace : List TraceRequest} {ranks : List (List (GoProcess F))}
    {items : List (List (RawItem F))}
    (read : List.Forall₂ (fun rank items => rankResults (stride size rank.2 trace) rank.1 = .ok items)
      (ranks.zipIdx start) items) :
    items.flatten.map Prod.snd = runRows ranks ∧
      items.flatten.length ≤ ((List.range' start ranks.length).flatMap fun turn => stride size turn trace).length := by
  induction ranks generalizing start items with
  | nil =>
    cases read
    simp [runRows]
  | cons rank rest ih =>
    rw [List.zipIdx_cons] at read
    cases read with
    | cons here later =>
      obtain ⟨same, fewer⟩ := rank_rows here
      obtain ⟨others, few⟩ := ih later
      dsimp only at same fewer
      simp only [List.flatten_cons, List.map_append, List.length_append, List.length_cons, List.range'_succ,
        List.flatMap_cons, same, others]
      refine ⟨?_, by omega⟩
      simp [runRows]

/-- A run has at most a row for each request of the trace. -/
theorem raw_rows {run : ReplayRun F} {ranks : List (List (GoProcess F))} (world : ranks.length = run.numNodes)
    {items : List (List (RawItem F))}
    (read : ranks.zipIdx.mapM (fun rank => rankResults (stride run.numNodes rank.2 run.trace) rank.1) = .ok items) :
    items.flatten.map Prod.snd = runRows ranks ∧ items.flatten.length ≤ run.trace.length := by
  obtain ⟨same, fewer⟩ := ranks_rows (forall₂_of_mapM read)
  refine ⟨same, le_trans fewer (le_of_eq ?_)⟩
  rw [world, ← List.range_eq_range']
  exact (strides_perm run.some_node 0 run.trace).length_eq

/-- A complete repeat of raw results has a row without error for each request of the trace. -/
theorem raw_complete {run : ReplayRun F} (raw : run.sumOnly = false) {repeat_ : Repeat F}
    (world : repeat_.ranks.length = run.numNodes) {result : RunResults F} (read : repeatResults run repeat_ = .ok result)
    (complete : Complete run.trace.length result) : (runRows repeat_.ranks).countP (·.success) = run.trace.length := by
  unfold repeatResults at read
  rw [if_neg (by simp [raw])] at read
  obtain ⟨items, each, read⟩ := bind_ok read
  cases read
  obtain ⟨same, fewer⟩ := raw_rows world each
  have whole : (match run.targetResponses with
      | some target => items.flatten.take target
      | none => items.flatten) = items.flatten := by
    have length := complete.2
    cases target : run.targetResponses with
    | none => rfl
    | some limit =>
      rw [target] at length
      simp only [List.length_take] at length
      exact List.take_of_length_le (by omega)
  obtain ⟨all, length⟩ := complete
  rw [whole] at all length
  rw [← same, List.countP_map, ← length]
  exact List.countP_eq_length.mpr all

/-- A complete repeat of summed results has no row with an error. -/
theorem sum_complete_iff {run : ReplayRun F} (sum : run.sumOnly = true) {repeat_ : Repeat F} {result : RunResults F}
    (read : repeatResults run repeat_ = .ok result) :
    Complete run.trace.length result ↔ ∀ row ∈ runRows repeat_.ranks, row.success = true := by
  unfold repeatResults at read
  rw [if_pos sum] at read
  cases summed : runSummary repeat_.ranks with
  | error failure =>
    rw [summed] at read
    cases read
  | ok reduced =>
    rw [summed] at read
    cases read
    obtain ⟨completed, scheduled, errors⟩ := summed_totals summed
    rw [Complete, completed, scheduled, errors]
    constructor
    · rintro ⟨none_failed, -⟩ row listed
      have free := List.countP_eq_zero.mp (Int.ofNat_eq_zero.mp none_failed) row listed
      simpa using free
    · intro all
      refine ⟨Int.ofNat_eq_zero.mpr (List.countP_eq_zero.mpr fun row listed => ?_), rfl⟩
      simp [all row listed]

omit [GoFloat F] in
theorem forall₂_all_iff {α β : Type} {related : α → β → Prop} {left : List α} {right : List β} {p : α → Prop} {q : β → Prop}
    (each : List.Forall₂ related left right) (same : ∀ one ∈ left, ∀ other, related one other → (q other ↔ p one)) :
    (∀ other ∈ right, q other) ↔ ∀ one ∈ left, p one := by
  induction each with
  | nil => simp
  | cons here _ ih =>
    rw [List.forall_mem_cons, List.forall_mem_cons, same _ List.mem_cons_self _ here,
      ih fun one listed => same one (List.mem_cons_of_mem _ listed)]

omit [GoFloat F] in
theorem forall₂_getLast {α β : Type} {related : α → β → Prop} {left : List α} {right : List β}
    (each : List.Forall₂ related left right) :
    (left.getLast? = none ∧ right.getLast? = none) ∨
      ∃ one other, left.getLast? = some one ∧ right.getLast? = some other ∧ related one other := by
  have reversed : List.Forall₂ related left.reverse right.reverse := List.rel_reverse each
  rw [← List.head?_reverse, ← List.head?_reverse]
  generalize left.reverse = backwards at reversed ⊢
  generalize right.reverse = others at reversed ⊢
  cases reversed with
  | nil => exact .inl ⟨rfl, rfl⟩
  | cons here _ => exact .inr ⟨_, _, rfl, rfl, here⟩

/-- An arm against which the validator has nothing to say, of a summed replay. -/
structure ArmClean (run : ReplayRun F) (arm : Arm F) : Prop where
  published : ∃ payload, saveResults run arm = .ok payload
  made : arm.repeats.length = run.numRuns
  evidence : ∀ repeat_ ∈ arm.repeats, validGatherEvidence repeat_.gather run.numNodes = true
  no_error : ∀ repeat_ ∈ arm.repeats, ∀ row ∈ runRows repeat_.ranks, row.success = true
  some_row : ∃ last, arm.repeats.getLast? = some last ∧ runRows last.ranks ≠ []

theorem sum_last_iff {run : ReplayRun F} (sum : run.sumOnly = true) {repeats : List (Repeat F)}
    {results : List (RunResults F)} (read : List.Forall₂ (fun one result => repeatResults run one = .ok result) repeats results) :
    1 ≤ (overallTotals run.trace.length results.getLast?).requestsCompleted ↔
      ∃ last, repeats.getLast? = some last ∧ runRows last.ranks ≠ [] := by
  rcases forall₂_getLast read with ⟨no_repeat, no_result⟩ | ⟨last, result, found, final, here⟩
  · rw [no_repeat, no_result]
    simp [overallTotals, rawTotals]
  · rw [found, final]
    unfold repeatResults at here
    rw [if_pos sum] at here
    cases summed : runSummary last.ranks with
    | error failure =>
      rw [summed] at here
      cases here
    | ok reduced =>
      rw [summed] at here
      cases here
      show 1 ≤ reduced.totals.requestsCompleted ↔ _
      rw [(summed_totals summed).1]
      have counted : (1 : Int) ≤ (runRows last.ranks).length ↔ runRows last.ranks ≠ [] := by
        rw [← List.length_pos_iff]
        omega
      simp [counted]

theorem sum_reasons_iff {run : ReplayRun F} (sum : run.sumOnly = true) (arm : Arm F) :
    armReasons run.numNodes run.numRuns arm.name (saveResults run arm) = [] ↔ ArmClean run arm := by
  cases saved : saveResults run arm with
  | error failure =>
    constructor
    · intro none_given
      cases none_given
    · rintro ⟨⟨payload, other⟩, -, -, -, -⟩
      rw [saved] at other
      cases other
  | ok payload =>
    obtain ⟨results, read, done⟩ := bind_ok saved
    obtain ⟨perRun, summarized, done⟩ := bind_ok done
    cases done
    have each := forall₂_of_mapM read
    have made := each.length_eq
    have complete := forall₂_all_iff each fun one _ result read => sum_complete_iff sum read
    rw [arm_reasons_nil summarized, complete, sum_last_iff sum each, List.length_map, List.forall_mem_map, ← made]
    constructor
    · rintro ⟨all, lengths, last, -, evidence⟩
      exact ⟨⟨_, saved⟩, lengths, evidence, all, last⟩
    · intro clean
      exact ⟨clean.no_error, clean.made, clean.some_row, clean.made, clean.evidence⟩

theorem raw_reasons {run : ReplayRun F} (raw : run.sumOnly = false) {arm : Arm F} (listed : arm ∈ run.arms)
    (none_given : armReasons run.numNodes run.numRuns arm.name (saveResults run arm) = []) :
    arm.repeats.length = run.numRuns ∧
      ∀ repeat_ ∈ arm.repeats, (runRows repeat_.ranks).countP (·.success) = run.trace.length := by
  cases saved : saveResults run arm with
  | error failure =>
    rw [saved] at none_given
    cases none_given
  | ok payload =>
    rw [saved] at none_given
    obtain ⟨results, read, done⟩ := bind_ok saved
    obtain ⟨perRun, summarized, done⟩ := bind_ok done
    cases done
    have each := forall₂_of_mapM read
    obtain ⟨complete, lengths, -⟩ := (arm_reasons_nil summarized).mp none_given
    refine ⟨each.length_eq.trans lengths, ?_⟩
    have counted : ∀ {repeats : List (Repeat F)} {results : List (RunResults F)},
        List.Forall₂ (fun one result => repeatResults run one = .ok result) repeats results →
        (∀ one ∈ repeats, one.ranks.length = run.numNodes) → (∀ result ∈ results, Complete run.trace.length result) →
        ∀ one ∈ repeats, (runRows one.ranks).countP (·.success) = run.trace.length := by
      intro repeats results each
      induction each with
      | nil => simp
      | cons here _ ih =>
        intro worlds completes
        obtain ⟨world, worlds⟩ := List.forall_mem_cons.mp worlds
        obtain ⟨complete, completes⟩ := List.forall_mem_cons.mp completes
        exact List.forall_mem_cons.mpr ⟨raw_complete raw world here complete, ih worlds completes⟩
    exact counted each (run.world arm listed) complete

/-- Every repeat of every arm has a row for each request of the trace. -/
def Covered (run : ReplayRun F) : Prop :=
  ∀ arm ∈ run.arms, ∀ repeat_ ∈ arm.repeats, (runRows repeat_.ranks).length = run.trace.length

/-- A verdict without reasons means the whole trace, exactly when the replay is raw or a summed replay that is
    otherwise clean has a row for every request. -/
theorem whole_trace_iff (run : ReplayRun F) :
    (incompleteReasons run = [] → WholeTrace run) ↔
      (run.sumOnly = true → (∀ arm ∈ run.arms, ArmClean run arm) → Covered run) := by
  have reasons : incompleteReasons run = [] ↔
      ∀ arm ∈ run.arms, armReasons run.numNodes run.numRuns arm.name (saveResults run arm) = [] := List.flatMap_eq_nil_iff
  rw [reasons]
  constructor
  · intro whole sum clean arm held repeat_ listed
    have all := whole (fun other here => (sum_reasons_iff sum other).mpr (clean other here)) arm held
    rw [← all.2 repeat_ listed]
    exact (List.countP_eq_length.mpr ((clean arm held).no_error repeat_ listed)).symm
  · intro covered none_given arm held
    cases mode : run.sumOnly with
    | false => exact raw_reasons mode held (none_given arm held)
    | true =>
      have clean : ∀ other ∈ run.arms, ArmClean run other := fun other here =>
        (sum_reasons_iff mode other).mp (none_given other here)
      refine ⟨(clean arm held).made, fun repeat_ listed => ?_⟩
      rw [← covered mode clean arm held repeat_ listed]
      exact List.countP_eq_length.mpr ((clean arm held).no_error repeat_ listed)

end Verdict

section Undispatched

def answeredRow : ResultRecord Nanoseconds :=
  { ResultRecord.empty with
    reqId := "a"
    model := "m"
    success := true
    inputLen := 5
    outputLen := 3
    tensorParallelSize := 1 }

/-- A process interrupted after the first of its two requests. -/
def interruptedProcess : GoProcess Nanoseconds := ⟨[[answeredRow, ResultRecord.empty]], ⟨0, 0, 0, 0⟩⟩

def wholeGather : Gather where
  schemaVersion := 1
  expectedRanks := 1
  collectedRanks := [0]
  missingRanks := []
  complete := true
  shards := [⟨0, 1, "e3b0c44298fc1c149afbf4c8996fb92427ae41e4649b934ca495991b7852b855", "in_memory"⟩]

def interruptedRun : ReplayRun Nanoseconds where
  trace := [⟨zeroTimestamp, "m", "", 5, 3, 1, "a", "chat"⟩, ⟨zeroTimestamp, "m", "", 5, 3, 1, "b", "chat"⟩]
  distinct := by decide
  numNodes := 1
  some_node := Nat.zero_lt_one
  numRuns := 1
  sumOnly := true
  targetResponses := none
  arms := [⟨"default", [⟨[[interruptedProcess]], wholeGather⟩]⟩]
  world := by
    intro arm held repeat_ listed
    rw [List.mem_singleton.mp held] at listed
    rw [List.mem_singleton.mp listed]
    rfl

/-- A summed replay that never sent its second request is reported complete. -/
theorem undispatched_request_unseen : incompleteReasons interruptedRun = [] ∧ ¬ WholeTrace interruptedRun := by
  have range : ∀ process ∈ [interruptedProcess], ProcessInRange process := by
    intro process listed
    rw [List.mem_singleton.mp listed]
    exact ⟨by decide, by decide, by decide, by decide, by decide, by decide, by decide⟩
  obtain ⟨merged, done, -⟩ := merge_ok range (fun process listed => by cases listed)
  have totals : merged.totals = ⟨1, 1, 0, 5, 3⟩ := by
    rw [merge_totals done, process_totals]
    decide
  have read : repeatResults interruptedRun ⟨[[interruptedProcess]], wholeGather⟩ = .ok (.summed ⟨1, 1, 0, 5, 3⟩) := by
    have sum : interruptedRun.sumOnly = true := rfl
    have published := single_rank_run done
    rw [totals] at published
    unfold repeatResults
    rw [if_pos sum, published]
    rfl
  have clean : ArmClean interruptedRun ⟨"default", [⟨[[interruptedProcess]], wholeGather⟩]⟩ := {
    published := by
      unfold saveResults
      rw [List.mapM_cons, List.mapM_nil, read]
      exact ⟨_, rfl⟩
    made := rfl
    evidence := by
      intro repeat_ listed
      rw [List.mem_singleton.mp listed]
      decide
    no_error := by
      intro repeat_ listed row
      rw [List.mem_singleton.mp listed]
      revert row
      decide
    some_row := ⟨_, rfl, by decide⟩ }
  constructor
  · refine List.flatMap_eq_nil_iff.mpr fun arm held => ?_
    rw [List.mem_singleton.mp held]
    exact (sum_reasons_iff rfl _).mpr clean
  · intro whole
    exact absurd ((whole _ List.mem_cons_self).2 _ List.mem_cons_self) (by decide)

end Undispatched

end ExaServe.Replay
