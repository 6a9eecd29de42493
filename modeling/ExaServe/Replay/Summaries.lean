import ExaServe.Lib.Except
import ExaServe.Replay.GoRecords

namespace ExaServe.Replay

open Lib

variable {F : Type} [GoFloat F]

def requireOrdered : List F → Bool
  | [] => true
  | [_] => true
  | lower :: upper :: rest => lower < upper && requireOrdered (upper :: rest)

/-- The bounds of a histogram: finite ones in order, then the mark of the overflow bucket. -/
def boundsValid (bounds : List F) : Bool :=
  2 ≤ bounds.length && bounds.getLast? = some (GoFloat.seconds (-(10 ^ 9))) &&
    bounds.dropLast.all (fun bound => decide (0 ≤ bound)) && requireOrdered bounds.dropLast

/-- The value checks of `validate_go_summary`. -/
def validateGoSummary (summary : Summary F) : Except String (Summary F) := do
  ensure (0 ≤ summary.requestsCompleted) "Go replay summary.requests_completed must be a nonnegative integer"
  ensure (0 ≤ summary.requestsScheduled) "Go replay summary.requests_scheduled must be a nonnegative integer"
  ensure (0 ≤ summary.errors) "Go replay summary.errors must be a nonnegative integer"
  ensure (0 ≤ summary.totalInputTokens) "Go replay summary.total_input_tokens must be a nonnegative integer"
  ensure (0 ≤ summary.totalOutputTokens) "Go replay summary.total_output_tokens must be a nonnegative integer"
  ensure (summary.errors ≤ summary.requestsCompleted ∧ summary.requestsCompleted ≤ summary.requestsScheduled)
    "Go replay summary request counts are inconsistent"
  ensure (0 ≤ summary.p50S) "Go replay summary.p50_s must be a finite nonnegative number"
  ensure (0 ≤ summary.p99S) "Go replay summary.p99_s must be a finite nonnegative number"
  ensure (0 ≤ summary.lastFireTime) "Go replay summary.last_fire_time must be a finite nonnegative number"
  ensure (0 ≤ summary.lastRequestStartAt)
    "Go replay summary.last_request_start_at must be a finite nonnegative number"
  ensure (0 ≤ summary.lastBodyDoneAt) "Go replay summary.last_body_done_at must be a finite nonnegative number"
  ensure (0 ≤ summary.adjustedRunT0) "Go replay summary.adjusted_run_t0 must be a finite nonnegative number"
  ensure (summary.histogram.bounds.length = summary.histogram.counts.length ∧ boundsValid summary.histogram.bounds = true ∧
    summary.histogram.counts.sum = summary.histogram.count) "Go replay summary.latency_histogram values are invalid"
  ensure (0 ≤ summary.histogram.sumS) "Go replay summary.latency_histogram.sum_s must be a finite nonnegative number"
  return summary

def addCounts : List Nat → List Nat → List Nat := List.zipWith (· + ·)

/-- `_merge_latency_histograms`. -/
def mergeLatencyHistograms : List (Histogram F) → Except String (Histogram F)
  | [] => .error "latency histogram merge requires at least one rank"
  | first :: rest => do
    ensure (∀ histogram ∈ rest, histogram.bounds = first.bounds ∧ histogram.counts.length = first.bounds.length)
      "latency histogram values are invalid"
    return {
      bounds := first.bounds
      counts := (first :: rest).foldl (fun counts histogram => addCounts counts histogram.counts)
        (List.replicate first.bounds.length 0)
      count := ((first :: rest).map Histogram.count).sum
      sumS := (first :: rest).foldl (fun sum histogram => GoFloat.add sum histogram.sumS) 0 }

/-- `_histogram_percentile`, for a fraction in hundredths. -/
def histogramPercentile (histogram : Histogram F) (hundredths : Nat) : Except String F :=
  if histogram.count = 0 then .ok 0
  else
    let threshold := max 1 (GoFloat.rank F histogram.count hundredths)
    match bucketOf threshold histogram.counts 0 0 with
    | none => .error "latency histogram count exceeds bucket coverage"
    | some (index, before, count) =>
      let upper := histogram.bounds[index]?.getD 0
      let lower := if index = 0 then 0 else histogram.bounds[index - 1]?.getD 0
      if upper < 0 then
        if index = 0 then .error "latency histogram overflow has no finite lower bound" else .ok lower
      else if count = 0 then .ok upper
      else .ok (GoFloat.interpolate lower upper (threshold - before) count)

def maximum (first : F) (rest : List F) : F := rest.foldl max first

/-- `_merge_go_process_summaries`. -/
def mergeGoProcessSummaries (summaries : List (Summary F)) : Except String (Summary F) := do
  let validated ← summaries.mapM validateGoSummary
  match validated with
  | [] => .error "Go process summary merge requires at least one summary"
  | first :: rest =>
    ensure (∀ summary ∈ rest, summary.adjustedRunT0 = first.adjustedRunT0)
      "Go process summaries disagree on adjusted_run_t0"
    let histogram ← mergeLatencyHistograms (validated.map Summary.histogram)
    let p50S ← histogramPercentile histogram 50
    let p99S ← histogramPercentile histogram 99
    let completed := (validated.map Summary.requestsCompleted).sum
    let errors := (validated.map Summary.errors).sum
    ensure ((histogram.count : Int) = completed - errors)
      "Go process summary histogram count disagrees with successful requests"
    validateGoSummary {
      requestsCompleted := completed
      requestsScheduled := (validated.map Summary.requestsScheduled).sum
      errors
      p50S
      p99S
      totalInputTokens := (validated.map Summary.totalInputTokens).sum
      totalOutputTokens := (validated.map Summary.totalOutputTokens).sum
      lastFireTime := maximum first.lastFireTime (rest.map Summary.lastFireTime)
      lastRequestStartAt := maximum first.lastRequestStartAt (rest.map Summary.lastRequestStartAt)
      lastBodyDoneAt := maximum first.lastBodyDoneAt (rest.map Summary.lastBodyDoneAt)
      adjustedRunT0 := first.adjustedRunT0
      histogram }

/-- The figures that a run publishes. -/
structure Totals where
  requestsCompleted : Int
  requestsScheduled : Int
  errors : Int
  totalInputTokens : Int
  totalOutputTokens : Int
  deriving DecidableEq

def Summary.totals (summary : Summary F) : Totals :=
  ⟨summary.requestsCompleted, summary.requestsScheduled, summary.errors, summary.totalInputTokens,
    summary.totalOutputTokens⟩

def Totals.all (totals : Totals) : List Int :=
  [totals.requestsCompleted, totals.requestsScheduled, totals.errors, totals.totalInputTokens,
    totals.totalOutputTokens]

/-- What the root publishes of a summed run. -/
structure Reduced (F : Type) where
  totals : Totals
  p50S : F
  p99S : F

@[irreducible] def uint64Max : Int := 2 ^ 64 - 1

def sumTotals (summaries : List (Summary F)) : Totals :=
  ⟨(summaries.map Summary.requestsCompleted).sum, (summaries.map Summary.requestsScheduled).sum,
    (summaries.map Summary.errors).sum, (summaries.map Summary.totalInputTokens).sum,
    (summaries.map Summary.totalOutputTokens).sum⟩

/-- `_reduce_summary_via_mpi` at the root, with the summaries of all ranks. The typed reduction is the sum
    modulo 2^64. -/
def reduceSummary (summaries : List (Summary F)) : Except String (Reduced F) := do
  let validated ← summaries.mapM validateGoSummary
  match validated with
  | [] => .error "MPI summary rank/run identity is invalid"
  | [only] => return ⟨only.totals, only.p50S, only.p99S⟩
  | _ =>
    ensure (∀ summary ∈ validated, ∀ value ∈ summary.totals.all, value ≤ uint64Max)
      "MPI summary counter exceeds UINT64_MAX"
    let totals := sumTotals validated
    ensure (∀ value ∈ totals.all, value ≤ uint64Max) "MPI summary aggregate exceeds UINT64_MAX"
    let reduced := totals.all.map (· % 2 ^ 64)
    ensure (reduced = totals.all) "typed MPI summary reduction disagrees with exact rank evidence"
    let histogram ← mergeLatencyHistograms (validated.map Summary.histogram)
    ensure ((histogram.count : Int) = totals.requestsCompleted - totals.errors)
      "MPI summary latency histogram count disagrees with successful requests"
    let p50S ← histogramPercentile histogram 50
    let p99S ← histogramPercentile histogram 99
    return ⟨totals, p50S, p99S⟩

/-- One process of a rank: its records by scheduler and slot, and its endpoints. -/
structure GoProcess (F : Type) where
  workerResults : List (List (ResultRecord F))
  ends : Endpoints F

def GoProcess.rows (process : GoProcess F) : List (ResultRecord F) := populated process.workerResults

def GoProcess.summary (process : GoProcess F) : Summary F :=
  summaryOf (aggregate process.workerResults) process.rows.length process.ends

/-- The summed results of a run, from the processes of each rank. -/
def runSummary (ranks : List (List (GoProcess F))) : Except String (Reduced F) := do
  let summaries ← ranks.mapM fun processes => mergeGoProcessSummaries (processes.map GoProcess.summary)
  reduceSummary summaries

section Aggregation

theorem wrap64_add (left right : Int) : wrap64 (wrap64 left + right) = wrap64 (left + right) := by
  unfold wrap64
  omega

theorem wrap64_zero : wrap64 0 = 0 := by
  decide

/-- How often a counter has passed its range. -/
def wraps (value : Int) : Int := (value + 2 ^ 63) / 2 ^ 64

theorem wrap64_eq (value : Int) : wrap64 value = value - 2 ^ 64 * wraps value := by
  unfold wrap64 wraps
  omega

/-- What the summary adds for a record to the input tokens. -/
def inputTokens (rec : ResultRecord F) : Int := if rec.success then rec.actualPromptTokens.getD rec.inputLen else 0

def outputTokens (rec : ResultRecord F) : Int := if rec.success then rec.actualCompletionTokens.getD rec.outputLen else 0

def latencyNs (rec : ResultRecord F) : Int := if rec.success then max (GoFloat.nanos rec.latency) 0 else 0

theorem sum_modify (counts : List Nat) {index : Nat} (below : index < counts.length) :
    (counts.modify index (· + 1)).sum = counts.sum + 1 := by
  induction counts generalizing index with
  | nil => cases below
  | cons count rest ih =>
    cases index with
    | zero =>
      rw [List.modify_zero_cons, List.sum_cons, List.sum_cons]
      omega
    | succ index =>
      rw [List.modify_succ_cons, List.sum_cons, List.sum_cons, ih (Nat.lt_of_succ_lt_succ below)]
      omega

/-- The buckets of a histogram account for all it has observed. -/
structure DurationHistogram.Sound (bounds : List Int) (h : DurationHistogram) : Prop where
  same : h.bounds = bounds
  width : h.counts.length = bounds.length + 1
  counted : h.counts.sum = h.total

theorem newDurationHistogram_sound (bounds : List Int) : (newDurationHistogram bounds).Sound bounds where
  same := rfl
  width := List.length_replicate
  counted := by simp [newDurationHistogram]

theorem DurationHistogram.Sound.observe {bounds : List Int} {h : DurationHistogram} (sound : h.Sound bounds) (duration : Int) :
    (h.observe duration).Sound bounds where
  same := sound.same
  width := by
    rw [← sound.width]
    simp [DurationHistogram.observe]
  counted := by
    have below : h.bounds.findIdx (max duration 0 ≤ ·) < h.counts.length := by
      rw [sound.width, ← sound.same]
      exact Nat.lt_succ_of_le List.findIdx_le_length
    exact (sum_modify h.counts below).trans (congrArg (· + 1) sound.counted)

/-- What the aggregation has counted of the records it has seen. -/
structure Counted (totals : Aggregate) (rows : List (ResultRecord F)) : Prop where
  completed : totals.completed = rows.countP (·.success)
  errors : totals.errorsCount = rows.countP (!·.success)
  input : totals.totalInputTokens = wrap64 (rows.map inputTokens).sum
  output : totals.totalOutputTokens = wrap64 (rows.map outputTokens).sum
  latencies : totals.latencies.Sound (logarithmicHistogramBounds F)
  observed : totals.latencies.total = rows.countP (·.success)
  sumNs : totals.latencies.sumNs = wrap64 (rows.map latencyNs).sum

theorem counted_start : Counted (Aggregate.start F) ([] : List (ResultRecord F)) where
  completed := rfl
  errors := rfl
  input := wrap64_zero.symm
  output := wrap64_zero.symm
  latencies := newDurationHistogram_sound _
  observed := rfl
  sumNs := wrap64_zero.symm

theorem Counted.add {totals : Aggregate} {rows : List (ResultRecord F)} (counted : Counted totals rows)
    (rec : ResultRecord F) : Counted (totals.add rec) (rows ++ [rec]) := by
  unfold Aggregate.add
  cases success : rec.success with
  | true =>
    refine ⟨?_, ?_, ?_, ?_, counted.latencies.observe _, ?_, ?_⟩
    · simp [List.countP_append, success, counted.completed]
    · simp [List.countP_append, success, counted.errors]
    · simp [inputTokens, success, counted.input, wrap64_add]
    · simp [outputTokens, success, counted.output, wrap64_add]
    · simp [DurationHistogram.observe, List.countP_append, success, counted.observed]
    · simp [DurationHistogram.observe, latencyNs, success, counted.sumNs, wrap64_add]
  | false =>
    refine ⟨?_, ?_, ?_, ?_, counted.latencies, ?_, ?_⟩
    · simp [List.countP_append, success, counted.completed]
    · simp [List.countP_append, success, counted.errors]
    · simp [inputTokens, success, counted.input]
    · simp [outputTokens, success, counted.output]
    · simp [List.countP_append, success, counted.observed]
    · simp [latencyNs, success, counted.sumNs]

theorem Counted.foldl {totals : Aggregate} {rows : List (ResultRecord F)} (counted : Counted totals rows)
    (more : List (ResultRecord F)) : Counted (more.foldl Aggregate.add totals) (rows ++ more) := by
  induction more generalizing totals rows with
  | nil => simpa using counted
  | cons rec rest ih =>
    have next := ih (counted.add rec)
    rwa [List.append_assoc, List.singleton_append] at next

theorem aggregate_counted (workerResults : List (List (ResultRecord F))) :
    Counted (aggregate workerResults) (populated workerResults) := counted_start.foldl _

end Aggregation

section Merging

theorem validate_same {summary validated : Summary F} (done : validateGoSummary summary = .ok validated) :
    validated = summary := by
  unfold validateGoSummary at done
  repeat
    obtain ⟨⟨⟩, -, done⟩ := bind_ok done
  cases done
  rfl

theorem validated_same {summaries validated : List (Summary F)} (done : summaries.mapM validateGoSummary = .ok validated) :
    validated = summaries := by
  have each := forall₂_of_mapM done
  induction each with
  | nil => rfl
  | cons one _ ih =>
    rw [List.mapM_cons] at done
    obtain ⟨_, found, done⟩ := bind_ok done
    obtain ⟨others, mapped, done⟩ := bind_ok done
    cases done
    rw [validate_same one, ih mapped]

theorem merge_totals {summaries : List (Summary F)} {merged : Summary F}
    (done : mergeGoProcessSummaries summaries = .ok merged) : merged.totals = sumTotals summaries := by
  obtain ⟨validated, checked, done⟩ := bind_ok done
  cases validated_same checked
  cases summaries with
  | nil => cases done
  | cons first rest =>
    obtain ⟨⟨⟩, -, done⟩ := bind_ok done
    obtain ⟨histogram, -, done⟩ := bind_ok done
    obtain ⟨p50S, -, done⟩ := bind_ok done
    obtain ⟨p99S, -, done⟩ := bind_ok done
    obtain ⟨⟨⟩, -, done⟩ := bind_ok done
    rw [validate_same done]
    rfl

theorem merged_validates {summaries : List (Summary F)} {merged : Summary F}
    (done : mergeGoProcessSummaries summaries = .ok merged) : validateGoSummary merged = .ok merged := by
  obtain ⟨validated, -, done⟩ := bind_ok done
  cases validated with
  | nil => cases done
  | cons first rest =>
    obtain ⟨⟨⟩, -, done⟩ := bind_ok done
    obtain ⟨histogram, -, done⟩ := bind_ok done
    obtain ⟨p50S, -, done⟩ := bind_ok done
    obtain ⟨p99S, -, done⟩ := bind_ok done
    obtain ⟨⟨⟩, -, done⟩ := bind_ok done
    rwa [← validate_same done] at done

/-- The run of a single rank is what its processes merge to. -/
theorem single_rank_run {processes : List (GoProcess F)} {merged : Summary F}
    (done : mergeGoProcessSummaries (processes.map GoProcess.summary) = .ok merged) :
    runSummary [processes] = .ok ⟨merged.totals, merged.p50S, merged.p99S⟩ := by
  unfold runSummary
  rw [List.mapM_cons, List.mapM_nil, ok_bind done]
  show reduceSummary [merged] = _
  unfold reduceSummary
  rw [List.mapM_cons, List.mapM_nil, ok_bind (merged_validates done)]
  rfl

theorem reduce_totals {summaries : List (Summary F)} {reduced : Reduced F} (done : reduceSummary summaries = .ok reduced) :
    reduced.totals = sumTotals summaries := by
  obtain ⟨validated, checked, done⟩ := bind_ok done
  cases validated_same checked
  match summaries, done with
  | [only], done =>
    cases done
    simp [sumTotals, Summary.totals]
  | first :: second :: rest, done =>
    obtain ⟨⟨⟩, -, done⟩ := bind_ok done
    obtain ⟨⟨⟩, -, done⟩ := bind_ok done
    obtain ⟨⟨⟩, -, done⟩ := bind_ok done
    obtain ⟨histogram, -, done⟩ := bind_ok done
    obtain ⟨⟨⟩, -, done⟩ := bind_ok done
    obtain ⟨p50S, -, done⟩ := bind_ok done
    obtain ⟨p99S, -, done⟩ := bind_ok done
    cases done
    rfl

/-- With more than one rank, every total that is published has been checked against its type. -/
theorem reduce_bounded {first second : Summary F} {rest : List (Summary F)} {reduced : Reduced F}
    (done : reduceSummary (first :: second :: rest) = .ok reduced) : ∀ value ∈ reduced.totals.all, value ≤ uint64Max := by
  obtain ⟨validated, checked, done⟩ := bind_ok done
  cases validated_same checked
  obtain ⟨⟨⟩, -, done⟩ := bind_ok done
  obtain ⟨⟨⟩, within, done⟩ := bind_ok done
  obtain ⟨⟨⟩, -, done⟩ := bind_ok done
  obtain ⟨histogram, -, done⟩ := bind_ok done
  obtain ⟨⟨⟩, -, done⟩ := bind_ok done
  obtain ⟨p50S, -, done⟩ := bind_ok done
  obtain ⟨p99S, -, done⟩ := bind_ok done
  cases done
  exact ensure_holds within

omit [GoFloat F] in
theorem countP_split (rows : List (ResultRecord F)) :
    rows.countP (·.success) + rows.countP (!·.success) = rows.length := by
  rw [List.length_eq_countP_add_countP (fun rec : ResultRecord F => rec.success)]
  simp

theorem process_totals (processes : List (GoProcess F)) :
    sumTotals (processes.map GoProcess.summary) =
      { requestsCompleted := (processes.flatMap GoProcess.rows).length
        requestsScheduled := (processes.flatMap GoProcess.rows).length
        errors := (processes.flatMap GoProcess.rows).countP (!·.success)
        totalInputTokens := (processes.map fun process => wrap64 (process.rows.map inputTokens).sum).sum
        totalOutputTokens := (processes.map fun process => wrap64 (process.rows.map outputTokens).sum).sum } := by
  induction processes with
  | nil => rfl
  | cons process rest ih =>
    have counted : Counted (aggregate process.workerResults) process.rows := aggregate_counted process.workerResults
    have split := countP_split process.rows
    have completed : process.summary.requestsCompleted = process.rows.length := by
      show ((aggregate process.workerResults).completed : Int) + (aggregate process.workerResults).errorsCount = _
      rw [counted.completed, counted.errors]
      omega
    have scheduled : process.summary.requestsScheduled = process.rows.length := rfl
    have errors : process.summary.errors = process.rows.countP (!·.success) := congrArg Nat.cast counted.errors
    have input : process.summary.totalInputTokens = wrap64 (process.rows.map inputTokens).sum := counted.input
    have output : process.summary.totalOutputTokens = wrap64 (process.rows.map outputTokens).sum := counted.output
    simp only [sumTotals, Totals.mk.injEq, List.map_cons, List.sum_cons, List.flatMap_cons, List.length_append,
      List.countP_append, completed, scheduled, errors, input, output] at ih ⊢
    omega

end Merging

section Validity

theorem boundsFrom_sorted (current : Int) :
    (boundsFrom F current).Pairwise (· < ·) ∧ ∀ bound ∈ boundsFrom F current, current ≤ bound ∧ bound ≤ 7200 * 10 ^ 9 := by
  induction current using boundsFrom.induct F with
  | case1 current within ih =>
    rw [boundsFrom, if_pos within]
    obtain ⟨sorted, all⟩ := ih
    have grows : current < if GoFloat.grow F current ≤ current then current + 1 else GoFloat.grow F current := by
      split <;> omega
    refine ⟨List.pairwise_cons.mpr ⟨fun bound listed => lt_of_lt_of_le grows (all bound listed).1, sorted⟩, ?_⟩
    intro bound listed
    rcases List.mem_cons.mp listed with rfl | later
    · exact ⟨le_refl _, within⟩
    · exact ⟨le_trans (le_of_lt grows) (all bound later).1, (all bound later).2⟩
  | case2 current beyond =>
    rw [boundsFrom, if_neg beyond]
    exact ⟨List.Pairwise.nil, fun bound listed => by cases listed⟩

theorem le_getLast {bounds : List Int} (sorted : bounds.Pairwise (· < ·)) {bound : Int} (listed : bound ∈ bounds) :
    bound ≤ bounds.getLast?.getD 0 := by
  rcases List.eq_nil_or_concat bounds with rfl | ⟨before, last, rfl⟩
  · cases listed
  · rw [List.concat_eq_append] at sorted listed ⊢
    rw [List.getLast?_append_of_ne_nil _ (List.cons_ne_nil _ _)]
    rcases List.mem_append.mp listed with earlier | same
    · exact le_of_lt ((List.pairwise_append.mp sorted).2.2 bound earlier last (List.mem_singleton_self _))
    · exact le_of_eq (List.mem_singleton.mp same)

/-- The finite bounds are positive, in order, and end with two hours. -/
theorem bounds_sorted : (logarithmicHistogramBounds F).Pairwise (· < ·) ∧ logarithmicHistogramBounds F ≠ [] ∧
    ∀ bound ∈ logarithmicHistogramBounds F, 0 ≤ bound ∧ bound ≤ 7200 * 10 ^ 9 := by
  obtain ⟨sorted, all⟩ := @boundsFrom_sorted F _ 50000
  have within : ∀ bound ∈ boundsFrom F 50000, 0 ≤ bound ∧ bound ≤ 7200 * 10 ^ 9 := fun bound listed =>
    ⟨le_trans (by decide) (all bound listed).1, (all bound listed).2⟩
  unfold logarithmicHistogramBounds
  simp only
  split_ifs with short
  · refine ⟨List.pairwise_append.mpr ⟨sorted, List.pairwise_singleton _ _, ?_⟩, by simp, ?_⟩
    · intro bound listed last same
      rw [List.mem_singleton.mp same]
      exact lt_of_le_of_lt (le_getLast sorted listed) short
    · intro bound listed
      rcases List.mem_append.mp listed with earlier | last
      · exact within bound earlier
      · rw [List.mem_singleton.mp last]
        exact ⟨by decide, le_refl _⟩
  · refine ⟨sorted, ?_, within⟩
    intro empty
    rw [empty] at short
    exact short (by decide)

theorem requireOrdered_of_pairwise {bounds : List F} (sorted : bounds.Pairwise (· < ·)) : requireOrdered bounds = true := by
  match bounds, sorted with
  | [], _ => rfl
  | [_], _ => rfl
  | lower :: upper :: rest, sorted =>
    obtain ⟨below, later⟩ := List.pairwise_cons.mp sorted
    rw [requireOrdered, Bool.and_eq_true]
    exact ⟨decide_eq_true (below upper List.mem_cons_self), requireOrdered_of_pairwise later⟩

variable [LawfulGoFloat F]

/-- The bounds of the client's snapshots. -/
def snapshotBounds (F : Type) [GoFloat F] : List F :=
  (logarithmicHistogramBounds F).map GoFloat.seconds ++ [GoFloat.seconds (-(10 ^ 9))]

theorem seconds_sorted : ((logarithmicHistogramBounds F).map (GoFloat.seconds : Int → F)).Pairwise (· < ·) ∧
    ∀ bound ∈ (logarithmicHistogramBounds F).map (GoFloat.seconds : Int → F), 0 ≤ bound := by
  obtain ⟨sorted, -, within⟩ := @bounds_sorted F _
  constructor
  · refine List.pairwise_map.mpr (sorted.imp_of_mem ?_)
    intro short long here there lower
    exact LawfulGoFloat.seconds_lt short long (within short here).1 lower (within long there).2
  · intro bound listed
    obtain ⟨ns, held, rfl⟩ := List.mem_map.mp listed
    exact (LawfulGoFloat.seconds_nonneg ns).mpr (within ns held).1

theorem snapshotBounds_valid : boundsValid (snapshotBounds F) = true := by
  obtain ⟨sorted, nonneg⟩ := @seconds_sorted F _ _
  have some_bound := (@bounds_sorted F _).2.1
  have long : 1 ≤ (logarithmicHistogramBounds F).length := List.length_pos_iff.mpr some_bound
  simp only [boundsValid, snapshotBounds, List.dropLast_concat, List.length_append, List.length_map, List.length_singleton,
    Bool.and_eq_true, decide_eq_true_eq, List.all_eq_true, requireOrdered_of_pairwise sorted, and_true]
  refine ⟨⟨by omega, by simp⟩, nonneg⟩

/-- The bounds on either side of a bucket: the last has no upper one. -/
theorem bucket_bounds {index : Nat} (below : index < (snapshotBounds F).length) :
    let upper := (snapshotBounds F)[index]?.getD 0
    let lower := if index = 0 then 0 else (snapshotBounds F)[index - 1]?.getD 0
    0 ≤ lower ∧ (upper < 0 → index ≠ 0) ∧ (¬ upper < 0 → lower ≤ upper) := by
  obtain ⟨sorted, nonneg⟩ := @seconds_sorted F _ _
  have some_bound := List.length_pos_iff.mpr (@bounds_sorted F _).2.1
  have finite (at_ : Nat) (here : at_ < (logarithmicHistogramBounds F).length) :
      (snapshotBounds F)[at_]?.getD 0 =
        ((logarithmicHistogramBounds F).map (GoFloat.seconds : Int → F)).get ⟨at_, by simpa using here⟩ := by
    rw [snapshotBounds, List.getElem?_append_left (by simpa using here), List.getElem?_eq_getElem (by simpa using here)]
    rfl
  have lower_nonneg (at_ : Nat) (here : at_ < (logarithmicHistogramBounds F).length) :
      0 ≤ (snapshotBounds F)[at_]?.getD 0 := by
    rw [finite at_ here]
    exact nonneg _ (List.getElem_mem _)
  simp only [snapshotBounds, List.length_append, List.length_map, List.length_singleton] at below
  simp only
  by_cases first : index = 0
  · subst first
    simp only [if_true, le_refl, true_and]
    exact ⟨fun negative => absurd (lower_nonneg 0 some_bound) (not_le.mpr negative), fun positive => not_lt.mp positive⟩
  · simp only [first, if_false, ne_eq, not_false_eq_true, implies_true, true_and]
    refine ⟨lower_nonneg _ (by omega), fun positive => ?_⟩
    by_cases last : index < (logarithmicHistogramBounds F).length
    · rw [finite _ (by omega), finite _ last]
      exact le_of_lt (List.pairwise_iff_getElem.mp sorted _ _ (by simp; omega) (by simpa using last) (by omega))
    · exfalso
      apply positive
      have here : index = (logarithmicHistogramBounds F).length := by omega
      have mark : (snapshotBounds F)[index]?.getD 0 = GoFloat.seconds (-(10 ^ 9)) := by
        rw [snapshotBounds, List.getElem?_append_right (by simp [here])]
        simp [here]
      rw [mark]
      exact not_le.mp fun held => absurd ((LawfulGoFloat.seconds_nonneg _).mp held) (by decide)

theorem bucketOf_below {threshold start before : Nat} {counts : List Nat} {found : Nat × Nat × Nat}
    (reached : bucketOf threshold counts start before = some found) : found.1 < start + counts.length := by
  induction counts generalizing start before with
  | nil => cases reached
  | cons count rest ih =>
    rw [bucketOf] at reached
    rw [List.length_cons]
    split_ifs at reached
    · cases reached
      show start < _
      omega
    · have later := ih reached
      omega

theorem bucketOf_some {threshold start before : Nat} {counts : List Nat} (above : before < threshold)
    (enough : threshold ≤ before + counts.sum) : ∃ found, bucketOf threshold counts start before = some found := by
  induction counts generalizing start before with
  | nil =>
    rw [List.sum_nil] at enough
    omega
  | cons count rest ih =>
    rw [List.sum_cons] at enough
    rw [bucketOf]
    split_ifs with here
    · exact ⟨_, rfl⟩
    · exact ih (by omega) (by omega)

omit [LawfulGoFloat F] in
theorem lastFinite_nonneg (bounds : List F) : 0 ≤ lastFinite bounds := by
  unfold lastFinite
  cases found : bounds.reverse.find? fun bound => decide (0 ≤ bound) with
  | none => exact le_refl _
  | some bound => exact of_decide_eq_true (List.find?_some found :)

theorem percentile_nonneg {snap : Histogram F} (bounds : snap.bounds = snapshotBounds F)
    (width : snap.counts.length = snap.bounds.length) (hundredths : Nat) :
    0 ≤ percentileFromHistogram snap hundredths := by
  unfold percentileFromHistogram
  split_ifs
  · exact le_refl _
  · simp only
    cases reached : bucketOf (max 1 (GoFloat.rank F snap.count hundredths)) snap.counts 0 0 with
    | none => exact lastFinite_nonneg _
    | some found =>
      obtain ⟨index, before, count⟩ := found
      have below : index < (snapshotBounds F).length := by
        rw [← bounds, ← width]
        simpa using bucketOf_below reached
      obtain ⟨lower, -, ordered⟩ := bucket_bounds below
      simp only [bounds]
      by_cases overflow : (snapshotBounds F)[index]?.getD 0 < 0
      · rw [if_pos overflow]
        exact lower
      · rw [if_neg overflow]
        by_cases unfilled : count = 0
        · rw [if_pos unfilled]
          exact not_lt.mp overflow
        · rw [if_neg unfilled]
          exact LawfulGoFloat.interpolate_nonneg _ _ _ _ lower (ordered overflow)

omit [LawfulGoFloat F] in
theorem histogramPercentile_eq {histogram : Histogram F} (bounds : histogram.bounds = snapshotBounds F)
    (width : histogram.counts.length = histogram.bounds.length) (counted : histogram.counts.sum = histogram.count)
    {hundredths : Nat} (within : GoFloat.rank F histogram.count hundredths ≤ histogram.count)
    (marked : ∀ index < (snapshotBounds F).length, (snapshotBounds F)[index]?.getD 0 < 0 → index ≠ 0) :
    histogramPercentile histogram hundredths = .ok (percentileFromHistogram histogram hundredths) := by
  unfold histogramPercentile percentileFromHistogram
  by_cases unobserved : histogram.count = 0
  · rw [if_pos unobserved, if_pos unobserved]
  · rw [if_neg unobserved, if_neg unobserved]
    have enough : max 1 (GoFloat.rank F histogram.count hundredths) ≤ 0 + histogram.counts.sum := by
      rw [counted]
      omega
    obtain ⟨⟨index, before, count⟩, reached⟩ := @bucketOf_some _ 0 0 _ (by omega) enough
    have below : index < (snapshotBounds F).length := by
      rw [← bounds, ← width]
      simpa using bucketOf_below reached
    simp only [reached, bounds]
    by_cases overflow : (snapshotBounds F)[index]?.getD 0 < 0
    · rw [if_pos overflow, if_pos overflow, if_neg (marked index below overflow)]
    · rw [if_neg overflow, if_neg overflow]
      split_ifs <;> rfl

/-- The histograms a client snapshots: its own bounds, and counts that add up. -/
structure HistogramSound (histogram : Histogram F) : Prop where
  bounds : histogram.bounds = snapshotBounds F
  width : histogram.counts.length = (snapshotBounds F).length
  counted : histogram.counts.sum = histogram.count
  nonneg : 0 ≤ histogram.sumS

/-- What the validator asks of a summary over the client's own buckets. -/
structure SummaryInRange (summary : Summary F) : Prop where
  errors : 0 ≤ summary.errors ∧ summary.errors ≤ summary.requestsCompleted
  scheduled : summary.requestsCompleted ≤ summary.requestsScheduled
  input : 0 ≤ summary.totalInputTokens
  output : 0 ≤ summary.totalOutputTokens
  quantiles : 0 ≤ summary.p50S ∧ 0 ≤ summary.p99S
  fire : 0 ≤ summary.lastFireTime
  start : 0 ≤ summary.lastRequestStartAt
  done : 0 ≤ summary.lastBodyDoneAt
  runT0 : 0 ≤ summary.adjustedRunT0
  histogram : HistogramSound summary.histogram

theorem validate_ok {summary : Summary F} (range : SummaryInRange summary) :
    validateGoSummary summary = .ok summary := by
  have completed := le_trans range.errors.1 range.errors.2
  have shape : summary.histogram.bounds.length = summary.histogram.counts.length ∧
      boundsValid summary.histogram.bounds = true ∧ summary.histogram.counts.sum = summary.histogram.count := by
    rw [range.histogram.bounds]
    exact ⟨range.histogram.width.symm, snapshotBounds_valid, range.histogram.counted⟩
  unfold validateGoSummary
  refine (ok_bind (ensure_ok completed _) _).trans ?_
  refine (ok_bind (ensure_ok (le_trans completed range.scheduled) _) _).trans ?_
  refine (ok_bind (ensure_ok range.errors.1 _) _).trans ?_
  refine (ok_bind (ensure_ok range.input _) _).trans ?_
  refine (ok_bind (ensure_ok range.output _) _).trans ?_
  refine (ok_bind (ensure_ok ⟨range.errors.2, range.scheduled⟩ _) _).trans ?_
  refine (ok_bind (ensure_ok range.quantiles.1 _) _).trans ?_
  refine (ok_bind (ensure_ok range.quantiles.2 _) _).trans ?_
  refine (ok_bind (ensure_ok range.fire _) _).trans ?_
  refine (ok_bind (ensure_ok range.start _) _).trans ?_
  refine (ok_bind (ensure_ok range.done _) _).trans ?_
  refine (ok_bind (ensure_ok range.runT0 _) _).trans ?_
  refine (ok_bind (ensure_ok shape _) _).trans ?_
  exact ok_bind (ensure_ok range.histogram.nonneg _) _

/-- The sums and times of a process that its reader accepts. -/
structure ProcessInRange (process : GoProcess F) : Prop where
  input : 0 ≤ wrap64 (process.rows.map inputTokens).sum
  output : 0 ≤ wrap64 (process.rows.map outputTokens).sum
  latency : 0 ≤ wrap64 (process.rows.map latencyNs).sum
  fire : 0 ≤ process.ends.lastFireTime
  start : 0 ≤ process.ends.lastRequestStartAt
  done : 0 ≤ process.ends.lastBodyDoneAt
  runT0 : 0 ≤ process.ends.runT0

theorem merged_percentile {histogram : Histogram F} (sound : HistogramSound histogram) {hundredths : Nat}
    (within : hundredths ≤ 100) :
    histogramPercentile histogram hundredths = .ok (percentileFromHistogram histogram hundredths) ∧
      0 ≤ percentileFromHistogram histogram hundredths := by
  have width : histogram.counts.length = histogram.bounds.length := by rw [sound.bounds, sound.width]
  exact ⟨histogramPercentile_eq sound.bounds width sound.counted (LawfulGoFloat.rank_le _ _ within)
    (fun index below => (bucket_bounds below).2.1), percentile_nonneg sound.bounds width hundredths⟩

theorem summary_histogram {process : GoProcess F} (range : ProcessInRange process) :
    HistogramSound process.summary.histogram := by
  have counted : Counted (aggregate process.workerResults) process.rows := aggregate_counted process.workerResults
  refine ⟨?_, ?_, counted.latencies.counted, ?_⟩
  · show (aggregate process.workerResults).latencies.bounds.map _ ++ _ = _
    rw [counted.latencies.same]
    rfl
  · show (aggregate process.workerResults).latencies.counts.length = _
    rw [counted.latencies.width, snapshotBounds, List.length_append, List.length_map, List.length_singleton]
  · refine (LawfulGoFloat.seconds_nonneg _).mpr ?_
    rw [counted.sumNs]
    exact range.latency

theorem summary_in_range {process : GoProcess F} (range : ProcessInRange process) : SummaryInRange process.summary := by
  have counted : Counted (aggregate process.workerResults) process.rows := aggregate_counted process.workerResults
  have split := countP_split process.rows
  have completed : process.summary.requestsCompleted = process.rows.length := by
    show ((aggregate process.workerResults).completed : Int) + (aggregate process.workerResults).errorsCount = _
    rw [counted.completed, counted.errors]
    omega
  have scheduled : process.summary.requestsScheduled = process.rows.length := rfl
  have errors : process.summary.errors = process.rows.countP (!·.success) := congrArg Nat.cast counted.errors
  have whole := summary_histogram range
  exact {
    errors := ⟨by omega, by omega⟩
    scheduled := by omega
    input := le_of_le_of_eq range.input counted.input.symm
    output := le_of_le_of_eq range.output counted.output.symm
    quantiles := ⟨(merged_percentile whole (by decide)).2, (merged_percentile whole (by decide)).2⟩
    fire := range.fire
    start := range.start
    done := range.done
    runT0 := range.runT0
    histogram := whole }

/-- What a summary says of the sums and times of its process. -/
theorem process_in_range {process : GoProcess F} (input : 0 ≤ process.summary.totalInputTokens)
    (output : 0 ≤ process.summary.totalOutputTokens) (latency : 0 ≤ process.summary.histogram.sumS)
    (fire : 0 ≤ process.ends.lastFireTime) (start : 0 ≤ process.ends.lastRequestStartAt)
    (done : 0 ≤ process.ends.lastBodyDoneAt) (runT0 : 0 ≤ process.ends.runT0) : ProcessInRange process := by
  have counted : Counted (aggregate process.workerResults) process.rows := aggregate_counted process.workerResults
  have seconds : 0 ≤ (aggregate process.workerResults).latencies.sumNs := (LawfulGoFloat.seconds_nonneg _).mp latency
  exact ⟨counted.input ▸ input, counted.output ▸ output, counted.sumNs ▸ seconds, fire, start, done, runT0⟩

/-- The reader accepts the summary of a process exactly when its sums and times are in range. -/
theorem summary_validates_iff (process : GoProcess F) :
    validateGoSummary process.summary = .ok process.summary ↔ ProcessInRange process := by
  constructor
  · intro done
    obtain ⟨⟨⟩, -, done⟩ := bind_ok done
    obtain ⟨⟨⟩, -, done⟩ := bind_ok done
    obtain ⟨⟨⟩, -, done⟩ := bind_ok done
    obtain ⟨⟨⟩, input, done⟩ := bind_ok done
    obtain ⟨⟨⟩, output, done⟩ := bind_ok done
    obtain ⟨⟨⟩, -, done⟩ := bind_ok done
    obtain ⟨⟨⟩, -, done⟩ := bind_ok done
    obtain ⟨⟨⟩, -, done⟩ := bind_ok done
    obtain ⟨⟨⟩, fire, done⟩ := bind_ok done
    obtain ⟨⟨⟩, start, done⟩ := bind_ok done
    obtain ⟨⟨⟩, ended, done⟩ := bind_ok done
    obtain ⟨⟨⟩, runT0, done⟩ := bind_ok done
    obtain ⟨⟨⟩, -, done⟩ := bind_ok done
    obtain ⟨⟨⟩, latency, -⟩ := bind_ok done
    exact process_in_range (ensure_holds input) (ensure_holds output) (ensure_holds latency) (ensure_holds fire)
      (ensure_holds start) (ensure_holds ended) (ensure_holds runT0)
  · intro range
    exact validate_ok (summary_in_range range)

omit [LawfulGoFloat F] in
theorem addCounts_sum {left right : List Nat} (same : left.length = right.length) :
    (addCounts left right).sum = left.sum + right.sum ∧ (addCounts left right).length = left.length := by
  induction left generalizing right with
  | nil => cases right with
    | nil => exact ⟨rfl, rfl⟩
    | cons => cases same
  | cons count rest ih => cases right with
    | nil => cases same
    | cons other others =>
      obtain ⟨sum, length⟩ := ih (Nat.succ.inj same)
      simp only [addCounts, List.zipWith_cons_cons, List.sum_cons, List.length_cons] at sum length ⊢
      omega

theorem merge_histograms {first : Histogram F} {rest : List (Histogram F)}
    (sound : ∀ histogram ∈ first :: rest, HistogramSound histogram) :
    ∃ merged, mergeLatencyHistograms (first :: rest) = .ok merged ∧ HistogramSound merged ∧
      merged.count = ((first :: rest).map Histogram.count).sum := by
  have head := sound first List.mem_cons_self
  have alike : ∀ histogram ∈ rest, histogram.bounds = first.bounds ∧ histogram.counts.length = first.bounds.length := by
    intro histogram listed
    have other := sound histogram (List.mem_cons_of_mem _ listed)
    rw [head.bounds]
    exact ⟨other.bounds, other.width⟩
  have counts (histograms : List (Histogram F)) (all : ∀ histogram ∈ histograms, HistogramSound histogram)
      (start : List Nat) (width : start.length = (snapshotBounds F).length) :
      (histograms.foldl (fun counts histogram => addCounts counts histogram.counts) start).length =
          (snapshotBounds F).length ∧
        (histograms.foldl (fun counts histogram => addCounts counts histogram.counts) start).sum =
          start.sum + (histograms.map Histogram.count).sum := by
    induction histograms generalizing start with
    | nil => simp [width]
    | cons histogram others ih =>
      have here := all histogram List.mem_cons_self
      obtain ⟨sum, length⟩ := addCounts_sum (width.trans here.width.symm)
      obtain ⟨wide, total⟩ := ih (fun other listed => all other (List.mem_cons_of_mem _ listed)) _ (length.trans width)
      refine ⟨wide, ?_⟩
      rw [List.foldl_cons, total, sum, here.counted, List.map_cons, List.sum_cons, Nat.add_assoc]
  have sums (histograms : List (Histogram F)) (all : ∀ histogram ∈ histograms, HistogramSound histogram) (start : F)
      (nonneg : 0 ≤ start) : 0 ≤ histograms.foldl (fun sum histogram => GoFloat.add sum histogram.sumS) start := by
    induction histograms generalizing start with
    | nil => exact nonneg
    | cons histogram others ih =>
      exact ih (fun other listed => all other (List.mem_cons_of_mem _ listed)) _
        (LawfulGoFloat.add_nonneg _ _ nonneg (all histogram List.mem_cons_self).nonneg)
  obtain ⟨width, total⟩ := counts (first :: rest) sound (List.replicate first.bounds.length 0) (by simp [head.bounds])
  refine ⟨_, ok_bind (ensure_ok alike _) _, ⟨head.bounds, width, ?_, sums _ sound 0 (le_refl _)⟩, rfl⟩
  simpa using total

omit [LawfulGoFloat F] in
theorem maximum_nonneg {first : F} (nonneg : 0 ≤ first) (rest : List F) : 0 ≤ maximum first rest := by
  induction rest generalizing first with
  | nil => exact nonneg
  | cons next others ih => exact ih (le_trans nonneg (le_max_left _ _))

theorem sum_nonneg_int {items : List Int} (all : ∀ item ∈ items, 0 ≤ item) : 0 ≤ items.sum := by
  induction items with
  | nil => exact le_refl _
  | cons item rest ih =>
    obtain ⟨here, later⟩ := List.forall_mem_cons.mp all
    rw [List.sum_cons]
    exact Int.add_nonneg here (ih later)

omit [LawfulGoFloat F] in
theorem summary_count (process : GoProcess F) :
    (process.summary.histogram.count : Int) = process.summary.requestsCompleted - process.summary.errors := by
  have counted : Counted (aggregate process.workerResults) process.rows := aggregate_counted process.workerResults
  show ((aggregate process.workerResults).latencies.total : Int) =
    (aggregate process.workerResults).completed + (aggregate process.workerResults).errorsCount -
      (aggregate process.workerResults).errorsCount
  rw [counted.observed, counted.completed]
  omega

omit [LawfulGoFloat F] in
theorem summary_counts (processes : List (GoProcess F)) :
    (((processes.map GoProcess.summary).map Summary.histogram).map Histogram.count).sum =
      ((processes.map GoProcess.summary).map Summary.requestsCompleted).sum -
        ((processes.map GoProcess.summary).map Summary.errors).sum := by
  induction processes with
  | nil => rfl
  | cons process others ih =>
    have here := summary_count process
    simp only [List.map_cons, List.sum_cons, Nat.cast_add] at ih ⊢
    omega

/-- The summaries of one rank's processes merge when each is in range. -/
theorem merge_ok {first : GoProcess F} {rest : List (GoProcess F)}
    (range : ∀ process ∈ first :: rest, ProcessInRange process)
    (together : ∀ process ∈ rest, process.ends.runT0 = first.ends.runT0) :
    ∃ merged, mergeGoProcessSummaries ((first :: rest).map GoProcess.summary) = .ok merged ∧
      merged.lastFireTime = maximum first.ends.lastFireTime
        ((rest.map GoProcess.summary).map Summary.lastFireTime) := by
  have head := range first List.mem_cons_self
  have valid : ∀ summary ∈ (first :: rest).map GoProcess.summary, validateGoSummary summary = .ok (id summary) := by
    intro summary listed
    obtain ⟨process, held, rfl⟩ := List.mem_map.mp listed
    exact (summary_validates_iff process).mpr (range process held)
  have sound : ∀ histogram ∈ ((first :: rest).map GoProcess.summary).map Summary.histogram, HistogramSound histogram := by
    intro histogram listed
    rw [List.map_map] at listed
    obtain ⟨process, held, rfl⟩ := List.mem_map.mp listed
    exact summary_histogram (range process held)
  obtain ⟨histogram, merged, whole, count⟩ := merge_histograms sound
  obtain ⟨p50, p50_nonneg⟩ := merged_percentile whole (by decide : 50 ≤ 100)
  obtain ⟨p99, p99_nonneg⟩ := merged_percentile whole (by decide : 99 ≤ 100)
  have totals := process_totals (first :: rest)
  simp only [sumTotals, Totals.mk.injEq] at totals
  obtain ⟨completed, scheduled, errors, input, output⟩ := totals
  have fewer : ((first :: rest).flatMap GoProcess.rows).countP (!·.success) ≤
      ((first :: rest).flatMap GoProcess.rows).length := List.countP_le_length
  have counts : (histogram.count : Int) = (((first :: rest).map GoProcess.summary).map Summary.requestsCompleted).sum -
      (((first :: rest).map GoProcess.summary).map Summary.errors).sum := by
    rw [← summary_counts, count]
    rfl
  have input_nonneg : 0 ≤ (((first :: rest).map GoProcess.summary).map Summary.totalInputTokens).sum := by
    rw [input]
    exact sum_nonneg_int (by simpa using fun process held => (range process held).input)
  have output_nonneg : 0 ≤ (((first :: rest).map GoProcess.summary).map Summary.totalOutputTokens).sum := by
    rw [output]
    exact sum_nonneg_int (by simpa using fun process held => (range process held).output)
  have same : ∀ summary ∈ rest.map GoProcess.summary, summary.adjustedRunT0 = first.summary.adjustedRunT0 := by
    intro summary listed
    obtain ⟨process, held, rfl⟩ := List.mem_map.mp listed
    exact together process held
  unfold mergeGoProcessSummaries
  rw [ok_bind (mapM_ok valid), List.map_id]
  refine ⟨_, (ok_bind (ensure_ok same _) _).trans ((ok_bind merged _).trans ((ok_bind p50 _).trans
    ((ok_bind p99 _).trans ((ok_bind (ensure_ok counts _) _).trans (validate_ok {
      errors := ⟨?_, ?_⟩
      scheduled := ?_
      input := input_nonneg
      output := output_nonneg
      quantiles := ⟨p50_nonneg, p99_nonneg⟩
      fire := maximum_nonneg head.fire _
      start := maximum_nonneg head.start _
      done := maximum_nonneg head.done _
      runT0 := head.runT0
      histogram := whole }))))), rfl⟩
  · show 0 ≤ (((first :: rest).map GoProcess.summary).map Summary.errors).sum
    omega
  · show (((first :: rest).map GoProcess.summary).map Summary.errors).sum ≤
      (((first :: rest).map GoProcess.summary).map Summary.requestsCompleted).sum
    omega
  · show (((first :: rest).map GoProcess.summary).map Summary.requestsCompleted).sum ≤
      (((first :: rest).map GoProcess.summary).map Summary.requestsScheduled).sum
    omega

end Validity

end ExaServe.Replay
