import ExaServe.Lib.Dict
import ExaServe.Replay.Nanoseconds
import ExaServe.Replay.Summaries
import ExaServe.Replay.Distribute
import Mathlib.Tactic.Linarith
import Mathlib.Tactic.Ring

namespace ExaServe.Replay

open Lib

variable {F : Type} [GoFloat F]

/-- One result of the raw mode: the request of the trace, and what was measured of it. -/
abbrev RawItem (F : Type) := TraceRequest × ResultRecord F

/-- `_read_go_results` of the rows of a process. -/
def readGoResults (requestMap : String → Option TraceRequest) (rows : List (ResultRecord F)) :
    Except String (List (RawItem F)) :=
  rows.mapM fun row => match requestMap row.reqId with
    | some request => .ok (request, row)
    | none => .error ("Go replay result references unknown request id " ++ row.reqId)

structure RawCounts where
  totalInputTokens : Int
  totalOutputTokens : Int
  usageCount : Nat
  traceCount : Nat

/-- The tokens of a successful request, from the server where it reported both figures. -/
def RawCounts.add (counts : RawCounts) (item : RawItem F) : RawCounts :=
  if item.2.success then
    match item.2.actualPromptTokens, item.2.actualCompletionTokens with
    | some prompt, some completion =>
      { counts with
        totalInputTokens := counts.totalInputTokens + prompt
        totalOutputTokens := counts.totalOutputTokens + completion
        usageCount := counts.usageCount + 1 }
    | _, _ =>
      { counts with
        totalInputTokens := counts.totalInputTokens + item.1.inputLen
        totalOutputTokens := counts.totalOutputTokens + item.1.outputLen
        traceCount := counts.traceCount + 1 }
  else counts

def modelGroups (items : List (RawItem F)) : List (String × List (RawItem F)) :=
  items.foldl (fun groups item => appendEntry item.1.model item groups) []

/-- The errors of one model's rows. -/
def modelErrors (rows : List (RawItem F)) : Nat := rows.length - (rows.filter (·.2.success)).length

/-- The figures `_save_results` publishes of a raw run. -/
def rawTotals (totalRequests : Nat) (items : List (RawItem F)) : Totals :=
  let counts := items.foldl RawCounts.add ⟨0, 0, 0, 0⟩
  { requestsCompleted := items.length
    requestsScheduled := totalRequests
    errors := ((modelGroups items).map fun group => modelErrors group.2).sum
    totalInputTokens := counts.totalInputTokens
    totalOutputTokens := counts.totalOutputTokens }

/-- The rows of a run, over all processes of all ranks. -/
def runRows (ranks : List (List (GoProcess F))) : List (ResultRecord F) := ranks.flatten.flatMap GoProcess.rows

/-- What one figure of a record, reported without the other, adds to the trace's length. -/
def excess (reported other : Usage) (length : Int) : Int :=
  match reported, other with
  | some value, none => value - length
  | _, _ => 0

def inputExcess (rec : ResultRecord F) : Int :=
  if rec.success then excess rec.actualPromptTokens rec.actualCompletionTokens rec.inputLen else 0

def outputExcess (rec : ResultRecord F) : Int :=
  if rec.success then excess rec.actualCompletionTokens rec.actualPromptTokens rec.outputLen else 0

/-- The lengths of a record are those of its request. -/
def LengthsCopied (requestMap : String → Option TraceRequest) (rec : ResultRecord F) : Prop :=
  ∀ request, requestMap rec.reqId = some request →
    rec.inputLen = request.inputLen ∧ rec.outputLen = request.outputLen

/-- What an `int64` can hold. -/
def InInt64 (value : Int) : Prop := -2 ^ 63 ≤ value ∧ value < 2 ^ 63

/-- Every counter of a process holds the sum of its rows, and every total published is below 2^64. -/
def NothingWrapped (ranks : List (List (GoProcess F))) (reduced : Reduced F) : Prop :=
  (∀ process ∈ ranks.flatten,
    process.summary.totalInputTokens = (process.rows.map inputTokens).sum ∧
      process.summary.totalOutputTokens = (process.rows.map outputTokens).sum) ∧
    ∀ value ∈ reduced.totals.all, value ≤ uint64Max

/-- The figures reported without their other agree with the trace in sum, and the rows of a process add up within
    an `int64`; those of a single rank, which no check follows, within 64 bits. -/
structure FiguresAgree (ranks : List (List (GoProcess F))) : Prop where
  input : ((runRows ranks).map inputExcess).sum = 0
  output : ((runRows ranks).map outputExcess).sum = 0
  counters : ∀ process ∈ ranks.flatten,
    InInt64 (process.rows.map inputTokens).sum ∧ InInt64 (process.rows.map outputTokens).sum
  single : ranks.length = 1 → ((runRows ranks).length : Int) ≤ uint64Max ∧
    ((runRows ranks).map inputTokens).sum ≤ uint64Max ∧ ((runRows ranks).map outputTokens).sum ≤ uint64Max

section RawFigures

omit [GoFloat F] in
theorem modelGroups_items (items : List (RawItem F)) :
    ((modelGroups items).flatMap Prod.snd).Perm items := by
  have grouped (groups : List (String × List (RawItem F))) (items : List (RawItem F)) :
      ((items.foldl (fun groups item => appendEntry item.1.model item groups) groups).flatMap Prod.snd).Perm
        (groups.flatMap Prod.snd ++ items) := by
    induction items generalizing groups with
    | nil => simp
    | cons item rest ih =>
      have next := ih (appendEntry item.1.model item groups)
      have here := (appendEntry_items item.1.model item groups).append_right rest
      rw [List.append_assoc, List.singleton_append] at here
      exact next.trans here
  exact grouped [] items

omit [GoFloat F] in
theorem modelErrors_eq (rows : List (RawItem F)) : modelErrors rows = rows.countP (!·.2.success) := by
  have split := rows.length_eq_countP_add_countP fun item : RawItem F => item.2.success
  have other : rows.countP (fun item => decide ¬item.2.success = true) = rows.countP (!·.2.success) :=
    List.countP_congr fun item _ => by simp
  rw [other] at split
  rw [modelErrors, ← List.countP_eq_length_filter]
  omega

omit [GoFloat F] in
theorem raw_errors (items : List (RawItem F)) :
    ((modelGroups items).map fun group => modelErrors group.2).sum = items.countP (!·.2.success) := by
  have counted (groups : List (String × List (RawItem F))) :
      (groups.map fun group => modelErrors group.2).sum = (groups.flatMap Prod.snd).countP (!·.2.success) := by
    induction groups with
    | nil => rfl
    | cons group rest ih =>
      rw [List.map_cons, List.sum_cons, List.flatMap_cons, List.countP_append, modelErrors_eq, ih]
  rw [counted]
  exact (modelGroups_items items).countP_eq _

omit [GoFloat F] in
/-- Without the figures reported alone, the summary would count what the raw results count. -/
theorem raw_tokens {items : List (RawItem F)}
    (copied : ∀ item ∈ items, item.2.inputLen = item.1.inputLen ∧ item.2.outputLen = item.1.outputLen)
    (counts : RawCounts) :
    (items.foldl RawCounts.add counts).totalInputTokens + ((items.map Prod.snd).map inputExcess).sum =
        counts.totalInputTokens + ((items.map Prod.snd).map inputTokens).sum ∧
      (items.foldl RawCounts.add counts).totalOutputTokens + ((items.map Prod.snd).map outputExcess).sum =
        counts.totalOutputTokens + ((items.map Prod.snd).map outputTokens).sum := by
  induction items generalizing counts with
  | nil => simp
  | cons item rest ih =>
    obtain ⟨input, output⟩ := ih (fun other listed => copied other (List.mem_cons_of_mem _ listed)) (counts.add item)
    obtain ⟨inputLen, outputLen⟩ := copied item List.mem_cons_self
    simp only [List.foldl_cons, List.map_cons, List.sum_cons]
    have one : (counts.add item).totalInputTokens + inputExcess item.2 = counts.totalInputTokens + inputTokens item.2 ∧
        (counts.add item).totalOutputTokens + outputExcess item.2 = counts.totalOutputTokens + outputTokens item.2 := by
      unfold RawCounts.add inputExcess outputExcess inputTokens outputTokens
      cases item.2.success with
      | false => simp
      | true =>
        cases item.2.actualPromptTokens <;> cases item.2.actualCompletionTokens <;>
          simp [excess, inputLen, outputLen]
    constructor
    · linarith [one.1]
    · linarith [one.2]

omit [GoFloat F] in
theorem read_rows {requestMap : String → Option TraceRequest} {rows : List (ResultRecord F)} {items : List (RawItem F)}
    (read : readGoResults requestMap rows = .ok items) :
    items.map Prod.snd = rows ∧ ∀ item ∈ items, requestMap item.2.reqId = some item.1 := by
  have each := forall₂_of_mapM read
  induction each with
  | nil => simp
  | @cons row item rows items one _ ih =>
    unfold readGoResults at read
    rw [List.mapM_cons] at read
    obtain ⟨_, found, read⟩ := bind_ok read
    obtain ⟨others, mapped, read⟩ := bind_ok read
    cases read
    obtain ⟨same, requests⟩ := ih mapped
    cases known : requestMap row.reqId with
    | none => rw [known] at one; cases one
    | some request =>
      rw [known] at one
      cases one
      refine ⟨by rw [List.map_cons, same], List.forall_mem_cons.mpr ⟨known, requests⟩⟩

end RawFigures

section SummedFigures

theorem rank_totals {ranks : List (List (GoProcess F))} {summaries : List (Summary F)}
    (merged : ranks.mapM (fun processes => mergeGoProcessSummaries (processes.map GoProcess.summary)) = .ok summaries) :
    sumTotals summaries = sumTotals (ranks.flatten.map GoProcess.summary) := by
  have each := forall₂_of_mapM merged
  clear merged
  induction each with
  | nil => rfl
  | cons one _ ih =>
    have here := merge_totals one
    simp only [sumTotals, Summary.totals, Totals.mk.injEq, List.map_cons, List.sum_cons, List.flatten_cons,
      List.map_append, List.sum_append] at here ih ⊢
    omega

/-- A run that is summed publishes the sums of its processes. -/
theorem run_totals {ranks : List (List (GoProcess F))} {reduced : Reduced F} (summed : runSummary ranks = .ok reduced) :
    reduced.totals = sumTotals (ranks.flatten.map GoProcess.summary) := by
  obtain ⟨summaries, merged, done⟩ := bind_ok summed
  rw [reduce_totals done, rank_totals merged]

theorem wrap64_iff (value : Int) : wrap64 value = value ↔ InInt64 value := by
  unfold wrap64 InInt64
  omega

theorem run_bounded {ranks : List (List (GoProcess F))} {reduced : Reduced F} (summed : runSummary ranks = .ok reduced)
    (several : ranks.length ≠ 1) : ∀ value ∈ reduced.totals.all, value ≤ uint64Max := by
  obtain ⟨summaries, merged, done⟩ := bind_ok summed
  have length := (forall₂_of_mapM merged).length_eq
  match summaries, done with
  | [], done => cases done
  | [only], done => exact absurd length several
  | first :: second :: rest, done => exact reduce_bounded done

theorem exact_sum {processes : List (GoProcess F)} {tokens : ResultRecord F → Int}
    (held : ∀ process ∈ processes, wrap64 (process.rows.map tokens).sum = (process.rows.map tokens).sum) :
    (processes.map fun process => wrap64 (process.rows.map tokens).sum).sum =
      ((processes.flatMap GoProcess.rows).map tokens).sum := by
  induction processes with
  | nil => rfl
  | cons process rest ih =>
    obtain ⟨here, later⟩ := List.forall_mem_cons.mp held
    rw [List.map_cons, List.sum_cons, List.flatMap_cons, List.map_append, List.sum_append, here, ih later]

theorem counters_iff (process : GoProcess F) :
    (process.summary.totalInputTokens = (process.rows.map inputTokens).sum ∧
      process.summary.totalOutputTokens = (process.rows.map outputTokens).sum) ↔
      InInt64 (process.rows.map inputTokens).sum ∧ InInt64 (process.rows.map outputTokens).sum := by
  have counted : Counted (aggregate process.workerResults) process.rows := aggregate_counted process.workerResults
  have input : process.summary.totalInputTokens = wrap64 (process.rows.map inputTokens).sum := counted.input
  have output : process.summary.totalOutputTokens = wrap64 (process.rows.map outputTokens).sum := counted.output
  rw [input, output, wrap64_iff, wrap64_iff]

/-- The totals of a run in which no counter has wrapped. -/
theorem exact_totals {ranks : List (List (GoProcess F))} {reduced : Reduced F} (summed : runSummary ranks = .ok reduced)
    (counters : ∀ process ∈ ranks.flatten,
      InInt64 (process.rows.map inputTokens).sum ∧ InInt64 (process.rows.map outputTokens).sum) :
    reduced.totals = ⟨(runRows ranks).length, (runRows ranks).length, (runRows ranks).countP (!·.success),
      ((runRows ranks).map inputTokens).sum, ((runRows ranks).map outputTokens).sum⟩ := by
  rw [run_totals summed, process_totals,
    exact_sum fun process listed => (wrap64_iff _).mpr (counters process listed).1,
    exact_sum fun process listed => (wrap64_iff _).mpr (counters process listed).2]
  rfl

/-- The summed and the raw figures of one run, on the same rows, are the same, with no counter wrapped, exactly when
    the counts that a server reports alone agree with the trace in sum and the sums fit their types. -/
theorem summary_agrees_raw_iff {ranks : List (List (GoProcess F))} {reduced : Reduced F} (summed : runSummary ranks = .ok reduced)
    {requestMap : String → Option TraceRequest} (copied : ∀ row ∈ runRows ranks, LengthsCopied requestMap row)
    {items : List (RawItem F)} (read : readGoResults requestMap (runRows ranks) = .ok items) (totalRequests : Nat) :
    ((reduced.totals.requestsCompleted = (rawTotals totalRequests items).requestsCompleted ∧
      reduced.totals.errors = (rawTotals totalRequests items).errors ∧
      reduced.totals.totalInputTokens = (rawTotals totalRequests items).totalInputTokens ∧
      reduced.totals.totalOutputTokens = (rawTotals totalRequests items).totalOutputTokens) ∧
      NothingWrapped ranks reduced) ↔ FiguresAgree ranks := by
  obtain ⟨same, requests⟩ := read_rows read
  have lengths : ∀ item ∈ items, item.2.inputLen = item.1.inputLen ∧ item.2.outputLen = item.1.outputLen := by
    intro item listed
    have row : item.2 ∈ runRows ranks := same ▸ List.mem_map_of_mem listed
    exact copied item.2 row item.1 (requests item listed)
  obtain ⟨input, output⟩ := raw_tokens lengths ⟨0, 0, 0, 0⟩
  rw [same] at input output
  have length : items.length = (runRows ranks).length := by rw [← same, List.length_map]
  have errors : items.countP (!·.2.success) = (runRows ranks).countP (!·.success) := by
    rw [← same, List.countP_map]
    rfl
  have raw : (rawTotals totalRequests items).requestsCompleted = (runRows ranks).length ∧
      (rawTotals totalRequests items).errors = (runRows ranks).countP (!·.success) ∧
      (rawTotals totalRequests items).totalInputTokens =
        ((runRows ranks).map inputTokens).sum - ((runRows ranks).map inputExcess).sum ∧
      (rawTotals totalRequests items).totalOutputTokens =
        ((runRows ranks).map outputTokens).sum - ((runRows ranks).map outputExcess).sum := by
    simp only [rawTotals, raw_errors, length, errors, true_and]
    constructor <;> linarith
  rw [raw.1, raw.2.1, raw.2.2.1, raw.2.2.2]
  constructor
  · intro held
    obtain ⟨⟨-, -, inputs, outputs⟩, counters, bounded⟩ := held
    have ranges := fun process listed => (counters_iff process).mp (counters process listed)
    rw [exact_totals summed ranges] at inputs outputs bounded
    refine ⟨by linarith, by linarith, ranges, fun _ => ⟨?_, ?_, ?_⟩⟩ <;> apply bounded <;> simp [Totals.all]
  · intro agree
    have totals := exact_totals summed agree.counters
    refine ⟨?_, fun process listed => (counters_iff process).mpr (agree.counters process listed), ?_⟩
    · rw [totals, agree.input, agree.output]
      simp
    · by_cases single : ranks.length = 1
      · obtain ⟨rows, inputs, outputs⟩ := agree.single single
        have fewer : (runRows ranks).countP (!·.success) ≤ (runRows ranks).length := List.countP_le_length
        rw [totals]
        simp only [Totals.all, List.forall_mem_cons, List.not_mem_nil, false_implies, implies_true, and_true]
        exact ⟨rows, rows, le_trans (Int.ofNat_le.mpr fewer) rows, inputs, outputs⟩
      · exact run_bounded summed single

end SummedFigures

section HalfReported

def halfRow : ResultRecord Nanoseconds :=
  { ResultRecord.empty with
    reqId := "r"
    model := "m"
    success := true
    inputLen := 5
    outputLen := 3
    actualPromptTokens := some 7
    tensorParallelSize := 1 }

def halfRequest : TraceRequest := ⟨zeroTimestamp, "m", "", 5, 3, 1, "r", "chat"⟩

def halfProcess : GoProcess Nanoseconds := ⟨[[halfRow]], ⟨0, 0, 0, 0⟩⟩

/-- A server that reports only the prompt tokens of a request: the summary counts them, the raw results count
    the trace's length. -/
theorem half_reported_usage :
    (∃ reduced, runSummary [[halfProcess]] = .ok reduced ∧ reduced.totals.totalInputTokens = 7) ∧
      ∃ items, readGoResults (fun _ => some halfRequest) (runRows [[halfProcess]]) = .ok items ∧
        (rawTotals 1 items).totalInputTokens = 5 := by
  constructor
  · have range : ∀ process ∈ [halfProcess], ProcessInRange process := by
      intro process listed
      rw [List.mem_singleton.mp listed]
      exact ⟨by decide, by decide, by decide, by decide, by decide, by decide, by decide⟩
    obtain ⟨merged, done, -⟩ := merge_ok range (fun process listed => by cases listed)
    refine ⟨_, single_rank_run done, ?_⟩
    show merged.totals.totalInputTokens = 7
    rw [merge_totals done, process_totals]
    decide
  · exact ⟨[(halfRequest, halfRow)], rfl, by decide⟩

def fullProcess : GoProcess Nanoseconds :=
  ⟨[[{ halfRow with actualCompletionTokens := some 4 }]], ⟨0, 0, 0, 0⟩⟩

/-- A server that reports both counts: both modes publish them. -/
theorem full_usage_agrees :
    ∃ (reduced : Reduced Nanoseconds) (items : List (RawItem Nanoseconds)), runSummary [[fullProcess]] = .ok reduced ∧
      reduced.totals.requestsCompleted = (rawTotals 1 items).requestsCompleted ∧
      reduced.totals.errors = (rawTotals 1 items).errors ∧
      reduced.totals.totalInputTokens = (rawTotals 1 items).totalInputTokens ∧
      reduced.totals.totalOutputTokens = (rawTotals 1 items).totalOutputTokens ∧
      NothingWrapped [[fullProcess]] reduced := by
  have range : ∀ process ∈ [fullProcess], ProcessInRange process := by
    intro process listed
    rw [List.mem_singleton.mp listed]
    exact ⟨by decide, by decide, by decide, by decide, by decide, by decide, by decide⟩
  obtain ⟨merged, done, -⟩ := merge_ok range (fun process listed => by cases listed)
  have summed := single_rank_run done
  have copied : ∀ row ∈ runRows [[fullProcess]], LengthsCopied (fun _ => some halfRequest) row := by
    intro row listed request known
    cases known
    cases List.mem_singleton.mp (show row ∈ [{ halfRow with actualCompletionTokens := some 4 }] from listed)
    exact ⟨rfl, rfl⟩
  have agree : FiguresAgree [[fullProcess]] := {
    input := by decide
    output := by decide
    counters := by
      intro process listed
      rw [List.mem_singleton.mp listed]
      exact ⟨⟨by decide, by decide⟩, by decide, by decide⟩
    single := fun _ => by
      unfold uint64Max
      decide }
  have both := (summary_agrees_raw_iff summed copied rfl 1).mpr agree
  exact ⟨_, _, summed, both.1.1, both.1.2.1, both.1.2.2.1, both.1.2.2.2, both.2⟩

end HalfReported

end ExaServe.Replay
