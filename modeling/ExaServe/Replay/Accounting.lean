import ExaServe.Lib.WorkPool
import ExaServe.Replay.Client
import ExaServe.Replay.GoLoader
import ExaServe.Replay.Numbering
import ExaServe.Replay.Verdict

namespace ExaServe.Replay

open Lib

variable {F : Type} [GoFloat F]

section Dispatch

/-- The pool of `run`: the requests dealt out to the schedulers, the channel, the workers and the slots. -/
def dispatchPool (F : Type) (numGoWorkers maxActive queueCapacity : Nat) (requests : List PreparedRequest) :
    WorkPool.Setup PreparedRequest (Attempt F) where
  parts := (List.range (max 1 numGoWorkers)).map fun worker => stride (max 1 numGoWorkers) worker requests
  capacity := queueCapacity
  workers := maxActive
  slots := maxActive + queueCapacity
  Answers request attempt := prepared attempt.request = request

/-- A process of the client as a run of its pool over these requests leaves it. -/
def Ran (pool : WorkPool.Setup PreparedRequest (Attempt F)) (process : ClientProcess F) : Prop :=
  ∃ last, WorkPool.Reachable pool last ∧ WorkPool.Finished pool last ∧ process.schedulers = last.table pool

omit [GoFloat F] in
theorem forall₂_answered {part : List PreparedRequest} {slots : List (Option (Attempt F))}
    (answered : List.Forall₂ (fun request slot => ∃ attempt : Attempt F, slot = some attempt ∧ prepared attempt.request = request)
      part slots) : (slots.filterMap id).map (fun attempt => prepared attempt.request) = part := by
  induction answered with
  | nil => rfl
  | cons here _ ih =>
    obtain ⟨attempt, rfl, same⟩ := here
    show prepared attempt.request :: _ = _
    rw [same, ih]

omit [GoFloat F] in
theorem forall₂_dispatched {parts : List (List PreparedRequest)} {schedulers : List (List (Option (Attempt F)))}
    (answered : List.Forall₂ (List.Forall₂ fun request slot => ∃ attempt : Attempt F,
      slot = some attempt ∧ prepared attempt.request = request) parts schedulers) :
    (schedulers.flatMap fun slots => slots.filterMap id).map (fun attempt => prepared attempt.request) = parts.flatten := by
  induction answered with
  | nil => rfl
  | cons here _ ih => rw [List.flatMap_cons, List.map_append, ih, forall₂_answered here, List.flatten_cons]

omit [GoFloat F] in
/-- A run sends every request of the process once. -/
theorem ran_attempts {numGoWorkers maxActive queueCapacity : Nat} {requests : List TraceRequest}
    {process : ClientProcess F}
    (ran : Ran (dispatchPool F numGoWorkers maxActive queueCapacity (requests.map prepared)) process) :
    ∃ sent : List TraceRequest, sent.Perm requests ∧
      (process.attempts.map fun attempt => prepared attempt.request) = sent.map prepared := by
  obtain ⟨last, reached, done, table⟩ := ran
  have answered := forall₂_dispatched (WorkPool.finished_table reached done)
  have dealt : (dispatchPool F numGoWorkers maxActive queueCapacity (requests.map prepared)).parts.flatten =
      ((List.range (max 1 numGoWorkers)).flatMap fun worker =>
        strideFrom (max 1 numGoWorkers) worker 0 requests).map prepared := by
    show ((List.range (max 1 numGoWorkers)).flatMap fun worker =>
      strideFrom (max 1 numGoWorkers) worker 0 (requests.map prepared)) = _
    rw [List.map_flatMap]
    exact List.flatMap_congr fun worker _ => map_strideFrom prepared _ _ _ _
  have some_worker : 0 < max 1 numGoWorkers := lt_max_of_lt_left Nat.one_pos
  refine ⟨_, strides_perm some_worker 0 requests, ?_⟩
  rw [ClientProcess.attempts, table, answered, dealt]

end Dispatch

section Trial

/-- An uninterrupted replay of a trace that was loaded: every process whose file can be loaded runs its pool. -/
structure Trial (F : Type) where
  float : Json → FloatOf
  content : Bytes
  trace : List TraceRequest
  loaded : loadTraceRequests float (.ok content) none = .ok trace
  mpiSize : Nat
  some_rank : 0 < mpiSize
  numGoProcs : Nat
  numGoWorkers : Nat
  maxActive : Nat
  some_active : 0 < maxActive
  queueCapacity : Nat
  runT0 : F
  clients : Nat → Nat → ClientProcess F
  ran : ∀ rank < mpiSize, ∀ proc < max 1 numGoProcs, ∀ requests,
    loadRequests (writeTracePartition (stride (max 1 numGoProcs) proc (stride mpiSize rank trace))) = .ok requests →
      Ran (dispatchPool F numGoWorkers maxActive queueCapacity requests) (clients rank proc)

variable (trial : Trial F)

def Trial.procs : List Nat := List.range (max 1 trial.numGoProcs)

def Trial.share (rank : Nat) : List TraceRequest := stride trial.mpiSize rank trial.trace

def Trial.partition (rank proc : Nat) : List TraceRequest := stride (max 1 trial.numGoProcs) proc (trial.share rank)

/-- A row of the raw results: the request, and the fields of its record. -/
abbrev Row := TraceRequest × List (String × Json)

/-- `_read_go_results` of the records of a stream. -/
def readRecords (requests : String → Option TraceRequest) (records : List (List (String × Json))) :
    Except String (List Row) :=
  records.mapM fun fields => match requests ((textAt "req_id" fields).getD "") with
    | some request => .ok (request, fields)
    | none => .error ("Go replay result references unknown request id " ++ (textAt "req_id" fields).getD "")

/-- What a process leaves in its result file, unless it ended before its run. -/
def Trial.resultFile (sumOnly : Bool) (rank proc : Nat) : Except String GoResultStream := do
  let _ ← loadRequests (writeTracePartition (trial.partition rank proc))
  readGoResultStream (writeResults sumOnly (run trial.runT0 (trial.clients rank proc)) (trial.clients rank proc).collected)

def Trial.processRows (rank proc : Nat) : Except String (List Row) := do
  let stream ← trial.resultFile false rank proc
  readRecords (requestMap (trial.share rank)) stream.records

/-- The raw results of one rank, over its processes. -/
def Trial.rankRows (rank : Nat) : Except String (List Row) := do
  let parts ← trial.procs.mapM (trial.processRows rank)
  ensure ((parts.flatten.map fun row => row.1.reqId).Nodup) "go dispatch processes returned duplicate request ids"
  return parts.flatten

/-- The merged summary of one rank. -/
def Trial.rankSummary (rank : Nat) : Except String (Summary F) := do
  let _ ← trial.procs.mapM (trial.resultFile true rank)
  let merged ← mergeGoProcessSummaries (trial.procs.map fun proc => (run trial.runT0 (trial.clients rank proc)).summary)
  ensure (merged.lastFireTime = maximum 0 (trial.procs.map fun proc => (trial.clients rank proc).lastRequestStartAt))
    "merged Go summary dispatch endpoint is inconsistent"
  return merged

def Trial.ranks : List Nat := List.range trial.mpiSize

/-- The record of a request has its identity, its model and its lengths. -/
structure RecordOf (request : TraceRequest) (fields : List (String × Json)) : Prop where
  reqId : Json.lookup "req_id" fields = some (.str request.reqId)
  model : Json.lookup "model" fields = some (.str request.model)
  inputLen : Json.lookup "input_len" fields = some (.int request.inputLen)
  outputLen : Json.lookup "output_len" fields = some (.int request.outputLen)

/-- Whatever its goroutines do, the run of a process comes to its end. -/
def Trial.Ends : Prop :=
  ∀ rank proc requests, loadRequests (writeTracePartition (trial.partition rank proc)) = .ok requests →
    ∀ pool, WorkPool.Reachable (dispatchPool F trial.numGoWorkers trial.maxActive trial.queueCapacity requests) pool →
      ∃ last, Relation.ReflTransGen
        (WorkPool.Step (dispatchPool F trial.numGoWorkers trial.maxActive trial.queueCapacity requests)) pool last ∧
          WorkPool.Finished (dispatchPool F trial.numGoWorkers trial.maxActive trial.queueCapacity requests) last

/-- Every request of the trace is replayed and accounted for once. -/
def AccountedOnce (sumOnly : Bool) : Prop :=
  trial.Ends ∧ if sumOnly then
    ∃ merged, trial.ranks.mapM trial.rankSummary = .ok merged ∧
      (merged.map Summary.requestsScheduled).sum = trial.trace.length ∧
        (merged.map Summary.requestsCompleted).sum = trial.trace.length
  else
    ∃ rows, trial.ranks.mapM trial.rankRows = .ok rows ∧
      (rows.flatten.map Prod.fst).Perm trial.trace ∧ ∀ row ∈ rows.flatten, RecordOf row.1 row.2

/-- What the client's loader takes as it was written. -/
structure Loadable (request : TraceRequest) : Prop where
  short : Short request
  fits : Fits request
  model : Json.lastSegment request.model.toList ≠ typeWord
  prompt : Json.lastSegment request.prompt.toList ≠ typeWord

/-- The modes and the identities of a trace are never taken for a type. -/
theorem marked_numbered {index : Nat} {request : TraceRequest} (numbered : Numbered index request) : Marked request ↔
    Json.lastSegment request.model.toList = typeWord ∨ Json.lastSegment request.prompt.toList = typeWord := by
  have mode : Json.lastSegment request.mode.toList ≠ typeWord := by
    rcases numbered.mode with chat | completion
    · rw [chat]
      decide
    · rw [completion]
      decide
  have reqId : Json.lastSegment request.reqId.toList ≠ typeWord := by
    have plain := requestId_plain index
    rw [numbered.reqId, Json.lastSegment_plain fun listed => (plain _ listed).1 rfl]
    intro same
    exact (plain '_' (same ▸ by decide)).2 rfl
  unfold Marked
  rw [or_iff_right mode, or_iff_left reqId]

theorem stride_mem {size turn : Nat} {requests : List TraceRequest} {request : TraceRequest}
    (listed : request ∈ stride size turn requests) : request ∈ requests :=
  (strideFrom_sublist size turn 0 requests).subset listed

omit [GoFloat F] in
theorem Trial.share_sublist (rank : Nat) : (trial.share rank).Sublist trial.trace := strideFrom_sublist _ _ _ _

omit [GoFloat F] in
theorem Trial.partition_sublist (rank proc : Nat) : (trial.partition rank proc).Sublist (trial.share rank) :=
  strideFrom_sublist _ _ _ _

omit [GoFloat F] in
theorem Trial.trace_distinct : (trial.trace.map TraceRequest.reqId).Nodup := numbered_distinct (trace_numbered trial.loaded)

omit [GoFloat F] in
theorem Trial.trace_valid {request : TraceRequest} (listed : request ∈ trial.trace) : RequestValid request := by
  obtain ⟨index, inside, rfl⟩ := List.mem_iff_getElem.mp listed
  have numbered := trace_numbered trial.loaded index _ (List.getElem?_eq_getElem inside)
  refine ⟨?_, numbered.model, numbered.tensorParallelSize⟩
  rw [numbered.reqId]
  exact requestId_ne_empty index

/-- The client has loaded the file of a process. -/
def Trial.Loaded (rank proc : Nat) : Prop :=
  ∀ request ∈ trial.partition rank proc, Short request ∧ (¬ Marked request → Fits request)

omit [GoFloat F] in
theorem Trial.loaded_iff (rank proc : Nat) (requests : List PreparedRequest) :
    loadRequests (writeTracePartition (trial.partition rank proc)) = .ok requests ↔
      trial.Loaded rank proc ∧ requests = (unmarked (trial.partition rank proc)).map prepared :=
  loadRequests_iff _ _

omit [GoFloat F] in
/-- What a process has sent: the requests of its file, less those taken for metadata. -/
theorem Trial.process_sent {rank proc : Nat} (inside : rank < trial.mpiSize) (within : proc < max 1 trial.numGoProcs)
    (loaded : trial.Loaded rank proc) : ∃ sent : List TraceRequest, sent.Perm (unmarked (trial.partition rank proc)) ∧
      (trial.clients rank proc).attempts.map (fun attempt => prepared attempt.request) = sent.map prepared :=
  ran_attempts (trial.ran rank inside proc within _ ((trial.loaded_iff rank proc _).mpr ⟨loaded, rfl⟩))

omit [GoFloat F] in
theorem Trial.sent_mem {rank proc : Nat} {sent : List TraceRequest} (same : sent.Perm (unmarked (trial.partition rank proc)))
    {request : TraceRequest} (listed : request ∈ sent) : request ∈ trial.share rank :=
  (trial.partition_sublist rank proc).subset (List.mem_filter.mp (same.mem_iff.mp listed)).1

omit [GoFloat F] in
theorem Trial.attempts_valid {rank proc : Nat} (inside : rank < trial.mpiSize) (within : proc < max 1 trial.numGoProcs)
    (loaded : trial.Loaded rank proc) : ∀ attempt ∈ (trial.clients rank proc).attempts, RequestValid attempt.request := by
  obtain ⟨sent, same, prepared_same⟩ := trial.process_sent inside within loaded
  intro attempt listed
  have image : prepared attempt.request ∈ sent.map prepared := by
    rw [← prepared_same]
    exact List.mem_map_of_mem listed
  obtain ⟨request, held, equal⟩ := List.mem_map.mp image
  have valid := trial.trace_valid ((trial.share_sublist rank).subset (trial.sent_mem same held))
  have reqId : request.reqId = attempt.request.reqId := congrArg PreparedRequest.reqId equal
  have model : request.model = attempt.request.model := congrArg PreparedRequest.model equal
  have parallel : (request.tensorParallelSize : Int) = attempt.request.tensorParallelSize :=
    congrArg PreparedRequest.tensorParallelSize equal
  exact ⟨reqId ▸ valid.reqId, model ▸ valid.model, (Int.ofNat.inj parallel) ▸ valid.tensorParallelSize⟩

omit [GoFloat F] in
theorem Trial.attempts_distinct {rank proc : Nat} (inside : rank < trial.mpiSize) (within : proc < max 1 trial.numGoProcs)
    (loaded : trial.Loaded rank proc) :
    ((trial.clients rank proc).attempts.map fun attempt => attempt.request.reqId).Nodup := by
  obtain ⟨sent, same, prepared_same⟩ := trial.process_sent inside within loaded
  have ids : (trial.clients rank proc).attempts.map (fun attempt => attempt.request.reqId) =
      sent.map TraceRequest.reqId := by
    have images := congrArg (List.map PreparedRequest.reqId) prepared_same
    rwa [List.map_map, List.map_map] at images
  rw [ids, (same.map _).nodup_iff]
  have inside_trace : (unmarked (trial.partition rank proc)).Sublist trial.trace :=
    List.filter_sublist.trans ((trial.partition_sublist rank proc).trans (trial.share_sublist rank))
  exact (inside_trace.map TraceRequest.reqId).nodup trial.trace_distinct

end Trial

section Rows

omit [GoFloat F] in
theorem unmarked_strides {size : Nat} (positive : 0 < size) (requests : List TraceRequest) :
    ((List.range size).flatMap fun turn => unmarked (stride size turn requests)).Perm (unmarked requests) := by
  have all := (strides_perm positive 0 requests).filter fun request => ¬ Marked request
  rwa [List.filter_flatMap] at all

omit [GoFloat F] in
theorem flatten_perm {α β γ : Type} {items : List α} {parts : List (List β)} {f : β → γ} {g : α → List γ}
    (each : List.Forall₂ (fun item part => (part.map f).Perm (g item)) items parts) :
    (parts.flatten.map f).Perm (items.flatMap g) := by
  induction each with
  | nil => exact .refl _
  | cons here _ ih =>
    rw [List.flatten_cons, List.map_append, List.flatMap_cons]
    exact here.append ih

omit [GoFloat F] in
/-- What is read in turns is what was dealt in turns. -/
theorem dealt_rows {turns : List Nat} {read : Nat → Except String (List Row)} {parts : List (List Row)}
    {dealt : Nat → List TraceRequest} (done : turns.mapM read = .ok parts)
    (facts : ∀ turn ∈ turns, ∀ part, read turn = .ok part →
      (part.map Prod.fst).Perm (dealt turn) ∧ ∀ row ∈ part, RecordOf row.1 row.2) :
    (parts.flatten.map Prod.fst).Perm (turns.flatMap dealt) ∧ ∀ row ∈ parts.flatten, RecordOf row.1 row.2 := by
  have each : List.Forall₂ (fun turn part => (part.map Prod.fst).Perm (dealt turn) ∧ ∀ row ∈ part, RecordOf row.1 row.2)
      turns parts := by
    have both := (List.forall₂_and_left (p := (· ∈ turns)) _ _).mpr ⟨fun turn listed => listed, forall₂_of_mapM done⟩
    exact both.imp fun turn part here => facts turn here.1 part here.2
  constructor
  · exact flatten_perm (each.imp fun _ _ here => here.1)
  · intro row listed
    obtain ⟨part, held, own⟩ := List.mem_flatten.mp listed
    obtain ⟨turn, here⟩ := exists_of_forall₂ each held
    exact here.2 row own

theorem record_of {attempt : Attempt F} {request : TraceRequest} (same : prepared attempt.request = prepared request) :
    RecordOf request (present (recordFields (doRequest attempt))) := by
  have row := doRequest_describes attempt
  have reqId : attempt.request.reqId = request.reqId := congrArg PreparedRequest.reqId same
  have model : attempt.request.model = request.model := congrArg PreparedRequest.model same
  have input : (attempt.request.inputLen : Int) = request.inputLen := congrArg PreparedRequest.inputLen same
  have output : (attempt.request.outputLen : Int) = request.outputLen := congrArg PreparedRequest.outputLen same
  have found (name : String) := lookup_present (recordFields_distinct (doRequest attempt)) name
  refine ⟨?_, ?_, ?_, ?_⟩
  · rw [found, ← reqId, ← row.reqId]
    rfl
  · rw [found, ← model, ← row.model]
    rfl
  · rw [found, ← input, ← row.inputLen]
    rfl
  · rw [found, ← output, ← row.outputLen]
    rfl

/-- The records of a process are read back as those of the requests it has sent. -/
theorem records_read {requests : String → Option TraceRequest} {attempts : List (Attempt F)} {sent : List TraceRequest}
    (same : attempts.map (fun attempt => prepared attempt.request) = sent.map prepared)
    (known : ∀ request ∈ sent, requests request.reqId = some request) :
    ∃ rows, readRecords requests (attempts.map fun attempt => present (recordFields (doRequest attempt))) = .ok rows ∧
      rows.map Prod.fst = sent ∧ ∀ row ∈ rows, RecordOf row.1 row.2 := by
  induction attempts generalizing sent with
  | nil =>
    have none_sent : sent = [] := List.map_eq_nil_iff.mp same.symm
    exact ⟨[], rfl, none_sent.symm, fun _ listed => absurd listed List.not_mem_nil⟩
  | cons attempt rest ih =>
    cases sent with
    | nil => cases same
    | cons request others =>
      rw [List.map_cons, List.map_cons, List.cons_eq_cons] at same
      obtain ⟨own, later⟩ := List.forall_mem_cons.mp known
      obtain ⟨rows, read, requests_same, records⟩ := ih same.2 later
      have record := record_of same.1
      have identity : (textAt "req_id" (present (recordFields (doRequest attempt)))).getD "" = request.reqId := by
        rw [textAt, record.reqId]
        rfl
      refine ⟨(request, present (recordFields (doRequest attempt))) :: rows, ?_, ?_, ?_⟩
      · unfold readRecords at read ⊢
        rw [List.map_cons, List.mapM_cons, identity, own, ok_bind rfl, ok_bind read]
        rfl
      · rw [List.map_cons, requests_same]
      · exact List.forall_mem_cons.mpr ⟨record, records⟩

omit [GoFloat F] in
theorem requestMap_mem {requests : List TraceRequest} (distinct : (requests.map TraceRequest.reqId).Nodup)
    {request : TraceRequest} (listed : request ∈ requests) : requestMap requests request.reqId = some request := by
  induction requests with
  | nil => cases listed
  | cons first rest ih =>
    obtain ⟨apart, others⟩ := List.nodup_cons.mp distinct
    rcases List.mem_cons.mp listed with rfl | later
    · exact List.find?_cons_of_pos (by simp)
    · have different : ¬ first.reqId = request.reqId := fun same => apart (same ▸ List.mem_map_of_mem later)
      rw [requestMap, List.find?_cons_of_neg (by simpa using different)]
      exact ih others later

variable [LawfulGoFloat F] (trial : Trial F)

/-- What the clock and the servers have said of the requests of a process is in range. -/
def Trial.RawInRange (rank proc : Nat) : Prop :=
  (∀ attempt ∈ (trial.clients rank proc).attempts, attempt.InRange) ∧ 0 ≤ trial.runT0

omit [GoFloat F] [LawfulGoFloat F] in
theorem Trial.share_known (rank : Nat) {request : TraceRequest} (listed : request ∈ trial.share rank) :
    requestMap (trial.share rank) request.reqId = some request := by
  have distinct : ((trial.share rank).map TraceRequest.reqId).Nodup :=
    ((trial.share_sublist rank).map TraceRequest.reqId).nodup trial.trace_distinct
  exact requestMap_mem distinct listed

theorem Trial.processRows_ok {rank proc : Nat} (inside : rank < trial.mpiSize) (within : proc < max 1 trial.numGoProcs)
    (loaded : trial.Loaded rank proc) (range : trial.RawInRange rank proc) :
    ∃ rows, trial.processRows rank proc = .ok rows ∧
      (rows.map Prod.fst).Perm (unmarked (trial.partition rank proc)) ∧ ∀ row ∈ rows, RecordOf row.1 row.2 := by
  have valid := trial.attempts_valid inside within loaded
  obtain ⟨sent, same, prepared_same⟩ := trial.process_sent inside within loaded
  obtain ⟨rows, read, requests, records⟩ := records_read prepared_same fun request listed =>
    trial.share_known rank (trial.sent_mem same listed)
  have file : trial.resultFile false rank proc =
      .ok (streamOf false (run trial.runT0 (trial.clients rank proc)) (trial.clients rank proc).collected) :=
    (ok_bind ((trial.loaded_iff rank proc _).mpr ⟨loaded, rfl⟩) _).trans
      ((process_raw_iff valid (trial.attempts_distinct inside within loaded) _).mpr ⟨range, rfl⟩)
  have stream : (streamOf false (run trial.runT0 (trial.clients rank proc)) (trial.clients rank proc).collected).records =
      (trial.clients rank proc).attempts.map fun attempt => present (recordFields (doRequest attempt)) := by
    show (run trial.runT0 (trial.clients rank proc)).rows.map _ = _
    rw [run_rows valid, List.map_map]
    rfl
  refine ⟨rows, (ok_bind file _).trans ?_, requests ▸ same, records⟩
  rw [stream, read]

theorem Trial.processRows_only {rank proc : Nat} (inside : rank < trial.mpiSize) (within : proc < max 1 trial.numGoProcs)
    {rows : List Row} (read : trial.processRows rank proc = .ok rows) :
    trial.Loaded rank proc ∧ trial.RawInRange rank proc := by
  obtain ⟨stream, file, -⟩ := bind_ok read
  obtain ⟨requests, load, file⟩ := bind_ok file
  have loaded := ((trial.loaded_iff rank proc requests).mp load).1
  have range := (process_raw_iff (trial.attempts_valid inside within loaded) (trial.attempts_distinct inside within loaded)
    stream).mp file
  exact ⟨loaded, range.1⟩

theorem Trial.processRows_facts {rank proc : Nat} (inside : rank < trial.mpiSize) (within : proc < max 1 trial.numGoProcs)
    {rows : List Row} (read : trial.processRows rank proc = .ok rows) :
    (rows.map Prod.fst).Perm (unmarked (trial.partition rank proc)) ∧ ∀ row ∈ rows, RecordOf row.1 row.2 := by
  obtain ⟨loaded, range⟩ := trial.processRows_only inside within read
  obtain ⟨others, same, facts⟩ := trial.processRows_ok inside within loaded range
  rw [read] at same
  cases same
  exact facts

/-- What the processes of a rank bring is what they were dealt, less what was taken for metadata. -/
theorem Trial.parts_facts {rank : Nat} (inside : rank < trial.mpiSize) {parts : List (List Row)}
    (each : trial.procs.mapM (trial.processRows rank) = .ok parts) :
    (parts.flatten.map Prod.fst).Perm (unmarked (trial.share rank)) ∧ ∀ row ∈ parts.flatten, RecordOf row.1 row.2 := by
  have some_proc : 0 < max 1 trial.numGoProcs := lt_max_of_lt_left Nat.one_pos
  have dealt := dealt_rows each fun proc listed part read => trial.processRows_facts inside (List.mem_range.mp listed) read
  exact ⟨dealt.1.trans (unmarked_strides some_proc (trial.share rank)), dealt.2⟩

theorem Trial.rankRows_only {rank : Nat} (inside : rank < trial.mpiSize) {rows : List Row}
    (read : trial.rankRows rank = .ok rows) :
    (∀ proc < max 1 trial.numGoProcs, trial.Loaded rank proc ∧ trial.RawInRange rank proc) ∧
      (rows.map Prod.fst).Perm (unmarked (trial.share rank)) ∧ ∀ row ∈ rows, RecordOf row.1 row.2 := by
  obtain ⟨parts, each, read⟩ := bind_ok read
  obtain ⟨⟨⟩, -, read⟩ := bind_ok read
  cases read
  constructor
  · intro proc within
    obtain ⟨part, done⟩ := mapM_each each proc (List.mem_range.mpr within)
    exact trial.processRows_only inside within done
  · exact trial.parts_facts inside each

theorem Trial.rankRows_ok {rank : Nat} (inside : rank < trial.mpiSize)
    (sound : ∀ proc < max 1 trial.numGoProcs, trial.Loaded rank proc ∧ trial.RawInRange rank proc) :
    ∃ rows, trial.rankRows rank = .ok rows := by
  obtain ⟨parts, each⟩ : ∃ parts, trial.procs.mapM (trial.processRows rank) = .ok parts := by
    apply mapM_some
    intro proc listed
    have within := List.mem_range.mp listed
    obtain ⟨rows, read, -⟩ := trial.processRows_ok inside within (sound proc within).1 (sound proc within).2
    exact ⟨rows, read⟩
  have distinct : (parts.flatten.map fun row => row.1.reqId).Nodup := by
    have dealt := ((trial.parts_facts inside each).1.map TraceRequest.reqId).nodup_iff
    rw [List.map_map] at dealt
    have shared : ((unmarked (trial.share rank)).Sublist trial.trace) :=
      List.filter_sublist.trans (trial.share_sublist rank)
    exact dealt.mpr ((shared.map TraceRequest.reqId).nodup trial.trace_distinct)
  exact ⟨parts.flatten, (ok_bind each _).trans (ok_bind (ensure_ok distinct _) _)⟩

end Rows

section Summed

variable [LawfulGoFloat F] (trial : Trial F)

omit [GoFloat F] [LawfulGoFloat F] in
theorem Trial.procs_cons : trial.procs = 0 :: (List.range (max 1 trial.numGoProcs - 1)).map Nat.succ := by
  have some_proc : max 1 trial.numGoProcs = max 1 trial.numGoProcs - 1 + 1 := by omega
  rw [Trial.procs, some_proc, List.range_succ_eq_map, Nat.add_sub_cancel]

/-- The processes of a rank whose files were all loaded. -/
def Trial.client {rank : Nat} (inside : rank < trial.mpiSize)
    (loaded : ∀ proc < max 1 trial.numGoProcs, trial.Loaded rank proc) : ClientRank F where
  runT0 := trial.runT0
  first := trial.clients rank 0
  rest := ((List.range (max 1 trial.numGoProcs - 1)).map Nat.succ).map (trial.clients rank)
  valid := by
    intro process held
    rw [← List.map_cons, ← trial.procs_cons] at held
    obtain ⟨proc, listed, rfl⟩ := List.mem_map.mp held
    have within := List.mem_range.mp listed
    exact trial.attempts_valid inside within (loaded proc within)
  distinct := by
    intro process held
    rw [← List.map_cons, ← trial.procs_cons] at held
    obtain ⟨proc, listed, rfl⟩ := List.mem_map.mp held
    have within := List.mem_range.mp listed
    exact trial.attempts_distinct inside within (loaded proc within)

omit [GoFloat F] [LawfulGoFloat F] in
theorem Trial.client_processes {rank : Nat} (inside : rank < trial.mpiSize)
    (loaded : ∀ proc < max 1 trial.numGoProcs, trial.Loaded rank proc) :
    (trial.client inside loaded).processes = trial.procs.map (trial.clients rank) := by
  rw [trial.procs_cons]
  rfl

/-- The sums of every process are in range, and none fell back to the start of the run, or some request of the rank
    began no earlier than it. -/
def Trial.SumInRange (rank : Nat) : Prop :=
  0 ≤ trial.runT0 ∧ (∀ proc < max 1 trial.numGoProcs, SumsInRange (trial.clients rank proc)) ∧
    ((∀ proc < max 1 trial.numGoProcs, 0 < (trial.clients rank proc).lastRequestStartAt) ∨
      ∃ proc < max 1 trial.numGoProcs, trial.runT0 ≤ (trial.clients rank proc).lastRequestStartAt)

omit [LawfulGoFloat F] in
theorem Trial.client_acceptable {rank : Nat} (inside : rank < trial.mpiSize)
    (loaded : ∀ proc < max 1 trial.numGoProcs, trial.Loaded rank proc) :
    Acceptable true (trial.client inside loaded) ↔ trial.SumInRange rank := by
  have every (p : ClientProcess F → Prop) : (∀ process ∈ (trial.client inside loaded).processes, p process) ↔
      ∀ proc < max 1 trial.numGoProcs, p (trial.clients rank proc) := by
    rw [trial.client_processes, List.forall_mem_map]
    exact forall_congr' fun proc => imp_congr_left List.mem_range
  have some_one (p : ClientProcess F → Prop) : (∃ process ∈ (trial.client inside loaded).processes, p process) ↔
      ∃ proc < max 1 trial.numGoProcs, p (trial.clients rank proc) := by
    rw [trial.client_processes]
    simp only [List.mem_map, exists_exists_and_eq_and]
    exact exists_congr fun proc => and_congr_left fun _ => List.mem_range
  unfold Acceptable Trial.SumInRange
  rw [if_pos rfl, every, every, some_one]
  rfl

omit [LawfulGoFloat F] in
/-- The rows that the processes of a rank have written a summary of. -/
theorem Trial.written_rows {rank : Nat} (inside : rank < trial.mpiSize)
    (loaded : ∀ proc < max 1 trial.numGoProcs, trial.Loaded rank proc) :
    ((trial.procs.map fun proc => run trial.runT0 (trial.clients rank proc)).flatMap GoProcess.rows).length =
      (unmarked (trial.share rank)).length := by
  have some_proc : 0 < max 1 trial.numGoProcs := lt_max_of_lt_left Nat.one_pos
  have each : ∀ proc ∈ trial.procs, (run trial.runT0 (trial.clients rank proc)).rows.length =
      (unmarked (trial.partition rank proc)).length := by
    intro proc listed
    have within := List.mem_range.mp listed
    obtain ⟨sent, same, prepared_same⟩ := trial.process_sent inside within (loaded proc within)
    have lengths := congrArg List.length prepared_same
    rw [List.length_map, List.length_map] at lengths
    rw [run_rows (trial.attempts_valid inside within (loaded proc within)), List.length_map, lengths, same.length_eq]
  rw [← (unmarked_strides some_proc (trial.share rank)).length_eq, List.flatMap_map, List.length_flatMap, List.length_flatMap]
  exact congrArg List.sum (List.map_congr_left each)

theorem Trial.rankSummary_only {rank : Nat} (inside : rank < trial.mpiSize) {merged : Summary F}
    (summed : trial.rankSummary rank = .ok merged) :
    (∀ proc < max 1 trial.numGoProcs, trial.Loaded rank proc) ∧ trial.SumInRange rank ∧
      merged.requestsScheduled = (unmarked (trial.share rank)).length ∧
        merged.requestsCompleted = (unmarked (trial.share rank)).length := by
  obtain ⟨streams, files, summed⟩ := bind_ok summed
  obtain ⟨result, done, summed⟩ := bind_ok summed
  obtain ⟨⟨⟩, endpoint, summed⟩ := bind_ok summed
  cases summed
  have read : ∀ proc < max 1 trial.numGoProcs, trial.Loaded rank proc ∧ ∃ stream,
      readGoResultStream (writeResults true (run trial.runT0 (trial.clients rank proc)) (trial.clients rank proc).collected) =
        .ok stream := by
    intro proc within
    obtain ⟨stream, file⟩ := mapM_each files proc (List.mem_range.mpr within)
    obtain ⟨requests, load, file⟩ := bind_ok file
    exact ⟨((trial.loaded_iff rank proc requests).mp load).1, stream, file⟩
  have loaded : ∀ proc < max 1 trial.numGoProcs, trial.Loaded rank proc := fun proc within => (read proc within).1
  have agrees : Agrees true (trial.client inside loaded) := by
    constructor
    · intro process held
      rw [trial.client_processes] at held
      obtain ⟨proc, listed, rfl⟩ := List.mem_map.mp held
      obtain ⟨-, stream, file⟩ := read proc (List.mem_range.mp listed)
      have written := ((sum_stream_eq _ (collected_lag (trial.clients rank proc)) stream).mp file).2
      rw [written] at file
      exact file
    · intro _
      refine ⟨merged, ?_, ?_⟩
      · rw [trial.client_processes, List.map_map]
        exact done
      · rw [ClientRank.maxLastFireTime, trial.client_processes, List.map_map]
        exact ensure_holds endpoint
  have totals := merge_totals done
  have summaries : (trial.procs.map fun proc => (run trial.runT0 (trial.clients rank proc)).summary) =
      (trial.procs.map fun proc => run trial.runT0 (trial.clients rank proc)).map GoProcess.summary := by
    rw [List.map_map]
    rfl
  rw [summaries, process_totals, trial.written_rows inside loaded] at totals
  exact ⟨loaded, (trial.client_acceptable inside loaded).mp ((sum_agrees_iff _).mp agrees),
    congrArg Totals.requestsScheduled totals, congrArg Totals.requestsCompleted totals⟩

theorem Trial.rankSummary_ok {rank : Nat} (inside : rank < trial.mpiSize)
    (loaded : ∀ proc < max 1 trial.numGoProcs, trial.Loaded rank proc) (range : trial.SumInRange rank) :
    ∃ merged, trial.rankSummary rank = .ok merged := by
  have agrees := (sum_agrees_iff _).mpr ((trial.client_acceptable inside loaded).mpr range)
  obtain ⟨merged, done, endpoint⟩ := agrees.2 rfl
  rw [trial.client_processes, List.map_map] at done
  rw [ClientRank.maxLastFireTime, trial.client_processes, List.map_map] at endpoint
  have files : ∀ proc ∈ trial.procs, ∃ stream, trial.resultFile true rank proc = .ok stream := by
    intro proc listed
    have within := List.mem_range.mp listed
    have held : trial.clients rank proc ∈ (trial.client inside loaded).processes := by
      rw [trial.client_processes]
      exact List.mem_map_of_mem listed
    exact ⟨_, (ok_bind ((trial.loaded_iff rank proc _).mpr ⟨loaded proc within, rfl⟩) _).trans (agrees.1 _ held)⟩
  obtain ⟨streams, read⟩ := mapM_some files
  exact ⟨merged, (ok_bind read _).trans ((ok_bind done _).trans (ok_bind (ensure_ok endpoint _) _))⟩

end Summed

section Whole

variable [LawfulGoFloat F] (trial : Trial F)

/-- What the clock and the servers have said of the requests of a rank is in range. -/
def Trial.InRange (sumOnly : Bool) (rank : Nat) : Prop :=
  if sumOnly then trial.SumInRange rank else ∀ proc < max 1 trial.numGoProcs, trial.RawInRange rank proc

theorem mem_strides {size : Nat} (positive : 0 < size) {requests : List TraceRequest} {request : TraceRequest}
    (listed : request ∈ requests) : ∃ turn < size, request ∈ stride size turn requests := by
  obtain ⟨turn, inside, dealt⟩ := List.mem_flatMap.mp ((strides_perm positive 0 requests).mem_iff.mpr listed)
  exact ⟨turn, List.mem_range.mp inside, dealt⟩

omit [GoFloat F] [LawfulGoFloat F] in
theorem Trial.all_loaded_iff : (∀ rank < trial.mpiSize, ∀ proc < max 1 trial.numGoProcs, trial.Loaded rank proc) ↔
    ∀ request ∈ trial.trace, Short request ∧ (¬ Marked request → Fits request) := by
  have some_proc : 0 < max 1 trial.numGoProcs := lt_max_of_lt_left Nat.one_pos
  constructor
  · intro loaded request listed
    obtain ⟨rank, inside, shared⟩ := mem_strides trial.some_rank listed
    obtain ⟨proc, within, dealt⟩ := mem_strides some_proc shared
    exact loaded rank inside proc within request dealt
  · intro all rank _ proc _ request dealt
    exact all request ((trial.share_sublist rank).subset ((trial.partition_sublist rank proc).subset dealt))

theorem unmarked_length {requests : List TraceRequest} :
    (unmarked requests).length = requests.length ↔ ∀ request ∈ requests, ¬ Marked request := by
  rw [unmarked, List.length_filter_eq_length_iff]
  simp only [decide_eq_true_eq]

omit [GoFloat F] [LawfulGoFloat F] in
theorem Trial.loadable_iff : (∀ request ∈ trial.trace, Loadable request) ↔
    (∀ request ∈ trial.trace, Short request ∧ (¬ Marked request → Fits request)) ∧
      (unmarked trial.trace).length = trial.trace.length := by
  have marked : ∀ request ∈ trial.trace, (Marked request ↔
      Json.lastSegment request.model.toList = typeWord ∨ Json.lastSegment request.prompt.toList = typeWord) := by
    intro request listed
    obtain ⟨index, inside, rfl⟩ := List.mem_iff_getElem.mp listed
    exact marked_numbered (trace_numbered trial.loaded index _ (List.getElem?_eq_getElem inside))
  rw [unmarked_length]
  constructor
  · intro loadable
    have bare : ∀ request ∈ trial.trace, ¬ Marked request := by
      intro request listed
      rw [marked request listed, not_or]
      exact ⟨(loadable request listed).model, (loadable request listed).prompt⟩
    exact ⟨fun request listed => ⟨(loadable request listed).short, fun _ => (loadable request listed).fits⟩, bare⟩
  · intro both request listed
    have bare := both.2 request listed
    have texts := bare
    rw [marked request listed, not_or] at texts
    exact ⟨(both.1 request listed).1, (both.1 request listed).2 bare, texts.1, texts.2⟩

omit [GoFloat F] [LawfulGoFloat F] in
theorem Trial.shares_perm : (trial.ranks.flatMap fun rank => unmarked (trial.share rank)).Perm (unmarked trial.trace) :=
  unmarked_strides trial.some_rank trial.trace

omit [LawfulGoFloat F] in
theorem Trial.ends : trial.Ends := by
  intro rank proc requests load pool reached
  obtain ⟨-, rfl⟩ := (trial.loaded_iff rank proc requests).mp load
  apply WorkPool.reaches_end _ trial.some_active _ reached
  · intro place item found
    obtain ⟨part, held, inside⟩ := Option.bind_eq_some_iff.mp found
    obtain ⟨worker, -, rfl⟩ := List.mem_map.mp (List.mem_of_getElem? held)
    have listed := (strideFrom_sublist _ _ _ _).subset (List.mem_of_getElem? inside)
    obtain ⟨request, -, rfl⟩ := List.mem_map.mp listed
    exact ⟨⟨request, 0, 0, 0, 0, .unbuilt ""⟩, rfl⟩
  · exact Nat.add_pos_left trial.some_active _

theorem Trial.rows_facts {rows : List (List Row)} (read : trial.ranks.mapM trial.rankRows = .ok rows) :
    (rows.flatten.map Prod.fst).Perm (unmarked trial.trace) ∧ ∀ row ∈ rows.flatten, RecordOf row.1 row.2 := by
  have dealt := dealt_rows read fun rank listed part done => (trial.rankRows_only (List.mem_range.mp listed) done).2
  exact ⟨dealt.1.trans trial.shares_perm, dealt.2⟩

theorem Trial.raw_iff : AccountedOnce trial false ↔
    (∀ request ∈ trial.trace, Loadable request) ∧ ∀ rank < trial.mpiSize, trial.InRange false rank := by
  rw [trial.loadable_iff, ← trial.all_loaded_iff]
  unfold AccountedOnce Trial.InRange
  rw [and_iff_right trial.ends]
  simp only [Bool.false_eq_true, if_false]
  constructor
  · intro accounted
    obtain ⟨rows, read, same, -⟩ := accounted
    have facts : ∀ rank < trial.mpiSize, ∀ proc < max 1 trial.numGoProcs,
        trial.Loaded rank proc ∧ trial.RawInRange rank proc := by
      intro rank inside
      obtain ⟨part, done⟩ := mapM_each read rank (List.mem_range.mpr inside)
      exact (trial.rankRows_only inside done).1
    refine ⟨⟨fun rank inside proc within => (facts rank inside proc within).1, ?_⟩,
      fun rank inside proc within => (facts rank inside proc within).2⟩
    rw [← (trial.rows_facts read).1.length_eq, same.length_eq]
  · intro sound
    obtain ⟨rows, read⟩ : ∃ rows, trial.ranks.mapM trial.rankRows = .ok rows := by
      apply mapM_some
      intro rank listed
      have inside := List.mem_range.mp listed
      exact trial.rankRows_ok inside fun proc within => ⟨sound.1.1 rank inside proc within, sound.2 rank inside proc within⟩
    have facts := trial.rows_facts read
    have whole : unmarked trial.trace = trial.trace := List.filter_sublist.eq_of_length sound.1.2
    exact ⟨rows, read, whole ▸ facts.1, facts.2⟩

theorem Trial.sums {merged : List (Summary F)} (read : trial.ranks.mapM trial.rankSummary = .ok merged) :
    (merged.map Summary.requestsScheduled).sum = (unmarked trial.trace).length ∧
      (merged.map Summary.requestsCompleted).sum = (unmarked trial.trace).length := by
  have each : List.Forall₂ (fun rank (summary : Summary F) => summary.requestsScheduled = (unmarked (trial.share rank)).length ∧
      summary.requestsCompleted = (unmarked (trial.share rank)).length) trial.ranks merged := by
    have both := (List.forall₂_and_left (p := (· ∈ trial.ranks)) _ _).mpr ⟨fun rank listed => listed, forall₂_of_mapM read⟩
    exact both.imp fun rank summary here => (trial.rankSummary_only (List.mem_range.mp here.1) here.2).2.2
  rw [← trial.shares_perm.length_eq, List.length_flatMap]
  clear read
  generalize trial.ranks = ranks at each ⊢
  induction each with
  | nil => exact ⟨rfl, rfl⟩
  | cons here _ ih =>
    simp only [List.map_cons, List.sum_cons, here.1, here.2, ih.1, ih.2, Nat.cast_add, and_self]

theorem Trial.sum_iff : AccountedOnce trial true ↔
    (∀ request ∈ trial.trace, Loadable request) ∧ ∀ rank < trial.mpiSize, trial.InRange true rank := by
  rw [trial.loadable_iff, ← trial.all_loaded_iff]
  unfold AccountedOnce Trial.InRange
  rw [and_iff_right trial.ends]
  simp only [if_true]
  constructor
  · intro accounted
    obtain ⟨merged, read, scheduled, -⟩ := accounted
    have facts : ∀ rank < trial.mpiSize, (∀ proc < max 1 trial.numGoProcs, trial.Loaded rank proc) ∧
        trial.SumInRange rank := by
      intro rank inside
      obtain ⟨summary, done⟩ := mapM_each read rank (List.mem_range.mpr inside)
      have only := trial.rankSummary_only inside done
      exact ⟨only.1, only.2.1⟩
    refine ⟨⟨fun rank inside => (facts rank inside).1, ?_⟩, fun rank inside => (facts rank inside).2⟩
    rw [(trial.sums read).1] at scheduled
    exact_mod_cast scheduled
  · intro sound
    obtain ⟨merged, read⟩ : ∃ merged, trial.ranks.mapM trial.rankSummary = .ok merged := by
      apply mapM_some
      intro rank listed
      have inside := List.mem_range.mp listed
      exact trial.rankSummary_ok inside (sound.1.1 rank inside) (sound.2 rank inside)
    have sums := trial.sums read
    rw [sound.1.2] at sums
    exact ⟨merged, read, sums⟩

/-- The replay accounts for every request once exactly when each is loaded by the client as it was written and what
    the clocks and the servers have said is in range. -/
theorem replay_accounts_iff (sumOnly : Bool) (trial : Trial F) : AccountedOnce trial sumOnly ↔
    (∀ request ∈ trial.trace, Loadable request) ∧ ∀ rank < trial.mpiSize, trial.InRange sumOnly rank := by
  cases sumOnly with
  | false => exact trial.raw_iff
  | true => exact trial.sum_iff

end Whole

section Single

def plainFloat : Json → FloatOf
  | .float value => .finite value
  | _ => .overflow

def asciiBytes (text : String) : Bytes := text.toList.map fun c => UInt8.ofNat c.toNat

/-- A trace of one request with a prompt. -/
def promptRow (prompt : String) : Bytes :=
  asciiBytes ("\x7b\"timestamp\": 0.0, \"model\": \"m\", \"prompt\": \"" ++ prompt ++ "\", \"output_len\": 1\x7d\n")

def promptRequest (prompt : String) : TraceRequest :=
  ⟨zeroTimestamp, "m", prompt, 0, 1, 1, "00000000000000000000000000000000", "chat"⟩

/-- A request that was answered in its second nanosecond. -/
def answeredAt (request : TraceRequest) : Attempt Nanoseconds :=
  ⟨request, ⟨1⟩, ⟨1⟩, ⟨1⟩, ⟨2⟩, .answered ⟨1⟩ ⟨2⟩ 200 "" none none⟩

def client (slots : List (Option (Attempt Nanoseconds))) : ClientProcess Nanoseconds := ⟨[slots], [], 1, 0, 0⟩

theorem idle_ran : Ran (dispatchPool Nanoseconds 1 1 0 []) (client []) := by
  refine ⟨WorkPool.start, .refl, ⟨?_, rfl, rfl, rfl⟩, rfl⟩
  intro turn
  cases turn with
  | zero => rfl
  | succ turn => rfl

theorem single_ran (request : TraceRequest) :
    Ran (dispatchPool Nanoseconds 1 1 0 [prepared request]) (client [some (answeredAt request)]) := by
  have acquired := @WorkPool.Step.acquire _ _ (dispatchPool Nanoseconds 1 1 0 [prepared request]) WorkPool.start 0
    (prepared request) List.not_mem_nil rfl Nat.zero_lt_one
  have handed := @WorkPool.Step.hand _ _ (dispatchPool Nanoseconds 1 1 0 [prepared request])
    { WorkPool.start with holders := [0], outstanding := 1 } 0 (prepared request) List.mem_cons_self rfl rfl Nat.zero_lt_one
  have sent := (((Relation.ReflTransGen.single acquired).tail handed).tail
    (@WorkPool.Step.store _ _ _ _ [] [] ⟨(0, 0), prepared request⟩ (answeredAt request) rfl rfl)).tail (.release Nat.zero_lt_one)
  refine ⟨_, sent, ⟨?_, rfl, rfl, rfl⟩, rfl⟩
  intro turn
  cases turn with
  | zero => rfl
  | succ turn => rfl

theorem single_load {prompt : String} {slots : List (Option (Attempt Nanoseconds))}
    (whole : Ran (dispatchPool Nanoseconds 1 1 0 ((unmarked [promptRequest prompt]).map prepared)) (client slots)) :
    ∀ rank < 1, ∀ proc < max 1 1, ∀ requests,
      loadRequests (writeTracePartition (stride (max 1 1) proc (stride 1 rank [promptRequest prompt]))) = .ok requests →
        Ran (dispatchPool Nanoseconds 1 1 0 requests) (client slots) := by
  intro rank inside proc within requests load
  obtain rfl : rank = 0 := by omega
  obtain rfl : proc = 0 := by omega
  rw [((loadRequests_iff _ requests).mp load).2]
  exact whole

/-- The replay of one request over one process. -/
def singleTrial (prompt : String)
    (loaded : loadTraceRequests plainFloat (.ok (promptRow prompt)) none = .ok [promptRequest prompt])
    (slots : List (Option (Attempt Nanoseconds)))
    (whole : Ran (dispatchPool Nanoseconds 1 1 0 ((unmarked [promptRequest prompt]).map prepared)) (client slots)) :
    Trial Nanoseconds where
  float := plainFloat
  content := promptRow prompt
  trace := [promptRequest prompt]
  loaded
  mpiSize := 1
  some_rank := Nat.one_pos
  numGoProcs := 1
  numGoWorkers := 1
  maxActive := 1
  some_active := Nat.one_pos
  queueCapacity := 0
  runT0 := ⟨1⟩
  clients _ _ := client slots
  ran := single_load whole

theorem typeWord_loaded :
    loadTraceRequests plainFloat (.ok (promptRow "__type__")) none = .ok [promptRequest "__type__"] := by decide +kernel

/-- A request whose prompt is the name of the metadata field: the client passes over its line, and no row is written
    for it. -/
theorem typeWord_lost : ¬ AccountedOnce (singleTrial "__type__" typeWord_loaded [] idle_ran) false := by
  rw [Trial.raw_iff]
  intro accounted
  exact (accounted.1 (promptRequest "__type__") List.mem_cons_self).prompt (by decide)

theorem greeting_loaded :
    loadTraceRequests plainFloat (.ok (promptRow "hi")) none = .ok [promptRequest "hi"] := by decide +kernel

/-- The same replay of another prompt. -/
theorem greeting_accounted : AccountedOnce
    (singleTrial "hi" greeting_loaded [some (answeredAt (promptRequest "hi"))] (single_ran (promptRequest "hi"))) false := by
  rw [replay_accounts_iff]
  constructor
  · intro request listed
    obtain rfl := List.mem_singleton.mp listed
    refine ⟨?_, by decide, by decide, by decide⟩
    unfold Short scannerBytes
    decide +kernel
  · intro rank _ proc _
    refine ⟨?_, by decide⟩
    intro attempt sent
    obtain rfl : attempt = answeredAt (promptRequest "hi") := List.mem_singleton.mp sent
    exact ⟨nofun, nofun, by decide, by decide, by decide, by decide, by decide, by decide, by decide, by decide⟩

end Single

end ExaServe.Replay
