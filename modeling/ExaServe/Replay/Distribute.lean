import ExaServe.Lib.Except
import ExaServe.Lib.Stride
import ExaServe.Replay.Trace

namespace ExaServe.Replay

open Lib

/-- The lines of a file, each with its end of line. -/
def fileLines : Bytes → List Bytes
  | [] => []
  | byte :: rest =>
    if byte = 10 then [byte] :: fileLines rest
    else match fileLines rest with
      | [] => [[byte]]
      | line :: others => (byte :: line) :: others

@[irreducible] def traceBatchBytes : Nat := 2 ^ 20

variable (float : Json → FloatOf)

section Load

/-- The handler of the single reader: these are kept until the hash has been compared. -/
def Failure.deferred : Failure → Bool
  | .value _ | .unicode | .type _ => true
  | .overflow | .runtime _ => false

structure Loading where
  requests : List TraceRequest
  parseError : Option Failure

def loadLine (hashed : Bool) (loading : Loading) (line : Bytes) : Except Failure Loading :=
  if loading.parseError.isSome then .ok loading
  else match traceRequestFromLine float line loading.requests.length with
    | .ok (some request) => .ok { loading with requests := loading.requests ++ [request] }
    | .ok none => .ok loading
    | .error failure =>
      if hashed && failure.deferred then .ok { loading with parseError := some failure } else .error failure

/-- `_load_trace_requests` of a file that can be opened, or of one that cannot. -/
def loadTraceRequests (file : Except Failure Bytes) (expectedHash : Option String) :
    Except Failure (List TraceRequest) := do
  let content ← file
  let loading ← (fileLines content).foldlM (loadLine float expectedHash.isSome) ⟨[], none⟩
  match expectedHash with
  | some hash =>
    if Sha256.hexdigest content ≠ hash then .error (.runtime "trace checksum mismatch")
    else loading.parseError.elim (.ok loading.requests) .error
  | none => loading.parseError.elim (.ok loading.requests) .error

end Load

section Distribute

def zeroTimestamp : FloatText := ⟨"0.0".toList, by decide⟩

def lastTimestampOf (requests : List TraceRequest) : FloatText :=
  (requests.getLast?.map TraceRequest.timestamp).getD zeroTimestamp

structure Status where
  error : Option Failure
  total : Nat
  lastTimestamp : FloatText

/-- A collective call as its root makes it, with what it sends. -/
inductive Collective where
  | scatter (parts : List (Option (List TraceRequest)))
  | bcast (status : Status)

/-- What one rank returns: its requests, how many there are over all ranks, and when the last is due. -/
abbrev Share := List TraceRequest × Nat × FloatText

structure Root where
  partitions : List (List TraceRequest)
  bufferedBytes : Nat
  total : Nat
  lastTimestamp : FloatText
  localRequests : List TraceRequest
  calls : List Collective

variable (mpiSize : Nat)

def emptyPartitions : List (List TraceRequest) := List.replicate mpiSize []

def Root.start : Root := ⟨emptyPartitions mpiSize, 0, 0, zeroTimestamp, [], []⟩

def Root.scatter (root : Root) : Root :=
  { root with
    localRequests := root.localRequests ++ root.partitions.head?.getD []
    calls := root.calls ++ [Collective.scatter (root.partitions.map some)]
    partitions := emptyPartitions mpiSize
    bufferedBytes := 0 }

def Root.take (root : Root) (line : Bytes) (request : TraceRequest) : Root :=
  let taken := { root with
    partitions := root.partitions.modify (root.total % mpiSize) (· ++ [request])
    bufferedBytes := root.bufferedBytes + line.length
    total := root.total + 1
    lastTimestamp := request.timestamp }
  if taken.bufferedBytes ≥ traceBatchBytes then taken.scatter mpiSize else taken

/-- The loop over the lines, with the exception that ends it. -/
def Root.readLines (root : Root) : List Bytes → Root × Option Failure
  | [] => (root, none)
  | line :: rest => match traceRequestFromLine float line root.total with
    | .error failure => (root, some failure)
    | .ok none => root.readLines rest
    | .ok (some request) => (root.take mpiSize line request).readLines rest

def Root.flush (root : Root) : Root := if root.partitions.any (· ≠ []) then root.scatter mpiSize else root

/-- What follows the loop, unless an exception ended it. -/
def Root.finish (content : Bytes) (expectedHash : String) : Root × Option Failure → Root × Option Failure
  | (root, some failure) => (root, some failure)
  | (root, none) => (root.flush mpiSize,
      if Sha256.hexdigest content ≠ expectedHash then some (.runtime "trace content hash mismatch") else none)

/-- The body of the root's `try`: what it has done, and the exception it caught. -/
def Root.readTrace (file : Except Failure Bytes) (expectedHash : String) : Root × Option Failure :=
  match file with
  | .error failure => (Root.start mpiSize, some failure)
  | .ok content => Root.finish mpiSize content expectedHash
      ((Root.start mpiSize).readLines float mpiSize (fileLines content))

/-- The root's collective calls, and how its own call of `_distribute_trace_requests` ends. -/
def rootRun (file : Except Failure Bytes) (expectedHash : String) : List Collective × Except Failure Share :=
  if expectedHash = "" then ([], .error (.runtime "root trace input is missing"))
  else
    let (root, error) := Root.readTrace float mpiSize file expectedHash
    let status : Status := ⟨error, root.total, root.lastTimestamp⟩
    (root.calls ++ [Collective.scatter (List.replicate mpiSize none), .bcast status],
      match error with
      | some _ => .error (.runtime "root trace validation failed")
      | none => .ok (root.localRequests, root.total, root.lastTimestamp))

/-- How the run of another rank ends: it returns or raises after the calls that remain, or it waits in a
    collective that the root never calls. -/
inductive WorkerEnd where
  | ended (result : Except Failure Share) (remaining : List Collective)
  | waiting

/-- The loop of another rank, against the collectives of the root in their order. -/
def workerRun (rank : Nat) (localRequests : List TraceRequest) : List Collective → WorkerEnd
  | .scatter parts :: rest => match parts[rank]?.getD none with
    | some part => workerRun rank (localRequests ++ part) rest
    | none => match rest with
      | .bcast status :: remaining => match status.error with
        | some _ => .ended (.error (.runtime "root trace validation failed")) remaining
        | none => .ended (.ok (localRequests, status.total, status.lastTimestamp)) remaining
      | _ => .waiting
  | _ => .waiting

/-- How `_distribute_trace_requests` ends on a rank, when the collectives deliver in call order. -/
def rankRun (file : Except Failure Bytes) (expectedHash : String) (rank : Nat) : WorkerEnd :=
  if mpiSize ≤ 1 then
    if rank ≠ 0 ∨ expectedHash = "" then .ended (.error (.runtime "single-rank trace input is missing on root")) []
    else .ended ((loadTraceRequests float file (some expectedHash)).map fun requests =>
      (requests, requests.length, lastTimestampOf requests)) []
  else
    let (calls, result) := rootRun float mpiSize file expectedHash
    if rank = 0 then .ended result [] else workerRun rank [] calls

end Distribute

section Agreement

/-- The requests of the rows before the first that fails, and its failure. -/
def parseLines (read : List TraceRequest) : List Bytes → List TraceRequest × Option Failure
  | [] => (read, none)
  | line :: rest => match traceRequestFromLine float line read.length with
    | .error failure => (read, some failure)
    | .ok none => parseLines read rest
    | .ok (some request) => parseLines (read ++ [request]) rest

variable {float} {mpiSize : Nat}

theorem load_failed {loading : Loading} (failed : loading.parseError.isSome = true) (hashed : Bool) (lines : List Bytes) :
    lines.foldlM (loadLine float hashed) loading = .ok loading := by
  induction lines with
  | nil => rfl
  | cons line rest ih =>
    have step : loadLine float hashed loading line = .ok loading := if_pos failed
    rw [List.foldlM_cons, ok_bind step]
    exact ih

/-- The single reader, over the rows before the first that fails. -/
theorem loadLines_eq (read : List TraceRequest) (lines : List Bytes) :
    lines.foldlM (loadLine float true) ⟨read, none⟩ =
      match parseLines float read lines with
      | (requests, none) => .ok ⟨requests, none⟩
      | (requests, some failure) => if failure.deferred then .ok ⟨requests, some failure⟩ else .error failure := by
  induction lines generalizing read with
  | nil => rfl
  | cons line rest ih =>
    rw [List.foldlM_cons, parseLines]
    cases row : traceRequestFromLine float line read.length with
    | error failure =>
      cases kept : failure.deferred with
      | true =>
        have step : loadLine float true ⟨read, none⟩ line = .ok ⟨read, some failure⟩ := by
          simp [loadLine, row, kept]
        rw [ok_bind step, load_failed rfl]
        simp [kept]
      | false =>
        have step : loadLine float true ⟨read, none⟩ line = .error failure := by
          simp [loadLine, row, kept]
        rw [step]
        simp [kept, bind, Except.bind]
    | ok found =>
      cases found with
      | none =>
        have step : loadLine float true ⟨read, none⟩ line = .ok ⟨read, none⟩ := by
          simp [loadLine, row]
        rw [ok_bind step]
        exact ih read
      | some request =>
        have step : loadLine float true ⟨read, none⟩ line = .ok ⟨read ++ [request], none⟩ := by
          simp [loadLine, row]
        rw [ok_bind step]
        exact ih (read ++ [request])

/-- One scattered batch. -/
def deal (parts : List (List TraceRequest)) : Collective := .scatter (parts.map some)

/-- What a rank has received of the batches scattered so far. -/
def received (rank : Nat) (batches : List (List (List TraceRequest))) : List TraceRequest :=
  batches.flatMap fun parts => parts[rank]?.getD []

/-- What the root has read is dealt out in turns: partly scattered, partly still in its partitions. -/
structure Dealt (mpiSize : Nat) (root : Root) (read : List TraceRequest) (batches : List (List (List TraceRequest))) :
    Prop where
  total : root.total = read.length
  last : root.lastTimestamp = lastTimestampOf read
  width : root.partitions.length = mpiSize
  widths : ∀ parts ∈ batches, parts.length = mpiSize
  calls : root.calls = batches.map deal
  own : root.localRequests = received 0 batches
  shares : ∀ rank < mpiSize, received rank batches ++ root.partitions[rank]?.getD [] = stride mpiSize rank read

theorem dealt_start : Dealt mpiSize (Root.start mpiSize) [] [] where
  total := rfl
  last := rfl
  width := List.length_replicate
  widths parts listed := by cases listed
  calls := rfl
  own := rfl
  shares rank below := by
    simp [received, Root.start, emptyPartitions, below]

theorem received_concat (rank : Nat) (batches : List (List (List TraceRequest))) (parts : List (List TraceRequest)) :
    received rank (batches ++ [parts]) = received rank batches ++ parts[rank]?.getD [] := by
  simp [received, List.flatMap_append]

theorem Dealt.scatter {root : Root} {read : List TraceRequest} {batches : List (List (List TraceRequest))}
    (dealt : Dealt mpiSize root read batches) :
    Dealt mpiSize (root.scatter mpiSize) read (batches ++ [root.partitions]) where
  total := dealt.total
  last := dealt.last
  width := List.length_replicate
  widths parts listed := by
    rcases List.mem_append.mp listed with earlier | new
    · exact dealt.widths parts earlier
    · rw [List.mem_singleton.mp new]
      exact dealt.width
  calls := by
    rw [List.map_append, ← dealt.calls]
    rfl
  own := by
    rw [received_concat, ← dealt.own, ← List.head?_eq_getElem?]
    rfl
  shares rank below := by
    have empty : (emptyPartitions mpiSize)[rank]?.getD [] = [] := by simp [emptyPartitions, below]
    rw [received_concat, dealt.shares rank below]
    show _ ++ (emptyPartitions mpiSize)[rank]?.getD [] = _
    rw [empty, List.append_nil]

theorem Dealt.take {root : Root} {read : List TraceRequest} {batches : List (List (List TraceRequest))}
    (dealt : Dealt mpiSize root read batches) (line : Bytes) (request : TraceRequest) :
    ∃ batches, Dealt mpiSize (root.take mpiSize line request) (read ++ [request]) batches := by
  have taken : Dealt mpiSize { root with
      partitions := root.partitions.modify (root.total % mpiSize) (· ++ [request])
      bufferedBytes := root.bufferedBytes + line.length
      total := root.total + 1
      lastTimestamp := request.timestamp } (read ++ [request]) batches := by
    refine ⟨?_, ?_, ?_, dealt.widths, dealt.calls, dealt.own, ?_⟩
    · rw [List.length_append, ← dealt.total]
      rfl
    · simp [lastTimestampOf]
    · rw [List.length_modify]
      exact dealt.width
    · intro rank below
      have held : rank < root.partitions.length := by rw [dealt.width]; exact below
      have before := dealt.shares rank below
      rw [List.getElem?_eq_getElem held, Option.getD_some] at before
      rw [stride_concat, ← before, ← dealt.total, List.getElem?_modify, List.getElem?_eq_getElem held]
      by_cases mine : root.total % mpiSize = rank
      · simp [mine]
      · simp [mine]
  unfold Root.take
  simp only
  split_ifs
  · exact ⟨_, taken.scatter⟩
  · exact ⟨_, taken⟩

theorem Dealt.readLines {root : Root} {read : List TraceRequest} {batches : List (List (List TraceRequest))}
    (dealt : Dealt mpiSize root read batches) (lines : List Bytes) :
    (∃ batches, Dealt mpiSize (root.readLines float mpiSize lines).1 (parseLines float read lines).1 batches) ∧
      (root.readLines float mpiSize lines).2 = (parseLines float read lines).2 := by
  induction lines generalizing root read batches with
  | nil => exact ⟨⟨batches, dealt⟩, rfl⟩
  | cons line rest ih =>
    rw [Root.readLines, parseLines, dealt.total]
    cases row : traceRequestFromLine float line read.length with
    | error failure => exact ⟨⟨batches, dealt⟩, rfl⟩
    | ok found =>
      cases found with
      | none => exact ih dealt
      | some request =>
        obtain ⟨more, taken⟩ := dealt.take line request
        exact ih taken

theorem Dealt.flush {root : Root} {read : List TraceRequest} {batches : List (List (List TraceRequest))}
    (dealt : Dealt mpiSize root read batches) :
    ∃ batches, Dealt mpiSize (root.flush mpiSize) read batches ∧
      ∀ rank < mpiSize, received rank batches = stride mpiSize rank read := by
  unfold Root.flush
  split_ifs with some_left
  · refine ⟨_, dealt.scatter, fun rank below => ?_⟩
    rw [received_concat]
    exact dealt.shares rank below
  · refine ⟨batches, dealt, fun rank below => ?_⟩
    have empty : root.partitions[rank]?.getD [] = [] := by
      have held : rank < root.partitions.length := by rw [dealt.width]; exact below
      rw [List.getElem?_eq_getElem held, Option.getD_some]
      by_contra nonempty
      exact some_left (List.any_eq_true.mpr ⟨_, List.getElem_mem held, by simpa using nonempty⟩)
    have share := dealt.shares rank below
    rwa [empty, List.append_nil] at share

/-- Another rank takes its part of every batch and goes on to what follows. -/
theorem workerRun_batches {rank : Nat} (below : rank < mpiSize) {batches : List (List (List TraceRequest))}
    (widths : ∀ parts ∈ batches, parts.length = mpiSize) (localRequests : List TraceRequest) (rest : List Collective) :
    workerRun rank localRequests (batches.map deal ++ rest) = workerRun rank (localRequests ++ received rank batches) rest := by
  induction batches generalizing localRequests with
  | nil => simp [received]
  | cons parts more ih =>
    have held : rank < parts.length := by rw [widths parts List.mem_cons_self]; exact below
    have part : (parts.map some)[rank]?.getD none = some parts[rank] := by
      rw [List.getElem?_map, List.getElem?_eq_getElem held]
      rfl
    have next : workerRun rank localRequests (deal parts :: (more.map deal ++ rest)) =
        workerRun rank (localRequests ++ parts[rank]) (more.map deal ++ rest) := by
      simp only [deal, workerRun, part]
    rw [List.map_cons, List.cons_append, next, ih fun other listed => widths other (List.mem_cons_of_mem _ listed)]
    rw [List.append_assoc]
    congr 1
    simp [received, List.getElem?_eq_getElem held]

theorem workerRun_terminal {rank : Nat} (below : rank < mpiSize) (localRequests : List TraceRequest) (status : Status) :
    workerRun rank localRequests [.scatter (List.replicate mpiSize none), .bcast status] =
      .ended (match status.error with
        | some _ => .error (.runtime "root trace validation failed")
        | none => .ok (localRequests, status.total, status.lastTimestamp)) [] := by
  have none_left : (List.replicate mpiSize (none : Option (List TraceRequest)))[rank]?.getD none = none := by
    simp [below]
  rw [workerRun, none_left]
  cases status.error <;> simp

theorem load_eq (content : Bytes) (expectedHash : String) :
    loadTraceRequests float (.ok content) (some expectedHash) =
      match parseLines float [] (fileLines content) with
      | (requests, none) =>
        if Sha256.hexdigest content ≠ expectedHash then .error (.runtime "trace checksum mismatch") else .ok requests
      | (_, some failure) =>
        if failure.deferred ∧ Sha256.hexdigest content ≠ expectedHash then .error (.runtime "trace checksum mismatch")
        else .error failure := by
  unfold loadTraceRequests
  rw [ok_bind rfl]
  show (_ >>= _) = _
  rw [Option.isSome_some, loadLines_eq]
  rcases parseLines float [] (fileLines content) with ⟨requests, _ | failure⟩
  · rfl
  · cases kept : failure.deferred with
    | true =>
      by_cases same : Sha256.hexdigest content = expectedHash
      · simp [kept, same, bind, Except.bind]
      · simp [kept, same, bind, Except.bind]
    | false => simp [kept, bind, Except.bind]

theorem load_nil : loadTraceRequests float (.ok []) (some (Sha256.hexdigest [])) = .ok [] := by
  rw [load_eq]
  simp [fileLines, parseLines]

theorem hexdigest_ne_empty (message : Bytes) : Sha256.hexdigest message ≠ "" := by
  intro empty
  have length := Sha256.hexdigest_length message
  rw [empty] at length
  cases length

/-- The root gathers what the single reader loads, or fails where it fails. -/
theorem readTrace_agrees (file : Except Failure Bytes) (expectedHash : String) :
    ∃ requests batches, Dealt mpiSize (Root.readTrace float mpiSize file expectedHash).1 requests batches ∧
      match loadTraceRequests float file (some expectedHash) with
      | .ok loaded => (Root.readTrace float mpiSize file expectedHash).2 = none ∧ loaded = requests ∧
          ∀ rank < mpiSize, received rank batches = stride mpiSize rank requests
      | .error _ => ∃ failure, (Root.readTrace float mpiSize file expectedHash).2 = some failure := by
  cases file with
  | error failure => exact ⟨[], [], dealt_start, failure, rfl⟩
  | ok content =>
    have start : Dealt mpiSize (Root.start mpiSize) [] [] := dealt_start
    have walked : (∃ batches, Dealt mpiSize ((Root.start mpiSize).readLines float mpiSize (fileLines content)).1
        (parseLines float [] (fileLines content)).1 batches) ∧
        ((Root.start mpiSize).readLines float mpiSize (fileLines content)).2 =
          (parseLines float [] (fileLines content)).2 := start.readLines _
    rw [load_eq]
    simp only [Root.readTrace]
    generalize (Root.start mpiSize).readLines float mpiSize (fileLines content) = read at walked ⊢
    obtain ⟨root, error⟩ := read
    obtain ⟨⟨batches, dealt⟩, same⟩ := walked
    generalize parseLines float [] (fileLines content) = parsed at dealt same ⊢
    obtain ⟨requests, failure⟩ := parsed
    cases same
    cases error with
    | some failure =>
      refine ⟨requests, batches, dealt, ?_⟩
      simp only [Root.finish]
      split_ifs <;> exact ⟨_, rfl⟩
    | none =>
      obtain ⟨flushed, held, shares⟩ := dealt.flush
      refine ⟨requests, flushed, held, ?_⟩
      by_cases matched : Sha256.hexdigest content = expectedHash
      · simpa [Root.finish, matched] using shares
      · simp [Root.finish, matched]

theorem stuck_free {requests : List TraceRequest} {batches : List (List (List TraceRequest))} {root : Root}
    (dealt : Dealt mpiSize root requests batches) {rank : Nat} (below : rank < mpiSize) (status : Status) :
    workerRun rank [] (root.calls ++ [Collective.scatter (List.replicate mpiSize none), .bcast status]) =
      .ended (match status.error with
        | some _ => .error (.runtime "root trace validation failed")
        | none => .ok (received rank batches, status.total, status.lastTimestamp)) [] := by
  rw [dealt.calls, workerRun_batches below dealt.widths, workerRun_terminal below, List.nil_append]

end Agreement

end ExaServe.Replay
