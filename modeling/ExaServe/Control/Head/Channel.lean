import ExaServe.Compat.Receipt
import ExaServe.Control.Session.Coordinator
import ExaServe.Control.Transport.Listener

namespace ExaServe.Control

open Lib Plan Compat

def maxHeadDiagnosticRecords : Nat := 4096

/-- `_BoundedDiagnosticList.append`: the oldest record goes, or the second one
    where the first is the cause to keep. -/
def appendBounded {β : Type} (preserveFirst : Bool) (records : List β) (record : β) : List β :=
  if records.length < maxHeadDiagnosticRecords then records ++ [record]
  else if preserveFirst then records.eraseIdx 1 ++ [record]
  else records.eraseIdx 0 ++ [record]

/-- A mutation handed to the ordered durability worker. -/
inductive DurableJob where
  | acceptReceipt (rank : Int) (node : Option String) (receipt : RawReceipt)
  | stageReceipts (rank : Int) (payloads : List (List (String × Json)))
  | commitReceipts (rank : Int)
  | dropRank (rank : Int)

/-- What a `HeadChannel` is built for. `plannedReceiptIds` is absent without a ledger. -/
structure HeadConfig where
  deploymentId : String
  planHash : String
  generation : Int
  allocation : Allocation
  controlLimits : Json
  plannedReceiptIds : Option (List String)

namespace HeadConfig

def expectedRanks (config : HeadConfig) : Nat := config.allocation.binding.rankToNode.length

def durableLimit (config : HeadConfig) : Nat :=
  max 256 ((config.plannedReceiptIds.getD []).length * 2 + config.expectedRanks * 4)

def listener (config : HeadConfig) : ListenerConfig where
  deploymentId := config.deploymentId
  planHash := config.planHash
  generation := config.generation
  expectedRanks := config.expectedRanks
  expectedNodes := Dict.ofKeys config.allocation.binding.ranks fun rank =>
    (config.allocation.binding.nodeFor rank).getD ""
  limits := config.allocation.limits
  controlLimits := config.controlLimits

end HeadConfig

structure HeadChannel where
  coordinator : Coordinator
  failures : List String := []
  receiptPayloads : List (Int × List (String × Json)) := []
  receiptRejections : List String := []
  disconnected : List Int := []
  unexpectedDisconnects : List Int := []
  observationsByRank : Dict Int (Dict (String × String) ComponentObservation) := Dict.empty
  observationArrivals : Dict (Int × String × String) Time := Dict.empty
  durablePending : List DurableJob := []
  durableClosed : Bool := false

/-- What the head does outside the listener's callbacks. -/
inductive HeadAction where
  | beginRegistration
  | start
  | requestDrain (rank : Int)
  | reportTransport
  | pollLeases
  | checkRegistrationDeadline
  | checkGraceDeadlines
  | reportTerminal
  | durableDone
  | closeDurable

namespace HeadChannel

variable (config : HeadConfig) (clock : Time)

def create : HeadChannel := { coordinator := .create config.allocation }

def addFailure (h : HeadChannel) (failure : String) : HeadChannel :=
  { h with failures := appendBounded true h.failures failure }

def addRejection (h : HeadChannel) (rejection : String) : HeadChannel :=
  { h with receiptRejections := appendBounded true h.receiptRejections rejection }

/-- `_submit_durable`. -/
def submitDurable (h : HeadChannel) (job : DurableJob) : Except Raised HeadChannel :=
  if h.durableClosed then .error (.other "RuntimeError" "durable receipt writer is closed")
  else if config.durableLimit ≤ h.durablePending.length then
    .error (.contract "durable receipt queue capacity exhausted; refusing unbounded evidence")
  else .ok { h with durablePending := h.durablePending ++ [job] }

def submitted (h : HeadChannel) (job : DurableJob) : HeadChannel × Except Raised Unit :=
  match h.submitDurable config job with
  | .error error => (h, .error error)
  | .ok queued => (queued, .ok ())

def receiptFailureText : ReceiptFailure → String
  | .receiptError message => message
  | .typeError message => message

def requirementName (payload : List (String × Json)) : String :=
  match Json.lookup "receipt_requirement_id" payload with
  | some (.str text) => text
  | _ => "<invalid>"

/-- Rank-owned receipts arrive here; only planned slots go on to the ledger. -/
def onReceipt (h : HeadChannel) (rank : Int) (payload : List (String × Json)) :
    HeadChannel × Except Raised Unit :=
  let recorded := { h with receiptPayloads := appendBounded false h.receiptPayloads (rank, payload) }
  match config.plannedReceiptIds with
  | none => (recorded, .ok ())
  | some planned =>
    let requirement := requirementName payload
    if requirement ∉ planned then
      (recorded.addRejection s!"rank {rank} {requirement}: no such planned requirement", .ok ())
    else match receiptFromDict payload with
      | .error failure =>
        let reason := receiptFailureText failure
        (recorded.addRejection s!"rank {rank} {requirement}: {reason}", .ok ())
      | .ok receipt =>
        let node := (recorded.coordinator.sessions.get? rank).map RankSession.nodeId
        recorded.submitted config (.acceptReceipt rank node receipt)

/-- The components a rank may publish, with their roles. -/
def allowedComponents (rank : Int) : List (String × String) :=
  [(s!"rank{rank}", "rank"), ("ray", "ray"), ("serve_proxy", "serve_proxy"),
    ("node_diagnostics", "diagnostics")] ++
    if rank = 0 then [("ray_head_endpoint", "ray_head_endpoint")] else []

def observationContractReason (rank : Int) (obs : ComponentObservation) : Option String :=
  match (allowedComponents rank).find? fun entry => entry.1 = obs.componentId with
  | none => some s!"rank {rank} published unplanned component {quotedText obs.componentId}"
  | some (_, role) =>
    if obs.role ≠ role then
      some s!"rank {rank} component {quotedText obs.componentId} has role {quotedText obs.role}; expected {quotedText role}"
    else none

def failureDetail (obs : ComponentObservation) : String :=
  match obs.detail.filter (· ≠ ""), obs.reasonCode.filter (· ≠ "") with
  | some detail, _ => detail
  | none, some reason => reason
  | none, none => "no detail"

def recordObservationFailure (h : HeadChannel) (rank : Int) (obs : ComponentObservation) : HeadChannel :=
  if obs.state = .failed then
    h.addFailure s!"rank {rank} component {obs.componentId}: {failureDetail obs}"
  else h

def onObservation (h : HeadChannel) (rank : Int) (obs : ComponentObservation) :
    HeadChannel × Except Raised Unit :=
  match observationContractReason rank obs with
  | some reason => (h, .error (.contract reason))
  | none =>
    let projection := (h.observationsByRank.get? rank).getD Dict.empty
    let projected := { h with
      observationsByRank :=
        h.observationsByRank.insert rank (projection.insert (obs.componentId, obs.instanceId) obs)
      observationArrivals := h.observationArrivals.insert (rank, obs.componentId, obs.instanceId) clock }
    (projected.recordObservationFailure rank obs, .ok ())

def onRegister (h : HeadChannel) (rank : Int) (nodeId instanceId : String) :
    HeadChannel × Except Raised (Bool × String) :=
  let (coordinator, verdict) := h.coordinator.onRegister config.allocation clock rank nodeId instanceId
  ({ h with coordinator }, .ok verdict)

def supervisorId (rank : Int) : String := s!"rank{rank}/node_supervisor"

def namesSupervisor (rank : Int) (payload : List (String × Json)) : Bool :=
  match Json.lookup "receipt_requirement_id" payload with
  | some (.str text) => text = supervisorId rank
  | _ => false

def stagedObservations (snapshot : PendingSnapshot) : Dict (String × String) ComponentObservation :=
  snapshot.observations.foldl (fun d obs => d.insert (obs.componentId, obs.instanceId) obs) Dict.empty

/-- `_on_snapshot` up to the staging future. -/
def snapshotArrived (h : HeadChannel) (rank : Int) (snapshot : PendingSnapshot) :
    HeadChannel × SnapshotAnswer :=
  if !snapshot.receipts.any (namesSupervisor rank) then
    (h, .refused s!"required supervisor receipt {quotedText (supervisorId rank)} is missing")
  else match (stagedObservations snapshot).values.findSome? (observationContractReason rank) with
    | some reason => (h, .refused reason)
    | none =>
      match h.submitDurable config (.stageReceipts rank snapshot.receipts) with
      | .error error => (h, .raised error)
      | .ok queued => (queued, .staging)

def forgetArrivals (h : HeadChannel) (rank : Int) : HeadChannel :=
  { h with observationArrivals := h.observationArrivals.filterKeys fun key => key.1 ≠ rank }

/-- The accepted snapshot replaces the rank's projection. -/
def publishSnapshot (h : HeadChannel) (rank : Int) (snapshot : PendingSnapshot) : HeadChannel :=
  let staged := stagedObservations snapshot
  let replaced := { h.forgetArrivals rank with
    observationsByRank := h.observationsByRank.insert rank staged }
  let arrived := { replaced with
    observationArrivals := staged.keys.foldl (fun d key => d.insert (rank, key.1, key.2) clock)
      replaced.observationArrivals
    receiptPayloads := snapshot.receipts.foldl (fun records payload =>
      appendBounded false records (rank, payload)) replaced.receiptPayloads }
  staged.values.foldl (fun recorded obs => recorded.recordObservationFailure rank obs) arrived

/-- The session state machine's part: one declared chunk that holds every item. -/
def projectSnapshot (c : Coordinator) (rank : Int) (snapshot : PendingSnapshot) :
    Coordinator × (Bool × String) :=
  match Coordinator.beginSnapshot config.allocation clock c rank snapshot.snapshotId 1 snapshot.hash with
  | (begun, false, detail) => (begun, false, detail)
  | (begun, true, _) =>
    match Coordinator.addSnapshotChunk config.allocation clock begun rank 0
        (snapshot.items.map SnapshotItem.toJson) with
    | (added, false, detail) => (added, false, detail)
    | (added, true, _) => Coordinator.completeSnapshot clock added rank (some snapshot.hash) true

/-- `_on_snapshot` from the staged ledger to the commit future. -/
def snapshotStaged (h : HeadChannel) (rank : Int) (snapshot : PendingSnapshot) (outcome : StageOutcome) :
    HeadChannel × SnapshotAnswer :=
  match outcome with
  | .error error => (h, .refused s!"snapshot receipt staging failed: {error.described}")
  | .ok (false, detail, _) => (h.addRejection s!"rank {rank}: {detail}", .refused detail)
  | .ok (true, _, staged) =>
    match projectSnapshot config clock h.coordinator rank snapshot with
    | (coordinator, false, detail) => ({ h with coordinator }, .refused detail)
    | (coordinator, true, _) =>
      let projected := { h with coordinator }
      if staged then
        match projected.submitDurable config (.commitReceipts rank) with
        | .error error => (projected, .raised error)
        | .ok queued => (queued, .committing)
      else (projected.publishSnapshot clock rank snapshot, .accepted)

def snapshotCommitted (h : HeadChannel) (rank : Int) (snapshot : PendingSnapshot)
    (outcome : Except Raised Unit) : HeadChannel × SnapshotAnswer :=
  match outcome with
  | .error error => (h, .refused s!"durable snapshot commit failed: {error.described}")
  | .ok () => (h.publishSnapshot clock rank snapshot, .accepted)

def onSnapshotAck (h : HeadChannel) (rank : Int) (result : CommandResult) :
    HeadChannel × Except Raised (Bool × String) :=
  match result.snapshot with
  | none => (h, .ok (false, "snapshot_id must be a nonempty string"))
  | some (snapshotId, completeSetHash) =>
    let (coordinator, verdict) := Coordinator.acknowledgeSnapshot clock h.coordinator rank
      result.commandId snapshotId completeSetHash result.ok
    ({ h with coordinator }, .ok verdict)

def onProtocolViolation (h : HeadChannel) (rank : Int) (reason : String) : HeadChannel × Except Raised Unit :=
  let violated := { h with coordinator := h.coordinator.protocolViolation rank reason }
  (violated.addFailure s!"rank {rank}: protocol violation: {reason}", .ok ())

def onHeartbeat (h : HeadChannel) (rank : Int) : HeadChannel × Except Raised Unit :=
  ({ h with coordinator := h.coordinator.onHeartbeat clock rank }, .ok ())

/-- The rank's evidence leaves with an unexpected disconnect. -/
def dropEvidence (h : HeadChannel) (rank : Int) (expected : Bool) : HeadChannel × Except Raised Unit :=
  if config.plannedReceiptIds.isSome && !expected then h.submitted config (.dropRank rank) else (h, .ok ())

def onSessionChange (h : HeadChannel) (rank : Int) (connected expected : Bool) :
    HeadChannel × Except Raised Unit :=
  if connected then
    ({ h with unexpectedDisconnects := h.unexpectedDisconnects.filter (· ≠ rank) }, .ok ())
  else
    let lost := { h with coordinator := (h.coordinator.onDisconnect clock rank expected).1 }
    match lost.dropEvidence config rank expected with
    | (kept, .error error) => (kept, .error error)
    | (dropped, .ok ()) =>
      let forgotten := { dropped.forgetArrivals rank with
        observationsByRank := dropped.observationsByRank.erase rank }
      let listed := { forgotten with disconnected := appendBounded false forgotten.disconnected rank }
      if expected || listed.unexpectedDisconnects.contains rank then (listed, .ok ())
      else ({ listed with unexpectedDisconnects := listed.unexpectedDisconnects ++ [rank] }, .ok ())

def addNewFailure (h : HeadChannel) (failure : Option String) : HeadChannel :=
  match failure with
  | some text => if text = "" || h.failures.contains text then h else h.addFailure text
  | none => h

/-- The head's own actions; `poll` is its reports and its three checks in turn. -/
def act (transportFailure : Option String) (h : HeadChannel) : HeadAction → HeadChannel
  | .beginRegistration => { h with coordinator := h.coordinator.beginRegistration clock }
  | .start => { h with coordinator := h.coordinator.start.1 }
  | .requestDrain rank => { h with coordinator := h.coordinator.requestDrain rank }
  | .reportTransport => h.addNewFailure transportFailure
  | .pollLeases => { h with coordinator := (h.coordinator.pollLeases config.allocation clock).1 }
  | .checkRegistrationDeadline =>
    { h with coordinator := h.coordinator.checkRegistrationDeadline config.allocation clock }
  | .checkGraceDeadlines =>
    { h with coordinator := (h.coordinator.checkGraceDeadlines config.allocation clock).1 }
  | .reportTerminal => h.addNewFailure h.coordinator.terminalReason
  | .durableDone => { h with durablePending := h.durablePending.drop 1 }
  | .closeDurable => { h with durableClosed := true }

/-- The callbacks the head gives its listener. -/
def callbacks : Callbacks HeadChannel HeadAction where
  onRegister clock h rank nodeId instanceId := h.onRegister config clock rank nodeId instanceId
  onObservation clock h rank obs := h.onObservation clock rank obs
  onReceipt _ h rank payload := h.onReceipt config rank payload
  onSnapshot := some
    { arrived := fun _ h rank snapshot => h.snapshotArrived config rank snapshot
      staged := fun clock h rank snapshot outcome => h.snapshotStaged config clock rank snapshot outcome
      committed := fun clock h rank snapshot outcome => h.snapshotCommitted clock rank snapshot outcome }
  onSnapshotAck clock h rank result := h.onSnapshotAck clock rank result
  onProtocolViolation _ h rank reason := h.onProtocolViolation rank reason
  onHeartbeat clock h rank := h.onHeartbeat clock rank
  onSessionChange clock h rank connected expected := h.onSessionChange config clock rank connected expected
  act clock transportFailure h action := h.act config clock transportFailure action

end HeadChannel

/-- A listener that a head channel owns. -/
abbrev Head := Listener HeadChannel

namespace Head

variable (config : HeadConfig)

def create : Head := { owner := HeadChannel.create config }

def step : Head → Time × HeadEvent HeadAction → Head :=
  Listener.step config.listener (HeadChannel.callbacks config)

end Head

end ExaServe.Control
