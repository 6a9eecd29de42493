import ExaServe.Control.Transport.NodeChannel

namespace ExaServe.Control

open Lib Plan

/-- Receipt requirement, component and instance. -/
abbrev ReceiptKey := String × String × String

def requiredPayloadText (payload : List (String × Json)) (key : String) : Except Raised String :=
  nonemptyText s!"{key} must be a nonempty string" (Json.lookup key payload)

def receiptKey (payload : List (String × Json)) : Except Raised ReceiptKey :=
  match requiredPayloadText payload "receipt_requirement_id",
      (Json.lookup "component_id" payload).getD (.str ""),
      (Json.lookup "instance_id" payload).getD (.str "") with
  | .error error, _, _ => .error error
  | .ok requirementId, .str componentId, .str instanceId => .ok (requirementId, componentId, instanceId)
  | .ok _, _, _ => .error (.contract "receipt component_id/instance_id must be strings when present")

/-- The arguments of `observe`, with the wall clock it reads. -/
structure ObserveRequest where
  componentId : String
  state : ComponentState
  role : String := "component"
  reasonCode : Option String := none
  detail : Option String := none
  instanceId : Option String := none
  modelId : Option String := none
  replicaId : Option String := none
  observedAt : Number

inductive Request where
  | observe (request : ObserveRequest)
  | submitReceipt (payload : List (String × Json))

/-- What the coroutine of an application call sends. -/
inductive Message where
  | observation (obs : ComponentObservation)
  | receipt (payload : List (String × Json)) (key : ReceiptKey)

namespace Message

def kind : Message → EnvelopeKind
  | observation _ => .observation
  | receipt _ _ => .receipt

def payload : Message → List (String × Json)
  | observation obs => [("payload_version", .int 1), ("observation", .obj obs.toDict)]
  | receipt payload _ => [("payload_version", .int 1), ("receipt", .obj payload)]

end Message

/-- Where one call of an application thread and its coroutine stand. `tested` is the
    writer that was current when the thread read the established flag; `waiting` is
    false once the thread has given up on the coroutine. -/
inductive Call where
  | unused
  | entered (request : Request)
  | scheduled (message : Message) (tested : Option Nat) (waiting : Bool)
  | draining (message : Message) (waiting : Bool)
  | done (message : Message) (outcome : Except Raised Unit)
  | returned (delivered : Bool)

/-- The causes `_control_failure` may name. -/
inductive ControlFailure where
  | observationDelivery (error : Raised)
  | receiptDelivery (error : Raised)
  | startReceive (operation : Operation) (error : Raised)
  | preStartHeartbeat (error : Raised)
  | unexpectedStart (expected : Operation) (received : String)
  | limitsInvalid
  | protocolViolation (message : String)
  | leaseLost (grace : Time) (lastFailure : String)
  | unexpectedCommand (operation : String)
  | acknowledgment (operation : Operation) (error : Raised)

/-- The local variables of `_maintain_control_lease`. -/
structure Lease where
  interval : Time
  lease : Time
  grace : Time
  lastAck : Time

/-- The local variables of its reconnect loop. -/
structure Loss where
  deadline : Time
  backoff : Time
  failure : String

/-- The client code that drives the channel: the calls of the main thread up to START,
    then the maintenance task, keeping the lease or reconnecting. -/
inductive Purpose where
  | connect
  | establish (observations : List ComponentObservation) (receipt : List (String × Json)) (key : ReceiptKey)
  | pollStart (operation : Operation)
  | lease (lease : Lease)
  | reconnect (lease : Lease) (loss : Loss)

/-- The await at which it is suspended. -/
inductive Wait where
  | closing
  | opening
  | registering
  | acknowledging
  | writingChunk (snapshotId : String) (rest : List (List (String × Json)))
  | awaitingAccepted (snapshotId hash : String)
  | answeringAccepted (snapshotId : String) (result : CommandResult)
  | writingHeartbeat (heartbeatId : String) (timeout : Time)
  | awaitingEcho (heartbeatId : String) (deadline : Time)
  | receiving
  | answering (result : CommandResult)
  | replaying
  | sleeping
  | backingOff

/-- `created`, `registered` and `gated` are the main thread between its calls. -/
inductive Activity where
  | created
  | registered
  | gated
  | waiting (purpose : Purpose) (wait : Wait)
  | ended

/-- The rank-side client and its channel. Connections are numbered in the order they
    are opened, and `wire` is what was written on each. -/
structure RankClient where
  channel : NodeChannel
  pid : Nat
  present : Bool := false
  writer : Option Nat := none
  opened : Nat := 0
  wire : List (Nat × Envelope) := []
  seq : Int := 0
  connected : Bool := false
  established : Bool := false
  startReceived : Bool := false
  snapshotObservations : Dict (String × String) ComponentObservation := Dict.empty
  snapshotReceipts : Dict ReceiptKey (List (String × Json)) := Dict.empty
  controlLimits : Option DefaultLimits := none
  controlFailure : Option ControlFailure := none
  shutdownOperation : Option Operation := none
  lastControlAck : Option Time := none
  calls : Nat → Call := fun _ => .unused
  activity : Activity := .created

inductive RankEvent where
  | connect
  | establish (observations : List ComponentObservation) (receipt : List (String × Json))
  | pollStart (operation : Operation)
  | expire
  | closed (failure : Option String)
  | opened
  | openFailed (error : Raised)
  | drained
  | drainFailed (error : Raised)
  | frame (env : Envelope)
  | readFailed (error : Raised)
  | wake
  | enter (call : Nat) (request : Request)
  | schedule (call : Nat)
  | start (call : Nat)
  | callDrained (call : Nat) (outcome : Except Raised Unit)
  | callExpired (call : Nat)
  | callCancelled (call : Nat)
  | finish (call : Nat)

def Raised.isConnectionError : Raised → Bool
  | .contract _ => false
  | .other type _ => type ∈ ["ConnectionError", "ConnectionResetError", "ConnectionAbortedError",
      "ConnectionRefusedError", "BrokenPipeError"]

def Raised.isTimeout : Raised → Bool
  | .contract _ => false
  | .other type _ => type = "TimeoutError"

/-- `_read_head_envelope` names every loss of the connection alike. -/
def Raised.ofRead : Raised → Raised
  | .other type message =>
    if Raised.isConnectionError (.other type message) ∨ type = "IncompleteReadError" then
      .other "ConnectionError" "supervisor control channel closed"
    else .other type message
  | error => error

namespace RankClient

def instanceId (client : RankClient) : String := s!"{client.channel.nodeId}:{client.pid}"

def wait (client : RankClient) (purpose : Purpose) (wait : Wait) : RankClient :=
  { client with activity := .waiting purpose wait }

def setCall (client : RankClient) (call : Nat) (state : Call) : RankClient :=
  { client with calls := fun other => if other = call then state else client.calls other }

/-- `_write`, up to its await. -/
def write (client : RankClient) (kind : EnvelopeKind) (payload : List (String × Json)) :
    RankClient × Except Raised Unit :=
  match client.writer with
  | none => (client, (client.channel.write .closed kind payload).2.2)
  | some c =>
    let sent := client.channel.write .ready kind payload
    ({ client with channel := sent.1, wire := client.wire ++ sent.2.1.map fun env => (c, env) }, sent.2.2)

/-- The start of `connect_and_register`: an earlier connection is closed first. -/
def connectAndRegister (client : RankClient) (purpose : Purpose) : RankClient :=
  match client.writer with
  | some _ => client.wait purpose .closing
  | none => client.wait purpose .opening

/-- After the reconnect loop. -/
def reconnectOver (client : RankClient) (lease : Lease) (loss : Loss) : RankClient :=
  if client.established then client.wait (.lease lease) .sleeping
  else { client with controlFailure := some (.leaseLost lease.grace loss.failure), activity := .ended }

/-- The head of the reconnect loop. -/
def attempt (clock : Time) (client : RankClient) (lease : Lease) (loss : Loss) : RankClient :=
  if clock < loss.deadline then client.connectAndRegister (.reconnect lease loss)
  else client.reconnectOver lease loss

def backOff (client : RankClient) (lease : Lease) (loss : Loss) (error : Raised) : RankClient :=
  client.wait (.reconnect lease { loss with
    failure := error.described, backoff := min (loss.backoff * 2) (max (1 / 4) lease.interval) }) .backingOff

/-- The handlers of the lease loop: a violation ends it, everything else is a loss. -/
def loseLease (clock : Time) (client : RankClient) (lease : Lease) (error : Raised) : RankClient :=
  match error with
  | .contract message =>
    { client with controlFailure := some (.protocolViolation message), activity := .ended }
  | .other _ _ =>
    let lossTime := if error.isConnectionError then clock else max clock (lease.lastAck + lease.lease)
    { client with connected := false, established := false }.attempt clock lease
      { deadline := lossTime + lease.grace, backoff := min (1 / 4) (max (1 / 20) (lease.interval / 4))
        failure := "no reconnect attempt completed" }

def startFailure (operation : Operation) (error : Raised) : Wait → Option ControlFailure
  | .receiving => some (.startReceive operation error)
  | .writingHeartbeat _ _ => some (.preStartHeartbeat error)
  | .awaitingEcho _ _ => some (.preStartHeartbeat error)
  | _ => none

/-- An exception leaves the coroutine and reaches the code that drives it. -/
def raise (clock : Time) (client : RankClient) (purpose : Purpose) (wait : Wait) (error : Raised) :
    RankClient :=
  match purpose with
  | .connect => { client with writer := none, present := false, connected := false, activity := .ended }
  | .establish _ _ _ => { client with connected := false, established := false, activity := .ended }
  | .pollStart operation =>
    { client with connected := false, established := false, activity := .gated
                  controlFailure := startFailure operation error wait <|> client.controlFailure }
  | .lease lease =>
    match wait with
    | .answering result =>
      { client with controlFailure := some (.acknowledgment result.operation error), activity := .ended }
    | _ => client.loseLease clock lease error
  | .reconnect lease loss => client.backOff lease loss error

def writeThen (clock : Time) (client : RankClient) (purpose : Purpose) (kind : EnvelopeKind)
    (payload : List (String × Json)) (wait : Wait) : RankClient :=
  match client.write kind payload with
  | (client, .error error) => client.raise clock purpose wait error
  | (client, .ok ()) => client.wait purpose wait

/-- `connect_and_register` once the connection is open. -/
def register (clock : Time) (client : RankClient) (purpose : Purpose) : RankClient :=
  { client with writer := some client.opened, opened := client.opened + 1 }.writeThen clock purpose .register
    (NodeChannel.registerPayload client.instanceId) .registering

/-- `send_command_result`, up to its await. -/
def sendResult (clock : Time) (client : RankClient) (purpose : Purpose) (wait : Wait)
    (result : CommandResult) : RankClient :=
  match client.channel.resultRefusal result with
  | some error => client.raise clock purpose wait error
  | none => client.writeThen clock purpose .commandResult (NodeChannel.resultPayload result) wait

def succeeded (command : Command) (operation : Operation) : CommandResult :=
  { commandId := command.commandId, operation, ok := true, detail := "", snapshot := none }

/-- `poll_start` on the command it received. -/
def startCommand (clock : Time) (client : RankClient) (operation : Operation) (command : Command) :
    RankClient :=
  if command.operation ≠ operation.value then
    { client with connected := false, established := false, activity := .gated
                  controlFailure := some (.unexpectedStart operation command.operation) }
  else client.sendResult clock (.pollStart operation) (.answering (succeeded command operation))
    (succeeded command operation)

/-- `_handle_runtime_command`. -/
def runtimeCommand (clock : Time) (client : RankClient) (lease : Lease) (command : Command) : RankClient :=
  match client.channel.replayedResult command with
  | .error error => client.raise clock (.lease lease) .replaying error
  | .ok (some result) =>
    client.writeThen clock (.lease lease) .commandResult (NodeChannel.resultPayload result) .replaying
  | .ok none =>
    match [Operation.drain, Operation.stop].find? fun operation => operation.value = command.operation with
    | none => { client with controlFailure := some (.unexpectedCommand command.operation), activity := .ended }
    | some operation => client.sendResult clock (.lease lease) (.answering (succeeded command operation))
        (succeeded command operation)

/-- What is done with the outcome of a `receive_command` call. -/
def commanded (clock : Time) (client : RankClient) (purpose : Purpose) (wait : Wait)
    (outcome : Except Raised Command) : RankClient :=
  match outcome, wait, purpose with
  | .error error, _, _ => client.raise clock purpose wait error
  | .ok command, .awaitingAccepted snapshotId hash, _ =>
    match NodeChannel.acceptanceResult command snapshotId hash with
    | .error error => client.raise clock purpose wait error
    | .ok result => client.sendResult clock purpose (.answeringAccepted snapshotId result) result
  | .ok command, _, .pollStart operation => client.startCommand clock operation command
  | .ok command, _, .lease lease => client.runtimeCommand clock lease command
  | .ok _, _, _ => client

/-- `receive_command`: a queued command is taken at once, else the head is awaited. -/
def receiveCommand (clock : Time) (client : RankClient) (purpose : Purpose) (wait : Wait) : RankClient :=
  match client.channel.pendingHeadCommands with
  | [] => client.wait purpose wait
  | command :: rest =>
    let popped := { client.channel with pendingHeadCommands := rest }
    match popped.rememberReceivedCommand command with
    | .error error => { client with channel := popped }.commanded clock purpose wait (.error error)
    | .ok (channel, command) => { client with channel }.commanded clock purpose wait (.ok command)

def commandFrame (clock : Time) (client : RankClient) (purpose : Purpose) (wait : Wait) (env : Envelope) :
    RankClient :=
  match client.channel.validateHeadEnvelope env with
  | .error error => client.commanded clock purpose wait (.error error)
  | .ok seen =>
    match seen.takeCommand env with
    | .error error => { client with channel := seen }.commanded clock purpose wait (.error error)
    | .ok (channel, command) => { client with channel }.commanded clock purpose wait (.ok command)

/-- `await_snapshot_accepted`, up to its first await. -/
def awaitSnapshotAccepted (clock : Time) (client : RankClient) (purpose : Purpose) (snapshotId : String) :
    RankClient :=
  match client.channel.snapshotHashes.get? snapshotId with
  | none => client.raise clock purpose (.awaitingAccepted snapshotId "")
      (.contract s!"unknown local snapshot {quotedText snapshotId}")
  | some hash => client.receiveCommand clock purpose (.awaitingAccepted snapshotId hash)

/-- The chunks of `send_snapshot` that are still owed, and then its caller. -/
def writeChunks (clock : Time) (client : RankClient) (purpose : Purpose) (snapshotId : String)
    (payloads : List (List (String × Json))) : RankClient :=
  match payloads, purpose with
  | payload :: rest, _ => client.writeThen clock purpose .snapshot payload (.writingChunk snapshotId rest)
  | [], .reconnect lease loss =>
    if loss.deadline ≤ clock then client.reconnectOver lease loss
    else client.awaitSnapshotAccepted clock purpose snapshotId
  | [], _ => client.awaitSnapshotAccepted clock purpose snapshotId

def sendSnapshot (clock : Time) (client : RankClient) (purpose : Purpose)
    (observations : List ComponentObservation) (receipts : List (List (String × Json))) : RankClient :=
  match client.channel.prepareSnapshot observations receipts "" 256 with
  | .error error => client.raise clock purpose (.writingChunk "" []) error
  | .ok (channel, snapshotId, payloads) =>
    { client with channel }.writeChunks clock purpose snapshotId payloads

/-- `connect_and_register` has returned. -/
def registered (clock : Time) (client : RankClient) (purpose : Purpose) : RankClient :=
  match purpose with
  | .connect => { client with connected := true, activity := .registered }
  | .reconnect lease loss =>
    if loss.deadline ≤ clock then client.reconnectOver lease loss
    else client.sendSnapshot clock purpose client.snapshotObservations.values client.snapshotReceipts.values
  | _ => client

def acknowledged (clock : Time) (client : RankClient) (purpose : Purpose) (env : Envelope) : RankClient :=
  match client.channel.validateHeadEnvelope env with
  | .error error => client.raise clock purpose .acknowledging error
  | .ok seen =>
    match NodeChannel.registrationLimits env with
    | .error error => { client with channel := seen }.raise clock purpose .acknowledging error
    | .ok limits =>
      { client with channel := { seen with limits }, controlLimits := some limits }.registered clock purpose

/-- `heartbeat_round_trip`, up to its first await. -/
def heartbeatRoundTrip (clock : Time) (client : RankClient) (purpose : Purpose) (timeout : Time) :
    RankClient :=
  let counter := client.channel.heartbeatCounter + 1
  let heartbeatId := s!"{client.channel.rank}:{counter}"
  { client with channel := { client.channel with heartbeatCounter := counter } }.writeThen clock purpose
    .heartbeat [("payload_version", .int 1), ("heartbeat_id", .str heartbeatId)]
    (.writingHeartbeat heartbeatId timeout)

def alive (clock : Time) (client : RankClient) (purpose : Purpose) : RankClient :=
  match purpose with
  | .pollStart _ => { client with lastControlAck := some clock, activity := .gated }
  | .lease lease => { client with lastControlAck := some clock }.receiveCommand clock
      (.lease { lease with lastAck := clock }) .receiving
  | _ => client

def echoed (clock : Time) (client : RankClient) (purpose : Purpose) (heartbeatId : String) (deadline : Time)
    (env : Envelope) : RankClient :=
  let wait := Wait.awaitingEcho heartbeatId deadline
  match client.channel.validateHeadEnvelope env with
  | .error error => client.raise clock purpose wait error
  | .ok seen =>
    match seen.takeHeartbeat heartbeatId env with
    | .error error => { client with channel := seen }.raise clock purpose wait error
    | .ok none => { client with channel := seen }.alive clock purpose
    | .ok (some channel) =>
      if deadline ≤ clock then { client with channel }.raise clock purpose wait
        (.other "TimeoutError" "heartbeat acknowledgment timed out")
      else { client with channel }.wait purpose wait

/-- `poll_start` keeps the lease when no command came. -/
def preStartHeartbeat (clock : Time) (client : RankClient) (operation : Operation) : RankClient :=
  let wait := Wait.writingHeartbeat "" 0
  match client.controlLimits, client.lastControlAck with
  | none, _ => client.raise clock (.pollStart operation) wait
      (.other "ValueError" "resolved control lease timeout is invalid")
  | some _, none => client.raise clock (.pollStart operation) wait
      (.other "RuntimeError" "initial control acknowledgment is missing")
  | some limits, some lastAck =>
    if lastAck + limits.leaseTimeoutS ≤ clock then client.raise clock (.pollStart operation) wait
      (.other "TimeoutError" "pre-start control lease expired")
    else client.heartbeatRoundTrip clock (.pollStart operation) (lastAck + limits.leaseTimeoutS - clock)

/-- `receive_command` has returned nothing within its timeout. -/
def noCommand (clock : Time) (client : RankClient) (purpose : Purpose) : RankClient :=
  match purpose with
  | .establish _ _ _ => { client with established := false, activity := .ended }
  | .reconnect lease loss => client.attempt clock lease loss
  | .pollStart operation => client.preStartHeartbeat clock operation
  | .lease lease => client.wait (.lease lease) .sleeping
  | .connect => client

def readFailed (clock : Time) (client : RankClient) (purpose : Purpose) (wait : Wait) (error : Raised) :
    RankClient :=
  match wait with
  | .acknowledging => client.raise clock purpose wait error
  | .awaitingEcho _ _ => client.raise clock purpose wait error.ofRead
  | .receiving =>
    if error.isTimeout then client.noCommand clock purpose
    else client.raise clock purpose wait error.ofRead
  | .awaitingAccepted _ _ =>
    if error.isTimeout then client.noCommand clock purpose
    else client.raise clock purpose wait error.ofRead
  | _ => client

def startMaintenance (clock : Time) (client : RankClient) : RankClient :=
  match client.controlLimits with
  | none => { client with controlFailure := some .limitsInvalid, activity := .ended }
  | some limits =>
    let lastAck := match client.lastControlAck with
      | none => clock
      | some ack => if ack = 0 then clock else ack
    client.wait (.lease { interval := limits.heartbeatIntervalS, lease := limits.leaseTimeoutS
                          grace := limits.reconnectGraceS, lastAck }) .sleeping

/-- `await_snapshot_accepted` has returned true. -/
def accepted (clock : Time) (client : RankClient) (purpose : Purpose) : RankClient :=
  match purpose with
  | .establish observations receipt key =>
    { client with
        established := true, lastControlAck := some clock, activity := .gated
        snapshotObservations := observations.foldl
          (fun kept obs => kept.insert (obs.componentId, obs.instanceId) obs) Dict.empty
        snapshotReceipts := client.snapshotReceipts.insert key receipt }
  | .reconnect lease _ =>
    { client with connected := true, established := true }.wait (.lease { lease with lastAck := clock })
      .sleeping
  | _ => client

/-- The coroutine goes on after the drain of its write. -/
def drained (clock : Time) (client : RankClient) (purpose : Purpose) (wait : Wait) : RankClient :=
  match wait, purpose with
  | .registering, _ => client.wait purpose .acknowledging
  | .writingChunk snapshotId rest, _ => client.writeChunks clock purpose snapshotId rest
  | .answeringAccepted snapshotId result, _ =>
    let recorded := client.channel.recordResult result
    { client with channel := { recorded with
        snapshotHashes := recorded.snapshotHashes.erase snapshotId } }.accepted clock purpose
  | .writingHeartbeat heartbeatId timeout, _ =>
    client.wait purpose (.awaitingEcho heartbeatId (clock + timeout))
  | .answering result, .pollStart _ =>
    { client with channel := client.channel.recordResult result, startReceived := true }.startMaintenance clock
  | .answering result, _ =>
    { client with channel := client.channel.recordResult result
                  shutdownOperation := some result.operation, activity := .ended }
  | .replaying, _ => client.wait purpose .sleeping
  | _, _ => client

def drainFailed (clock : Time) (client : RankClient) (purpose : Purpose) (wait : Wait) (error : Raised) :
    RankClient :=
  match wait with
  | .registering => client.raise clock purpose wait error
  | .writingChunk _ _ => client.raise clock purpose wait error
  | .answeringAccepted _ _ => client.raise clock purpose wait error
  | .writingHeartbeat _ _ => client.raise clock purpose wait error
  | .answering _ => client.raise clock purpose wait error
  | .replaying => client.raise clock purpose wait error
  | _ => client

def frame (clock : Time) (client : RankClient) (purpose : Purpose) (wait : Wait) (env : Envelope) :
    RankClient :=
  match wait with
  | .acknowledging => client.acknowledged clock purpose env
  | .awaitingAccepted _ _ => client.commandFrame clock purpose wait env
  | .receiving => client.commandFrame clock purpose wait env
  | .awaitingEcho heartbeatId deadline => client.echoed clock purpose heartbeatId deadline env
  | _ => client

def wake (clock : Time) (client : RankClient) (purpose : Purpose) (wait : Wait) : RankClient :=
  match wait, purpose with
  | .sleeping, .lease lease =>
    client.heartbeatRoundTrip clock purpose (max (1 / 1000) (lease.lastAck + lease.lease - clock))
  | .backingOff, .reconnect lease loss => client.attempt clock lease loss
  | _, _ => client

/-- `previous.wait_closed()` has returned or raised; the writer is gone either way. -/
def closed (clock : Time) (client : RankClient) (purpose : Purpose) (failure : Option String) : RankClient :=
  match failure with
  | none => { client with writer := none }.wait purpose .opening
  | some text => { client with writer := none }.raise clock purpose .closing
      (.other "ConnectionError" s!"previous control connection cleanup failed: {text}")

def establish (clock : Time) (client : RankClient) (observations : List ComponentObservation)
    (receipt : List (String × Json)) : RankClient :=
  if !client.connected then { client with activity := .ended }
  else match receiptKey receipt with
    | .error _ => { client with connected := false, established := false, activity := .ended }
    | .ok key => client.sendSnapshot clock (.establish observations receipt key) observations [receipt]

def makeObservation (client : RankClient) (request : ObserveRequest) : ComponentObservation :=
  { deploymentId := client.channel.deploymentId, planHash := client.channel.planHash
    generation := client.channel.generation, componentId := request.componentId
    instanceId := match request.instanceId with
      | some named => if named = "" then client.instanceId else named
      | none => client.instanceId
    sequence := client.seq + 1, ownerScope := .rank, role := request.role, nodeId := client.channel.nodeId
    state := request.state, observedAt := request.observedAt, ownerRank := some client.channel.rank
    modelId := request.modelId, replicaId := request.replicaId, reasonCode := request.reasonCode
    detail := request.detail }

/-- The thread has passed both tests and hands its coroutine to the loop. -/
def scheduleCall (client : RankClient) (call : Nat) : Request → RankClient
  | .observe request =>
    { client with seq := client.seq + 1 }.setCall call
      (.scheduled (.observation (client.makeObservation request)) client.writer true)
  | .submitReceipt payload =>
    match receiptKey payload with
    | .error error =>
      { client with controlFailure := some (.receiptDelivery error) }.setCall call (.returned false)
    | .ok key => client.setCall call (.scheduled (.receipt payload key) client.writer true)

def deliveryFailed (client : RankClient) (message : Message) (error : Raised) : RankClient :=
  match message with
  | .observation _ =>
    { client with connected := false, controlFailure := some (.observationDelivery error) }
  | .receipt _ _ => { client with controlFailure := some (.receiptDelivery error) }

def record (client : RankClient) (message : Message) : RankClient :=
  match message with
  | .observation obs =>
    { client with snapshotObservations :=
        client.snapshotObservations.insert (obs.componentId, obs.instanceId) obs }
  | .receipt payload key => { client with snapshotReceipts := client.snapshotReceipts.insert key payload }

def settled (message : Message) (waiting : Bool) (outcome : Except Raised Unit) : Call :=
  if waiting then .done message outcome else .returned false

/-- One step of an application thread, or of the coroutine it scheduled. -/
def callStep (client : RankClient) : RankEvent → RankClient
  | .enter call request =>
    match client.calls call with
    | .unused => client.setCall call (if client.connected then .entered request else .returned false)
    | _ => client
  | .schedule call =>
    match client.calls call with
    | .entered request =>
      if client.established && client.present then client.scheduleCall call request
      else client.setCall call (.returned false)
    | _ => client
  | .start call =>
    match client.calls call with
    | .scheduled message _ waiting =>
      match client.write message.kind message.payload with
      | (client, .error error) => client.setCall call (settled message waiting (.error error))
      | (client, .ok ()) => client.setCall call (.draining message waiting)
    | _ => client
  | .callDrained call outcome =>
    match client.calls call with
    | .draining message waiting => client.setCall call (settled message waiting outcome)
    | _ => client
  | .callExpired call =>
    match client.calls call with
    | .scheduled message tested true =>
      (client.deliveryFailed message (.other "TimeoutError" "")).setCall call (.scheduled message tested false)
    | .draining message true =>
      (client.deliveryFailed message (.other "TimeoutError" "")).setCall call (.draining message false)
    | _ => client
  | .callCancelled call =>
    match client.calls call with
    | .scheduled _ _ false => client.setCall call (.returned false)
    | .draining _ false => client.setCall call (.returned false)
    | _ => client
  | .finish call =>
    match client.calls call with
    | .done message (.ok ()) => (client.record message).setCall call (.returned true)
    | .done message (.error error) => (client.deliveryFailed message error).setCall call (.returned false)
    | _ => client
  | _ => client

/-- The timer of a call of the main thread: its coroutine is cancelled where it stands. -/
def expire (clock : Time) (client : RankClient) (purpose : Purpose) (wait : Wait) : RankClient :=
  match purpose with
  | .lease _ => client
  | .reconnect _ _ => client
  | _ => client.raise clock purpose wait (.other "TimeoutError" "")

/-- One step of the code that drives the channel, up to its next await. -/
def driveStep (clock : Time) (client : RankClient) (event : RankEvent) : RankClient :=
  match client.activity, event with
  | .created, .connect => { client with present := true }.connectAndRegister .connect
  | .registered, .establish observations receipt => client.establish clock observations receipt
  | .gated, .pollStart operation =>
    if client.connected then client.receiveCommand clock (.pollStart operation) .receiving else client
  | .waiting purpose wait, .expire => client.expire clock purpose wait
  | .waiting purpose .closing, .closed failure => client.closed clock purpose failure
  | .waiting purpose .opening, .opened => client.register clock purpose
  | .waiting purpose .opening, .openFailed error => client.raise clock purpose .opening error
  | .waiting purpose wait, .drained => client.drained clock purpose wait
  | .waiting purpose wait, .drainFailed error => client.drainFailed clock purpose wait error
  | .waiting purpose wait, .frame env => client.frame clock purpose wait env
  | .waiting purpose wait, .readFailed error => client.readFailed clock purpose wait error
  | .waiting purpose wait, .wake => client.wake clock purpose wait
  | _, _ => client

def RankEvent.isCall : RankEvent → Bool
  | .enter _ _ => true
  | .schedule _ => true
  | .start _ => true
  | .callDrained _ _ => true
  | .callExpired _ => true
  | .callCancelled _ => true
  | .finish _ => true
  | _ => false

def step (client : RankClient) (timed : Time × RankEvent) : RankClient :=
  if RankEvent.isCall timed.2 then client.callStep timed.2 else client.driveStep timed.1 timed.2

end RankClient

end ExaServe.Control
