import ExaServe.Control.Transport.NodeChannel
import ExaServe.Control.Transport.Session
import Mathlib.Logic.Function.Basic

namespace ExaServe.Control

open Lib Plan

structure AuditRecord where
  reason : String
  detail : String
  rank : Option Int := none
  nodeId : Option String := none
  deriving DecidableEq

/-- A complete, validated snapshot on its way through `on_snapshot`. -/
structure PendingSnapshot extends RankItems where
  snapshotId : String
  hash : String
  items : List SnapshotItem

/-- What a handler waits for outside `read_frame`. -/
inductive Suspension where
  | writingAck
  | staging (snapshot : PendingSnapshot)
  | committing (snapshot : PendingSnapshot)
  | sendingAccepted
  | echoing

inductive Phase where
  | unopened
  | reading
  | suspended (on : Suspension)
  | closed

def Phase.live : Phase → Bool
  | .unopened => false
  | .reading => true
  | .suspended _ => true
  | .closed => false

/-- One accepted socket: its handler's phase and local session. The last three
    fields only record what happened in that session: the snapshot it acknowledged
    last, the observations of the snapshot it had accepted last, and those handed
    to the sink since. -/
structure Connection where
  phase : Phase := .unopened
  session : Option SessionInfo := none
  acked : Option (String × String) := none
  baseline : List ComponentObservation := []
  delivered : List ComponentObservation := []

/-- What `on_snapshot` does up to its next suspension. -/
inductive SnapshotAnswer where
  | refused (detail : String)
  | staging
  | committing
  | accepted
  | raised (error : Raised)

/-- What the staging future yields: the verdict, its detail, and whether there is
    a staged ledger to commit. -/
abbrev StageOutcome := Except Raised (Bool × String × Bool)

structure SnapshotCallback (σ : Type) where
  arrived : Time → σ → Int → PendingSnapshot → σ × SnapshotAnswer
  staged : Time → σ → Int → PendingSnapshot → StageOutcome → σ × SnapshotAnswer
  committed : Time → σ → Int → PendingSnapshot → Except Raised Unit → σ × SnapshotAnswer

/-- The callbacks of a listener over its owner's state; what an owner does on its
    own is an action of type `α`. -/
structure Callbacks (σ α : Type) where
  onRegister : Time → σ → Int → String → String → σ × Except Raised (Bool × String)
  onObservation : Time → σ → Int → ComponentObservation → σ × Except Raised Unit
  onReceipt : Time → σ → Int → List (String × Json) → σ × Except Raised Unit
  onSnapshot : Option (SnapshotCallback σ)
  onSnapshotAck : Time → σ → Int → CommandResult → σ × Except Raised (Bool × String)
  onProtocolViolation : Time → σ → Int → String → σ × Except Raised Unit
  onHeartbeat : Time → σ → Int → σ × Except Raised Unit
  onSessionChange : Time → σ → Int → Bool → Bool → σ × Except Raised Unit
  act : Time → Option String → σ → α → σ

/-- A frame the head wrote: for which rank, on which connection. -/
structure SentFrame where
  rank : Int
  connection : Nat
  env : Envelope

/-- The state of the listener; `sent` only records the frames it wrote. -/
structure Listener (σ : Type) where
  owner : σ
  connections : Nat → Connection := fun _ => {}
  sessions : Dict Int Nat := Dict.empty
  writers : Dict Int Nat := Dict.empty
  commandResults : Dict String (Int × CommandResult) := Dict.empty
  issuedCommands : Dict String (Int × List (String × Json)) := Dict.empty
  snapshots : Dict Int SnapshotBuffer := Dict.empty
  nodesByRank : Dict Int String := Dict.empty
  allAuthenticated : Bool := false
  allEstablished : Bool := false
  outSeq : Dict Int Int := Dict.empty
  receivedGoodbyes : List Int := []
  handlerFailures : List String := []
  audits : List AuditRecord := []
  sent : List SentFrame := []

/-- How a turn of a handler ends. -/
inductive Flow where
  | next
  | await (on : Suspension)
  | leave
  | fail (error : Raised)

namespace Listener

variable {σ α : Type} (config : ListenerConfig) (callbacks : Callbacks σ α) (clock : Time)

def lastRecords {β : Type} (records : List β) : List β := records.drop (records.length - maxAuditRecords)

def audit (l : Listener σ) (record : AuditRecord) : Listener σ :=
  { l with audits := lastRecords (l.audits ++ [record]) }

def session (l : Listener σ) (c : Nat) : Option SessionInfo := (l.connections c).session

def setConnection (l : Listener σ) (c : Nat) (connection : Connection) : Listener σ :=
  { l with connections := Function.update l.connections c connection }

def setPhase (l : Listener σ) (c : Nat) (phase : Phase) : Listener σ :=
  l.setConnection c { l.connections c with phase }

def setSession (l : Listener σ) (c : Nat) (info : SessionInfo) : Listener σ :=
  l.setConnection c { l.connections c with session := some info }

/-- The session a rank is entered under, with its connection. -/
def current (l : Listener σ) (rank : Int) : Option SessionInfo := (l.sessions.get? rank).bind l.session

def isEstablished (l : Listener σ) (rank : Int) : Bool :=
  (l.current rank).any fun info => info.registered && info.established

def plannedRanks : List Int := (List.range config.expectedRanks).map Int.ofNat

def refreshEstablished (l : Listener σ) : Listener σ :=
  { l with allEstablished := (plannedRanks config).all l.isEstablished }

/-- Audit, and escalate once a planned rank has authenticated. -/
def protocolViolation (l : Listener σ) (c : Nat) (reason detail : String) : Listener σ × Flow :=
  let session := l.session c
  let audited := l.audit
    { reason, detail, rank := session.map SessionInfo.rank, nodeId := session.map SessionInfo.nodeId }
  match session with
  | none => (audited, .leave)
  | some info =>
    if !info.registered then (audited, .leave)
    else
      let (owner, result) :=
        callbacks.onProtocolViolation clock audited.owner info.rank s!"{reason}: {detail}"
      match result with
      | .error error => ({ audited with owner }, .fail error)
      | .ok () => ({ audited with owner }, .leave)

def violation (l : Listener σ) (c : Nat) (reason : RejectReason) (detail : String) : Listener σ × Flow :=
  l.protocolViolation callbacks clock c reason.value detail

/-- An error of the contract is a violation; any other exception leaves the handler. -/
def refuse (l : Listener σ) (c : Nat) (error : Raised) (label : String) : Listener σ × Flow :=
  match error with
  | .contract message => l.violation callbacks clock c .malformed (label ++ message)
  | .other type message => (l, .fail (.other type message))

def nextOutSeq (l : Listener σ) (rank : Int) : Listener σ × Int :=
  let seq := (l.outSeq.get? rank).getD 0 + 1
  ({ l with outSeq := l.outSeq.insert rank seq }, seq)

def recordSent (l : Listener σ) (rank : Int) (connection : Nat) (env : Envelope) : Listener σ :=
  { l with sent := l.sent ++ [{ rank, connection, env }] }

/-- `_write_session_frame` up to the drain. -/
def writeSession (l : Listener σ) (c : Nat) (rank : Int) (kind : EnvelopeKind)
    (payload : List (String × Json)) (on : Suspension) : Listener σ × Flow :=
  let numbered := l.nextOutSeq rank
  let env := config.headEnvelope kind numbered.2 payload
  match config.writable env with
  | .error error => (numbered.1, .fail error)
  | .ok () => (numbered.1.recordSent rank c env, .await on)

def registeredNow (l : Listener σ) (rank : Int) : Bool := (l.current rank).any SessionInfo.registered

/-- Another rank already holds the node. -/
def nodeTaken (l : Listener σ) (rank : Int) (node : String) : Bool :=
  l.nodesByRank.entries.any fun entry => entry.1 ≠ rank && sameNode entry.2 node

def registerPayloadOk (payload : List (String × Json)) : Bool :=
  Json.sameNames payload ["payload_version", "instance_id"] && payloadVersionOne payload &&
    match Json.lookup "instance_id" payload with
    | some (.str text) => text ≠ ""
    | _ => false

def payloadText (name : String) (payload : List (String × Json)) : String :=
  match Json.lookup name payload with
  | some (.str text) => text
  | _ => ""

/-- Why `_register` refuses an envelope, checks in the order of the source. -/
def registerRefusal (l : Listener σ) (env : Envelope) : Option RejectReason :=
  if !registerPayloadOk env.payload then some .malformed
  else if env.senderRank < 0 ∨ (config.expectedRanks : Int) ≤ env.senderRank then some .rankMismatch
  else if env.seq < 0 then some .sequenceRegression
  else if (config.expectedNodes.get? env.senderRank).any fun planned => !sameNode planned env.senderNode then
    some .nodeMismatch
  else if l.registeredNow env.senderRank then some .duplicateRank
  else if (l.current env.senderRank).isSome &&
      (l.nodesByRank.get? env.senderRank).any fun expected => !sameNode expected env.senderNode then
    some .nodeMismatch
  else if l.nodeTaken env.senderRank env.senderNode then some .duplicateRank
  else none

def registeredSession (env : Envelope) : SessionInfo :=
  { rank := env.senderRank, nodeId := env.senderNode, registered := true
    instanceId := payloadText "instance_id" env.payload, lastSeq := env.seq, lastSeenAt := clock }

/-- `_register`: enter the session and the node under the rank. -/
def register (l : Listener σ) (c : Nat) (env : Envelope) : Listener σ :=
  let entered := l.setConnection c { l.connections c with
    session := some (registeredSession clock env), acked := none, baseline := [], delivered := [] }
  let listed := { entered with
    sessions := entered.sessions.insert env.senderRank c
    nodesByRank := entered.nodesByRank.insert env.senderRank env.senderNode }
  { listed with
    allAuthenticated := listed.allAuthenticated || (plannedRanks config).all listed.registeredNow }

def registerAck : List (String × Json) :=
  [("payload_version", .int 1), ("command_id", .str "register"), ("operation", .str "REGISTER"),
    ("ok", .bool true), ("control_limits", config.controlLimits)]

def handleRegister (l : Listener σ) (c : Nat) (env : Envelope) : Listener σ × Flow :=
  if (l.session c).any SessionInfo.registered then
    l.violation callbacks clock c .duplicateRank "REGISTER repeated on an authenticated connection"
  else match l.registerRefusal config env with
    | some reason =>
      (l.audit { reason := reason.value, detail := "registration rejected", rank := some env.senderRank
                 nodeId := some env.senderNode }, .leave)
    | none =>
      let entered := l.register config clock c env
      let info := registeredSession clock env
      let (owner, result) :=
        callbacks.onRegister clock entered.owner info.rank info.nodeId info.instanceId
      let decided := { entered with owner }
      match result with
      | .error error => (decided, .fail error)
      | .ok (false, detail) =>
        let audited := decided.audit
          { reason := RejectReason.nodeMismatch.value, detail, rank := some info.rank
            nodeId := some info.nodeId }
        (audited.setSession c { info with registered := false }, .leave)
      | .ok (true, _) =>
        decided.writeSession config c info.rank .commandResult (registerAck config) .writingAck

/-- After the acknowledgment is flushed the head may push commands. -/
def ackDrained (l : Listener σ) (c : Nat) : Listener σ × Flow :=
  match l.session c with
  | none => (l, .leave)
  | some info =>
    let opened := { l with writers := l.writers.insert info.rank c }
    let (owner, result) := callbacks.onSessionChange clock opened.owner info.rank true
      (opened.receivedGoodbyes.contains info.rank)
    match result with
    | .error error => ({ opened with owner }, .fail error)
    | .ok () => ({ opened with owner }, .next)

def rememberIssued (l : Listener σ) (commandId : String) (rank : Int) (body : List (String × Json)) :
    Except Raised (Listener σ) :=
  match l.issuedCommands.get? commandId with
  | some issued =>
    if issued.1 ≠ rank || !Json.pyEq (.obj issued.2) (.obj body) then
      .error (.contract s!"command_id {quotedText commandId} was already issued differently")
    else .ok l
  | none =>
    if maxCommandRecords ≤ l.issuedCommands.size then
      .error (.contract "control command identity capacity exhausted; refusing a novel command")
    else .ok { l with issuedCommands := l.issuedCommands.insert commandId (rank, body) }

def reservedFields : List String := ["payload_version", "command_id", "operation"]

def commandRefusal (commandId operation : String) (payload : List (String × Json)) : Option String :=
  if commandId = "" then some "command_id must be a nonempty string"
  else if operation = "" then some "operation must be a nonempty string"
  else if (Json.fieldNames payload).any (reservedFields.contains ·) then
    some "command payload cannot replace reserved fields"
  else none

def commandBody (commandId operation : String) (payload : List (String × Json)) : List (String × Json) :=
  [("payload_version", Json.int 1), ("command_id", .str commandId), ("operation", .str operation)] ++ payload

/-- `_send_command` up to the drain: whether the frame went out, or what it raises. -/
def sendCommand (l : Listener σ) (rank : Int) (commandId operation : String)
    (payload : List (String × Json)) : Listener σ × Except Raised Bool :=
  match commandRefusal commandId operation payload with
  | some reason => (l, .error (.contract reason))
  | none =>
    match l.writers.get? rank with
    | none => (l, .ok false)
    | some writer =>
      let body := commandBody commandId operation payload
      match l.rememberIssued commandId rank body with
      | .error error => (l, .error error)
      | .ok issued =>
        let numbered := issued.nextOutSeq rank
        let env := config.headEnvelope .command numbered.2 body
        match config.writable env with
        | .error _ => (numbered.1, .ok false)
        | .ok () => (numbered.1.recordSent rank writer env, .ok true)

def rememberAll (info : SessionInfo) : List ComponentObservation → Except Raised SessionInfo
  | [] => .ok info
  | obs :: rest =>
    match info.remember obs.dedupKey (observationFingerprint obs) with
    | .error error => .error error
    | .ok (remembered, _) => rememberAll remembered rest

def componentSequences (observations : List ComponentObservation) : Dict (String × String) Int :=
  observations.foldl (fun d obs => d.insert (obs.componentId, obs.instanceId) obs.sequence) Dict.empty

def componentIdentities (observations : List ComponentObservation) : Dict String String :=
  observations.foldl (fun d obs => d.insert obs.componentId obs.instanceId) Dict.empty

def snapshotCommandId (rank : Int) (snapshotId : String) : String :=
  s!"SNAPSHOT_ACCEPTED:{rank}:{snapshotId}"

def withSnapshot (info : SessionInfo) (snapshot : PendingSnapshot) : SessionInfo :=
  { info with
    lastComponentSeq := componentSequences snapshot.observations
    componentInstances := componentIdentities snapshot.observations
    seenObs := Dict.empty }

/-- The accepted snapshot replaces the session's memory and is announced. -/
def snapshotAccepted (l : Listener σ) (c : Nat) (info : SessionInfo) (snapshot : PendingSnapshot) :
    Listener σ × Flow :=
  match rememberAll (withSnapshot info snapshot) snapshot.observations with
  | .error error => (l.setSession c (withSnapshot info snapshot), .fail error)
  | .ok remembered =>
    let pending := { remembered with
      pendingSnapshotId := snapshot.snapshotId
      pendingSnapshotHash := snapshot.hash
      pendingSnapshotCommandId := snapshotCommandId info.rank snapshot.snapshotId }
    let replaced := l.setConnection c { l.connections c with
      session := some pending, baseline := snapshot.observations, delivered := [] }
    let (announced, result) := replaced.sendCommand config info.rank
      (snapshotCommandId info.rank snapshot.snapshotId) Operation.snapshotAccepted.value
      [("snapshot_id", .str snapshot.snapshotId), ("complete_set_hash", .str snapshot.hash)]
    match result with
    | .error error => (announced, .fail error)
    | .ok false => (announced, .leave)
    | .ok true => (announced, .await .sendingAccepted)

/-- What follows an answer of `on_snapshot`. -/
def snapshotAnswered (l : Listener σ) (c : Nat) (info : SessionInfo) (snapshot : PendingSnapshot)
    (answer : σ × SnapshotAnswer) : Listener σ × Flow :=
  let answered := { l with owner := answer.1 }
  match answer.2 with
  | .refused detail =>
    answered.violation callbacks clock c .malformed s!"snapshot projection rejected: {detail}"
  | .staging => (answered, .await (.staging snapshot))
  | .committing => (answered, .await (.committing snapshot))
  | .raised error => (answered, .fail error)
  | .accepted => answered.snapshotAccepted config c info snapshot

def sinkReceipts (owner : σ) (rank : Int) : List (List (String × Json)) → σ × Except Raised Unit
  | [] => (owner, .ok ())
  | receipt :: rest =>
    match callbacks.onReceipt clock owner rank receipt with
    | (owner, .error error) => (owner, .error error)
    | (owner, .ok ()) => sinkReceipts owner rank rest

def sinkObservations (owner : σ) (rank : Int) : List ComponentObservation → σ × Except Raised Unit
  | [] => (owner, .ok ())
  | obs :: rest =>
    match callbacks.onObservation clock owner rank obs with
    | (owner, .error error) => (owner, .error error)
    | (owner, .ok ()) => sinkObservations owner rank rest

/-- A listener without `on_snapshot` hands the items to the plain sinks. -/
def plainSinks (owner : σ) (rank : Int) (snapshot : PendingSnapshot) : σ × SnapshotAnswer :=
  match sinkReceipts callbacks clock owner rank snapshot.receipts with
  | (owner, .error error) => (owner, .raised error)
  | (owner, .ok ()) =>
    match sinkObservations callbacks clock owner rank snapshot.observations with
    | (owner, .error error) => (owner, .raised error)
    | (owner, .ok ()) => (owner, .accepted)

def handleSnapshot (l : Listener σ) (c : Nat) (info : SessionInfo) (env : Envelope) : Listener σ × Flow :=
  let assembled := assembleSnapshot config.limits.toDefaultLimits clock l.snapshots info.rank env.payload
  let buffered := { l with snapshots := assembled.1 }
  match assembled.2 with
  | .refused reason => buffered.violation callbacks clock c .malformed s!"snapshot rejected: {reason}"
  | .owed => (buffered, .next)
  | .complete items =>
    match validateSnapshotItems config info items with
    | .error error => buffered.refuse callbacks clock c error "snapshot item rejected: "
    | .ok checked =>
      let snapshot : PendingSnapshot :=
        { checked with
          snapshotId := payloadText "snapshot_id" env.payload
          hash := payloadText "complete_set_hash" env.payload, items }
      let answer := match callbacks.onSnapshot with
        | none => plainSinks callbacks clock buffered.owner info.rank snapshot
        | some callback => callback.arrived clock buffered.owner info.rank snapshot
      buffered.snapshotAnswered config callbacks clock c info snapshot answer

def observationPayloadOk (payload : List (String × Json)) : Bool :=
  payloadVersionOne payload && (Json.lookup "observation" payload).isSome &&
    (Json.fieldNames payload).all
      (["payload_version", "observation", "compatibility_receipt"].contains ·)

/-- The component's one instance: the recorded one, or this one when it is the
    first of its component and there is room. -/
inductive InstanceCheck where
  | full
  | stale (active : String)
  | pinned (info : SessionInfo)

def pinInstance (info : SessionInfo) (obs : ComponentObservation) : InstanceCheck :=
  match info.componentInstances.get? obs.componentId with
  | none =>
    if maxComponentsPerRank ≤ info.componentInstances.size then .full
    else .pinned { info with
      componentInstances := info.componentInstances.insert obs.componentId obs.instanceId }
  | some active => if active ≠ obs.instanceId then .stale active else .pinned info

def lastSequence (info : SessionInfo) (obs : ComponentObservation) : Int :=
  (info.lastComponentSeq.get? (obs.componentId, obs.instanceId)).getD (-1)

/-- Hand a novel observation to the sink. -/
def deliver (l : Listener σ) (c : Nat) (info : SessionInfo) (obs : ComponentObservation) :
    Listener σ × Flow :=
  let advanced := { info with
    lastComponentSeq := info.lastComponentSeq.insert (obs.componentId, obs.instanceId) obs.sequence }
  let handed := l.setConnection c { l.connections c with
    session := some advanced, delivered := (l.connections c).delivered ++ [obs] }
  let (owner, result) := callbacks.onObservation clock handed.owner info.rank obs
  let sunk := { handed with owner }
  match result with
  | .ok () => (sunk, .next)
  | .error (.contract message) => sunk.violation callbacks clock c .malformed message
  | .error error => (sunk, .fail error)

/-- Sequence and duplicate checks of an observation whose instance is the right one. -/
def sequenceObservation (l : Listener σ) (c : Nat) (info : SessionInfo) (obs : ComponentObservation) :
    Listener σ × Flow :=
  let last := lastSequence info obs
  let pinned := l.setSession c info
  if obs.sequence < last then
    pinned.violation callbacks clock c .sequenceRegression
      s!"{obs.componentId} seq {obs.sequence} < {last}"
  else match info.remember obs.dedupKey (observationFingerprint obs) with
    | .error error => pinned.refuse callbacks clock c error ""
    | .ok (remembered, novel) =>
      let kept := pinned.setSession c remembered
      if !novel then (kept, .next)
      else if obs.sequence = last then
        kept.violation callbacks clock c .sequenceRegression
          s!"{obs.componentId} sequence {obs.sequence} is no longer inside dedup retention"
      else kept.deliver callbacks clock c remembered obs

/-- The observation loop body: identity first, then the component's instance. -/
def applyObservation (l : Listener σ) (c : Nat) (info : SessionInfo) (item : Json) : Listener σ × Flow :=
  match validateObservation item with
  | .error (.contract message) =>
    l.protocolViolation callbacks clock c message "observation rejected — closing session"
  | .error error => (l, .fail error)
  | .ok obs =>
    if !config.inScope obs then
      l.violation callbacks clock c .staleGeneration s!"obs {obs.componentId}"
    else if obs.ownerScope ≠ .rank then
      l.violation callbacks clock c .rankMismatch
        s!"rank {info.rank} sent owner_scope={obs.ownerScope.value} (only the supervisor may publish GLOBAL observations)"
    else if obs.ownerRank ≠ some info.rank then
      l.violation callbacks clock c .rankMismatch
        s!"rank {info.rank} sent owner_rank={obs.ownerRank.getD 0}"
    else if !sameNode obs.nodeId info.nodeId then
      l.violation callbacks clock c .nodeMismatch
        s!"rank {info.rank} ({info.nodeId}) sent node_id={obs.nodeId}"
    else match pinInstance info obs with
      | .full => l.violation callbacks clock c .malformed "rank component identity capacity exhausted"
      | .stale active =>
        l.violation callbacks clock c .staleInstance
          s!"component {quotedText obs.componentId} active instance {quotedText active}, received {quotedText obs.instanceId}"
      | .pinned pinned => l.sequenceObservation callbacks clock c pinned obs

/-- A receipt that passed its check goes to the receipt sink. -/
def sinkReceipt (l : Listener σ) (info : SessionInfo) (receipt : List (String × Json)) :
    Listener σ × Except Raised Unit :=
  let (owner, result) := callbacks.onReceipt clock l.owner info.rank receipt
  ({ l with owner }, result)

def handleObservation (l : Listener σ) (c : Nat) (info : SessionInfo) (env : Envelope) :
    Listener σ × Flow :=
  if !info.established then
    l.violation callbacks clock c .notRegistered "incremental observation before snapshot ACK barrier"
  else if !observationPayloadOk env.payload then
    l.violation callbacks clock c .malformed "invalid OBSERVATION payload/version"
  else
    let item := (Json.lookup "observation" env.payload).getD .null
    match (Json.lookup "compatibility_receipt" env.payload).getD .null with
    | .null => l.applyObservation config callbacks clock c info item
    | attached =>
      match validateRankReceipt info attached with
      | .error error => l.refuse callbacks clock c error "attached receipt rejected: "
      | .ok receipt =>
        match l.sinkReceipt callbacks clock info receipt with
        | (sunk, .error error) => (sunk, .fail error)
        | (sunk, .ok ()) => sunk.applyObservation config callbacks clock c info item

def heartbeatPayloadOk (payload : List (String × Json)) : Bool :=
  Json.sameNames payload ["payload_version", "heartbeat_id"] && payloadVersionOne payload &&
    match Json.lookup "heartbeat_id" payload with
    | some (.str text) => text ≠ ""
    | _ => false

def handleHeartbeat (l : Listener σ) (c : Nat) (info : SessionInfo) (env : Envelope) : Listener σ × Flow :=
  if !info.established then
    l.violation callbacks clock c .notRegistered "HEARTBEAT before snapshot ACK barrier"
  else if !heartbeatPayloadOk env.payload then
    l.violation callbacks clock c .malformed "invalid HEARTBEAT payload/version"
  else
    let seen := l.setSession c { info with lastSeenAt := clock }
    let (owner, result) := callbacks.onHeartbeat clock seen.owner info.rank
    let told := { seen with owner }
    match result with
    | .error error => (told, .fail error)
    | .ok () =>
      told.writeSession config c info.rank .heartbeat
        [("payload_version", .int 1), ("heartbeat_id", (Json.lookup "heartbeat_id" env.payload).getD .null)]
        .echoing

def handleReceipt (l : Listener σ) (c : Nat) (info : SessionInfo) (env : Envelope) : Listener σ × Flow :=
  if !info.established then
    l.violation callbacks clock c .notRegistered "incremental receipt before snapshot ACK barrier"
  else if !(payloadVersionOne env.payload && Json.sameNames env.payload ["payload_version", "receipt"]) then
    l.violation callbacks clock c .malformed "invalid RECEIPT payload/version"
  else match validateRankReceipt info ((Json.lookup "receipt" env.payload).getD .null) with
    | .error error => l.refuse callbacks clock c error "receipt rejected: "
    | .ok receipt =>
      match l.sinkReceipt callbacks clock info receipt with
      | (sunk, .error error) => (sunk, .fail error)
      | (sunk, .ok ()) => (sunk, .next)

def expectGoodbye (l : Listener σ) (rank : Int) : Except Raised (Listener σ) :=
  match l.sessions.get? rank with
  | none => .error (.contract s!"rank {rank} is not established")
  | some c =>
    match l.session c with
    | none => .error (.contract s!"rank {rank} is not established")
    | some info =>
      if info.expectedGoodbye then .ok l
      else if !info.established then .error (.contract s!"rank {rank} is not established")
      else .ok { l.setSession c { info with expectedGoodbye := true } with
        receivedGoodbyes := l.receivedGoodbyes.filter (· ≠ rank) }

def snapshotMismatch (info : SessionInfo) (result : CommandResult) : List String :=
  (if result.operation = .snapshotAccepted then [] else ["operation"]) ++
    (if result.snapshot.map Prod.fst = some info.pendingSnapshotId then [] else ["snapshot_id"]) ++
    (if result.snapshot.map Prod.snd = some info.pendingSnapshotHash then [] else ["complete_set_hash"]) ++
    (if result.ok then [] else ["status"])

/-- The answer to the pending snapshot command opens the barrier. -/
def acknowledge (l : Listener σ) (c : Nat) (info : SessionInfo) (result : CommandResult) :
    Listener σ × Flow :=
  let mismatch := snapshotMismatch info result
  if mismatch ≠ [] then
    l.violation callbacks clock c .malformed
      ("snapshot COMMAND_RESULT mismatch: " ++ Json.reprText (.arr (mismatch.map .str)))
  else
    let (owner, verdict) := callbacks.onSnapshotAck clock l.owner info.rank result
    let told := { l with owner }
    match verdict with
    | .error error => (told, .fail error)
    | .ok (false, detail) =>
      told.violation callbacks clock c .malformed s!"snapshot acknowledgment rejected: {detail}"
    | .ok (true, _) =>
      let opened := told.setConnection c { told.connections c with
        session := some { info with established := true, pendingSnapshotCommandId := "" }
        acked := result.snapshot }
      (opened.refreshEstablished config, .next)

def resultDisagrees (result : CommandResult) (issued : List (String × Json)) : Bool :=
  !isText result.operation.value (Json.lookup "operation" issued)

/-- Store a result; a DRAIN or STOP answer authorizes the rank's GOODBYE at once. -/
def storeResult (l : Listener σ) (rank : Int) (senderRank : Int) (result : CommandResult) :
    Except (Listener σ × Raised) (Listener σ) :=
  let stored := { l with
    commandResults := l.commandResults.insert result.commandId (senderRank, result) }
  if (result.operation = .drain ∨ result.operation = .stop) ∧ result.ok = true then
    match stored.expectGoodbye rank with
    | .error error => .error (stored, error)
    | .ok expecting => .ok expecting
  else .ok stored

def acceptResult (l : Listener σ) (c : Nat) (info : SessionInfo) (senderRank : Int) (result : CommandResult) :
    Listener σ × Flow :=
  if (l.commandResults.get? result.commandId).any fun prior => prior ≠ (senderRank, result) then
    l.violation callbacks clock c .malformed s!"conflicting duplicate COMMAND_RESULT {result.commandId}"
  else match l.storeResult info.rank senderRank result with
    | .error (stored, error) => (stored, .fail error)
    | .ok stored =>
      if result.commandId = info.pendingSnapshotCommandId then
        stored.acknowledge config callbacks clock c ((stored.session c).getD info) result
      else (stored, .next)

def handleCommandResult (l : Listener σ) (c : Nat) (info : SessionInfo) (env : Envelope) :
    Listener σ × Flow :=
  match validateCommandResultPayload env.payload with
  | .error error => l.refuse callbacks clock c error ""
  | .ok result =>
    match l.issuedCommands.get? result.commandId with
    | none =>
      l.violation callbacks clock c .malformed
        s!"COMMAND_RESULT names unissued command {quotedText result.commandId}"
    | some (issuedRank, issued) =>
      if issuedRank ≠ info.rank then
        l.violation callbacks clock c .rankMismatch
          s!"rank {info.rank} returned COMMAND_RESULT for rank {issuedRank} command {quotedText result.commandId}"
      else if resultDisagrees result issued then
        l.violation callbacks clock c .malformed
          s!"COMMAND_RESULT operation disagrees with command {quotedText result.commandId}"
      else if !info.established && result.commandId ≠ info.pendingSnapshotCommandId then
        l.violation callbacks clock c .notRegistered "COMMAND_RESULT before snapshot ACK barrier"
      else l.acceptResult config callbacks clock c info env.senderRank result

def handleGoodbye (l : Listener σ) (c : Nat) (info : SessionInfo) (env : Envelope) : Listener σ × Flow :=
  if !(Json.sameNames env.payload ["payload_version"] && payloadVersionOne env.payload) then
    l.violation callbacks clock c .malformed "invalid GOODBYE payload/version"
  else if !info.expectedGoodbye then
    l.violation callbacks clock c .malformed "unsolicited GOODBYE from required rank"
  else ({ l with receivedGoodbyes := info.rank :: l.receivedGoodbyes.filter (· ≠ info.rank) }, .leave)

/-- Frames of an authenticated session, once rank, node and sequence are checked. -/
def handleKind (l : Listener σ) (c : Nat) (info : SessionInfo) (env : Envelope) : Listener σ × Flow :=
  match env.kind with
  | .snapshot => l.handleSnapshot config callbacks clock c info env
  | .observation => l.handleObservation config callbacks clock c info env
  | .heartbeat => l.handleHeartbeat config callbacks clock c info env
  | .receipt => l.handleReceipt callbacks clock c info env
  | .commandResult => l.handleCommandResult config callbacks clock c info env
  | .goodbye => l.handleGoodbye callbacks clock c info env
  | .register => (l, .next)
  | .command => (l, .next)

def handleSession (l : Listener σ) (c : Nat) (info : SessionInfo) (env : Envelope) : Listener σ × Flow :=
  if env.senderRank ≠ info.rank ∨ env.senderNode ≠ info.nodeId then
    l.violation callbacks clock c .rankMismatch s!"claimed {env.senderRank}/{env.senderNode}"
  else if env.seq ≤ info.lastSeq then
    l.violation callbacks clock c .sequenceRegression s!"seq={env.seq} last={info.lastSeq}"
  else
    let advanced := { info with lastSeq := env.seq }
    (l.setSession c advanced).handleKind config callbacks clock c advanced env

/-- The body of the handler's loop after `read_frame` returned an envelope. -/
def handleFrame (l : Listener σ) (c : Nat) (env : Envelope) : Listener σ × Flow :=
  match config.checkScope env with
  | some reason =>
    (l.audit { reason, detail := s!"kind={env.kind.value}", rank := some env.senderRank
               nodeId := some env.senderNode }, .leave)
  | none =>
    if env.kind = .register then l.handleRegister config callbacks clock c env
    else match l.session c with
      | some info =>
        if info.registered then l.handleSession config callbacks clock c info env
        else (l.audit { reason := RejectReason.notRegistered.value, detail := s!"kind={env.kind.value}"
                        rank := some env.senderRank, nodeId := some env.senderNode }, .leave)
      | none =>
        (l.audit { reason := RejectReason.notRegistered.value, detail := s!"kind={env.kind.value}"
                   rank := some env.senderRank, nodeId := some env.senderNode }, .leave)

def recordFailure (l : Listener σ) (c : Nat) (error : Raised) : Listener σ :=
  let session := l.session c
  let who := match session with
    | some info => toString info.rank
    | none => "unauthenticated"
  let failure := s!"control handler failed for rank {who}: {error.described}"
  { l with handlerFailures := lastRecords (l.handlerFailures ++ [failure]) }.audit
    { reason := RejectReason.malformed.value, detail := failure, rank := session.map SessionInfo.rank
      nodeId := session.map SessionInfo.nodeId }

/-- The `finally` block: revoke the session, tell the owner, forget the writer and
    the assembly. An owner that raises keeps the last two from happening. -/
def finish (l : Listener σ) (c : Nat) : Listener σ :=
  match l.session c with
  | none => { l.setPhase c .closed with
      writers := l.writers.erase (-1), snapshots := l.snapshots.erase (-1) }
  | some info =>
    if !info.registered then { l.setPhase c .closed with
      writers := l.writers.erase info.rank, snapshots := l.snapshots.erase info.rank }
    else
      let revoked := { l.setConnection c { l.connections c with
          phase := .closed, session := some { info with registered := false, established := false } } with
        allAuthenticated := false, allEstablished := false }
      let (owner, result) := callbacks.onSessionChange clock revoked.owner info.rank false
        (revoked.receivedGoodbyes.contains info.rank)
      let told := { revoked with owner }
      match result with
      | .error _ => told
      | .ok () => { told with
          writers := told.writers.erase info.rank, snapshots := told.snapshots.erase info.rank }

def cancelled : Raised := .other "CancelledError" ""

def settle (c : Nat) (turn : Listener σ × Flow) : Listener σ :=
  match turn.2 with
  | .next => turn.1.setPhase c .reading
  | .await on => turn.1.setPhase c (.suspended on)
  | .leave => turn.1.finish callbacks clock c
  | .fail error =>
    if error = cancelled then turn.1.finish callbacks clock c
    else (turn.1.recordFailure c error).finish callbacks clock c

end Listener

/-- What happens to the listener's event loop, one turn at a time. -/
inductive HeadEvent (α : Type) where
  | accept (connection : Nat)
  | frame (connection : Nat) (env : Envelope)
  | badFrame (connection : Nat) (reason : String)
  | eof (connection : Nat)
  | readFailed (connection : Nat) (error : Raised)
  | drained (connection : Nat) (ok : Bool)
  | staged (connection : Nat) (outcome : StageOutcome)
  | committed (connection : Nat) (outcome : Except Raised Unit)
  | cancel (connection : Nat)
  | sendCommand (rank : Int) (commandId operation : String) (payload : List (String × Json))
  | broadcastCommand (rank : Int) (commandId operation : String) (payload : List (String × Json))
  | expectGoodbye (rank : Int)
  | act (action : α)

namespace Listener

variable {σ α : Type} (config : ListenerConfig) (callbacks : Callbacks σ α)

/-- The turn a suspended handler takes when its future resolves. -/
def resumeSnapshot (clock : Time) (l : Listener σ) (c : Nat) (snapshot : PendingSnapshot)
    (answer : SnapshotCallback σ → Int → σ × SnapshotAnswer) : Listener σ :=
  match l.session c, callbacks.onSnapshot with
  | some info, some callback =>
    settle callbacks clock c
      (l.snapshotAnswered config callbacks clock c info snapshot (answer callback info.rank))
  | _, _ => l

def step (l : Listener σ) (timed : Time × HeadEvent α) : Listener σ :=
  let clock := timed.1
  match timed.2 with
  | .accept c =>
    match (l.connections c).phase with
    | .unopened => l.setPhase c .reading
    | _ => l
  | .frame c env =>
    match (l.connections c).phase with
    | .reading => settle callbacks clock c (l.handleFrame config callbacks clock c env)
    | _ => l
  | .badFrame c reason =>
    match (l.connections c).phase with
    | .reading => (l.audit { reason, detail := "frame rejected"
                             rank := (l.session c).map SessionInfo.rank }).finish callbacks clock c
    | _ => l
  | .eof c =>
    match (l.connections c).phase with
    | .reading => l.finish callbacks clock c
    | _ => l
  | .readFailed c error =>
    match (l.connections c).phase with
    | .reading => settle callbacks clock c (l, .fail error)
    | _ => l
  | .drained c ok =>
    match (l.connections c).phase with
    | .suspended .writingAck =>
      settle callbacks clock c (if ok then l.ackDrained callbacks clock c else (l, .leave))
    | .suspended .sendingAccepted => settle callbacks clock c (l, if ok then .next else .leave)
    | .suspended .echoing => settle callbacks clock c (l, if ok then .next else .leave)
    | _ => l
  | .staged c outcome =>
    match (l.connections c).phase with
    | .suspended (.staging snapshot) => l.resumeSnapshot config callbacks clock c snapshot fun callback rank =>
        callback.staged clock l.owner rank snapshot outcome
    | _ => l
  | .committed c outcome =>
    match (l.connections c).phase with
    | .suspended (.committing snapshot) => l.resumeSnapshot config callbacks clock c snapshot fun callback rank =>
        callback.committed clock l.owner rank snapshot outcome
    | _ => l
  | .cancel c =>
    match (l.connections c).phase with
    | .unopened => l
    | .closed => l
    | .suspended (.staging snapshot) => l.resumeSnapshot config callbacks clock c snapshot fun callback rank =>
        callback.staged clock l.owner rank snapshot (.error cancelled)
    | .suspended (.committing snapshot) => l.resumeSnapshot config callbacks clock c snapshot fun callback rank =>
        callback.committed clock l.owner rank snapshot (.error cancelled)
    | _ => l.finish callbacks clock c
  | .sendCommand rank commandId operation payload =>
    if rank < 0 ∨ (config.expectedRanks : Int) ≤ rank then l
    else if !l.isEstablished rank then l
    else (l.sendCommand config rank commandId operation payload).1
  | .broadcastCommand rank commandId operation payload =>
    if rank < 0 ∨ (config.expectedRanks : Int) ≤ rank then l
    else if !l.isEstablished rank then l
    else (l.sendCommand config rank s!"{commandId}:{rank}" operation payload).1
  | .expectGoodbye rank => (l.expectGoodbye rank).toOption.getD l
  | .act action => { l with owner := callbacks.act clock l.handlerFailures.head? l.owner action }

end Listener

end ExaServe.Control
