import ExaServe.Control.Transport.Frame
import ExaServe.Control.Transport.Commands

namespace ExaServe.Control

open Lib Plan

def supervisorRank : Int := -1

def maxCommandRecords : Nat := 4096

def maxPendingHeadCommands : Nat := 256

/-- How the socket meets one write of the rank. -/
inductive Socket where
  | closed
  | ready
  | reset (error : Raised)
  deriving DecidableEq

/-- The state of the rank-side client. -/
structure NodeChannel where
  secret : List UInt8
  deploymentId : String
  planHash : String
  generation : Int
  rank : Int
  nodeId : String
  limits : DefaultLimits
  seq : Int := 0
  headSeq : Int := 0
  snapshotHashes : Dict String String := Dict.empty
  pendingHeadCommands : List Command := []
  receivedCommands : Dict String Command := Dict.empty
  commandResults : Dict String CommandResult := Dict.empty
  heartbeatCounter : Nat := 0

namespace NodeChannel

def nextSeq (channel : NodeChannel) : NodeChannel := { channel with seq := channel.seq + 1 }

def env (channel : NodeChannel) (kind : EnvelopeKind) (payload : List (String × Json)) : Envelope :=
  { kind, deploymentId := channel.deploymentId, planHash := channel.planHash,
    generation := channel.generation, senderRank := channel.rank, senderNode := channel.nodeId,
    seq := channel.seq + 1, payload }

/-- `_write`: the envelopes put on the wire and what the call raises. -/
def write (channel : NodeChannel) (socket : Socket) (kind : EnvelopeKind)
    (payload : List (String × Json)) : NodeChannel × List Envelope × Except Raised Unit :=
  match socket with
  | .closed => (channel, [], .error (.other "ConnectionError" "control channel is not connected"))
  | .ready =>
    match writeFrame channel.secret channel.limits.maxFrameBytes (channel.env kind payload) with
    | .error error => (channel.nextSeq, [], .error error)
    | .ok _ => (channel.nextSeq, [channel.env kind payload], .ok ())
  | .reset error =>
    match writeFrame channel.secret channel.limits.maxFrameBytes (channel.env kind payload) with
    | .error refused => (channel.nextSeq, [], .error refused)
    | .ok _ => (channel.nextSeq, [channel.env kind payload], .error error)

def chunkPayload (snapshotId hash : String) (count index : Nat) (chunk : List SnapshotItem) :
    List (String × Json) :=
  let bodies (kind : ItemKind) : Json :=
    .arr ((chunk.filter fun item => item.kind = kind).map fun item => .obj item.body)
  [("payload_version", .int 1), ("snapshot_id", .str snapshotId), ("chunk_index", .int index),
    ("chunk_count", .int count), ("complete_set_hash", .str hash),
    ("observations", bodies .observation), ("compatibility_receipts", bodies .receipt)]

def chunkPayloads (snapshotId hash : String) (count : Nat) :
    Nat → List (List SnapshotItem) → List (List (String × Json))
  | _, [] => []
  | index, chunk :: rest =>
    chunkPayload snapshotId hash count index chunk :: chunkPayloads snapshotId hash count (index + 1) rest

def writeChunks (sockets : Nat → Socket) :
    NodeChannel → Nat → List (List (String × Json)) → NodeChannel × List Envelope × Except Raised Unit
  | channel, _, [] => (channel, [], .ok ())
  | channel, index, payload :: rest =>
    match channel.write (sockets index) .snapshot payload with
    | (channel, written, .error error) => (channel, written, .error error)
    | (channel, written, .ok ()) =>
      let later := writeChunks sockets channel (index + 1) rest
      (later.1, written ++ later.2.1, later.2.2)

def snapshotItems (observations : List ComponentObservation) (receipts : List (List (String × Json))) :
    List Json :=
  observations.map (fun obs => rawItem .observation (.obj obs.toDict)) ++
    receipts.map (fun receipt => rawItem .receipt (.obj receipt))

def snapshotChunks (chunkItems : Nat) (items : List SnapshotItem) : List (List SnapshotItem) :=
  match slices chunkItems items with
  | [] => [[]]
  | chunks => chunks

def defaultSnapshotId (channel : NodeChannel) (snapshotId hash : String) : String :=
  let short := String.ofList (hash.toList.take 12)
  if snapshotId = "" then s!"snap-{channel.rank}-{short}" else snapshotId

/-- The checks of `send_snapshot` before the first chunk is written. -/
def snapshotRefusal (channel : NodeChannel) (items : List SnapshotItem) (snapshotId hash : String)
    (chunkItems : Int) : Option String :=
  let earlier := channel.snapshotHashes.get? snapshotId
  if chunkItems < 1 then some "chunk_items must be positive"
  else if channel.limits.maxSnapshotItems < items.length then some "snapshot exceeds max_snapshot_items"
  else if channel.limits.maxSnapshotBytes < (Json.dumps (itemsJson items)).length then
    some "snapshot exceeds max_snapshot_bytes"
  else if channel.limits.maxSnapshotChunks < (snapshotChunks chunkItems.toNat items).length then
    some "snapshot exceeds max_snapshot_chunks"
  else if earlier.any (· ≠ hash) then
    some s!"snapshot_id {quotedText snapshotId} was already used differently"
  else if earlier = none ∧ channel.snapshotHashes.size ≠ 0 then
    some "only one local snapshot may be in flight"
  else none

/-- `send_snapshot` up to its first write: the snapshot is in flight under its id,
    and its chunks are owed. -/
def prepareSnapshot (channel : NodeChannel) (observations : List ComponentObservation)
    (receipts : List (List (String × Json))) (snapshotId : String) (chunkItems : Int) :
    Except Raised (NodeChannel × String × List (List (String × Json))) :=
  match canonicalSnapshotItems (snapshotItems observations receipts) with
  | .error error => .error error
  | .ok items =>
    match snapshotSetHash (items.map SnapshotItem.toJson) with
    | .error error => .error error
    | .ok hash =>
      let snapshotId := channel.defaultSnapshotId snapshotId hash
      match channel.snapshotRefusal items snapshotId hash chunkItems with
      | some reason => .error (.contract reason)
      | none =>
        let chunks := snapshotChunks chunkItems.toNat items
        .ok ({ channel with snapshotHashes := channel.snapshotHashes.insert snapshotId hash }, snapshotId,
          chunkPayloads snapshotId hash chunks.length 0 chunks)

/-- Send a complete replacement snapshot, chunked and hashed. -/
def sendSnapshot (sockets : Nat → Socket) (channel : NodeChannel)
    (observations : List ComponentObservation) (receipts : List (List (String × Json)))
    (snapshotId : String) (chunkItems : Int) : NodeChannel × List Envelope × Except Raised String :=
  match channel.prepareSnapshot observations receipts snapshotId chunkItems with
  | .error error => (channel, [], .error error)
  | .ok (registered, snapshotId, payloads) =>
    match writeChunks sockets registered 0 payloads with
    | (channel, written, .ok ()) => (channel, written, .ok snapshotId)
    | (channel, written, .error error) => (channel, written, .error error)

def validateHeadEnvelope (channel : NodeChannel) (env : Envelope) : Except Raised NodeChannel :=
  if env.deploymentId ≠ channel.deploymentId ∨ env.planHash ≠ channel.planHash ∨
      env.generation ≠ channel.generation ∨ env.senderRank ≠ supervisorRank then
    .error (.contract "supervisor envelope identity mismatch")
  else if env.seq ≤ channel.headSeq then .error (rejected .sequenceRegression)
  else .ok { channel with headSeq := env.seq }

def rememberReceivedCommand (channel : NodeChannel) (command : Command) :
    Except Raised (NodeChannel × Command) :=
  match channel.receivedCommands.get? command.commandId with
  | some previous =>
    if previous ≠ command then
      .error (.contract s!"conflicting duplicate COMMAND {quotedText command.commandId}")
    else .ok (channel, previous)
  | none =>
    if maxCommandRecords ≤ channel.receivedCommands.size then
      .error (.contract "rank command identity capacity exhausted; refusing a novel command")
    else .ok ({ channel with
      receivedCommands := channel.receivedCommands.insert command.commandId command }, command)

def queueHeadCommand (channel : NodeChannel) (payload : List (String × Json)) :
    Except Raised NodeChannel :=
  match validateCommandPayload payload with
  | .error error => .error error
  | .ok command =>
    if maxPendingHeadCommands ≤ channel.pendingHeadCommands.length then
      .error (.contract "pending supervisor command queue capacity exhausted")
    else .ok { channel with pendingHeadCommands := channel.pendingHeadCommands ++ [command] }

/-- The command `receive_command` makes of an envelope. -/
def takeCommand (channel : NodeChannel) (env : Envelope) : Except Raised (NodeChannel × Command) :=
  if env.kind ≠ .command then .error (.contract s!"expected COMMAND, received {env.kind.value}")
  else match validateCommandPayload env.payload with
    | .error error => .error error
    | .ok command => channel.rememberReceivedCommand command

def answersHeartbeat (heartbeatId : String) (env : Envelope) : Bool :=
  env.kind = .heartbeat && Json.sameNames env.payload ["payload_version", "heartbeat_id"] &&
    payloadVersionOne env.payload && isText heartbeatId (Json.lookup "heartbeat_id" env.payload)

/-- What `heartbeat_round_trip` makes of an envelope: its own echo, or a command
    that is queued while the echo is still owed. -/
def takeHeartbeat (channel : NodeChannel) (heartbeatId : String) (env : Envelope) :
    Except Raised (Option NodeChannel) :=
  if env.kind = .command then
    match channel.queueHeadCommand env.payload with
    | .error error => .error error
    | .ok queued => .ok (some queued)
  else if answersHeartbeat heartbeatId env then .ok none
  else .error (.contract s!"unexpected {env.kind.value} during heartbeat")

def registerPayload (instanceId : String) : List (String × Json) :=
  [("payload_version", .int 1), ("instance_id", .str instanceId)]

def limitNames : List String :=
  ["registration_deadline_s", "heartbeat_interval_s", "lease_timeout_s", "reconnect_grace_s",
    "snapshot_assembly_deadline_s", "watchdog_cleanup_deadline_s", "max_frame_bytes",
    "max_snapshot_chunks", "max_snapshot_bytes", "max_snapshot_items"]

def invalidLimits : Raised := .contract "registration acknowledgment has invalid control limits"

def timingLimit (limits : List (String × Json)) (name : String) : Except Raised { time : Time // 0 < time } :=
  match Json.lookup name limits with
  | some (.int value) =>
    if floatLimit ≤ |(value : ℚ)| then
      .error (.other "OverflowError" "int too large to convert to float")
    else if positive : 0 < (value : ℚ) then .ok ⟨value, positive⟩
    else .error invalidLimits
  | some (.float value) =>
    if floatLimit ≤ |value.value| then .error invalidLimits
    else if positive : 0 < value.value then .ok ⟨value.value, positive⟩
    else .error invalidLimits
  | _ => .error invalidLimits

def countLimit (limits : List (String × Json)) (name : String) : Except Raised { count : Nat // 0 < count } :=
  match Json.lookup name limits with
  | some (.int value) =>
    if positive : 0 < value.toNat then .ok ⟨value.toNat, positive⟩ else .error invalidLimits
  | _ => .error invalidLimits

/-- The limits a rank takes over from the acknowledgment of its registration. -/
def resolvedLimits (limits : List (String × Json)) : Except Raised DefaultLimits := do
  if !Json.sameNames limits limitNames then .error invalidLimits
  let registration ← timingLimit limits "registration_deadline_s"
  let heartbeat ← timingLimit limits "heartbeat_interval_s"
  let lease ← timingLimit limits "lease_timeout_s"
  let grace ← timingLimit limits "reconnect_grace_s"
  let assembly ← timingLimit limits "snapshot_assembly_deadline_s"
  let cleanup ← timingLimit limits "watchdog_cleanup_deadline_s"
  let frameBytes ← countLimit limits "max_frame_bytes"
  let chunks ← countLimit limits "max_snapshot_chunks"
  let bytes ← countLimit limits "max_snapshot_bytes"
  let items ← countLimit limits "max_snapshot_items"
  .ok { registrationDeadlineS := registration.1, heartbeatIntervalS := heartbeat.1, leaseTimeoutS := lease.1
        reconnectGraceS := grace.1, snapshotAssemblyDeadlineS := assembly.1
        watchdogCleanupDeadlineS := cleanup.1, maxFrameBytes := frameBytes.1, maxSnapshotChunks := chunks.1
        maxSnapshotBytes := bytes.1, maxSnapshotItems := items.1
        deadlines_positive := ⟨registration.2, grace.2, heartbeat.2, lease.2, assembly.2, cleanup.2⟩
        bounds_positive := ⟨frameBytes.2, chunks.2, bytes.2, items.2⟩ }

/-- What `connect_and_register` makes of the head's answer. -/
def registrationLimits (ack : Envelope) : Except Raised DefaultLimits :=
  if ack.kind = .commandResult &&
      Json.sameNames ack.payload ["payload_version", "command_id", "operation", "ok", "control_limits"] &&
      payloadVersionOne ack.payload && isText "REGISTER" (Json.lookup "operation" ack.payload) &&
      isText "register" (Json.lookup "command_id" ack.payload) &&
      (match Json.lookup "ok" ack.payload with | some (.bool true) => true | _ => false) then
    match Json.lookup "control_limits" ack.payload with
    | some (.obj limits) => resolvedLimits limits
    | _ => .error (.contract "registration acknowledgment omitted control limits")
  else .error (.contract "registration not acknowledged")

def resultPayload (result : CommandResult) : List (String × Json) :=
  [("payload_version", .int 1), ("command_id", .str result.commandId),
    ("operation", .str result.operation.value), ("ok", .bool result.ok), ("detail", .str result.detail),
    ("status", .str result.status)] ++
    match result.snapshot with
    | some (snapshotId, hash) => [("snapshot_id", .str snapshotId), ("complete_set_hash", .str hash)]
    | none => []

/-- `send_command_result` up to its write. -/
def resultRefusal (channel : NodeChannel) (result : CommandResult) : Option Raised :=
  if result.commandId = "" then some (.contract "command result command_id must be a nonempty string")
  else match channel.receivedCommands.get? result.commandId with
    | none => some (.contract s!"cannot answer unreceived command {quotedText result.commandId}")
    | some request =>
      if request.operation ≠ result.operation.value then
        some (.contract "command result operation disagrees with received command")
      else if result.operation = .snapshotAccepted ∧ request.snapshot ≠ result.snapshot then
        some (.contract "snapshot command result identity disagrees with received command")
      else match validateCommandResultPayload (resultPayload result) with
        | .error error => some error
        | .ok validated =>
          match channel.commandResults.get? result.commandId with
          | some previous =>
            if previous ≠ validated then
              some (.contract s!"conflicting result for command {quotedText result.commandId}")
            else none
          | none =>
            if maxCommandRecords ≤ channel.commandResults.size then
              some (.contract "rank command-result capacity exhausted")
            else none

/-- `send_command_result` after its write. -/
def recordResult (channel : NodeChannel) (result : CommandResult) : NodeChannel :=
  { channel with commandResults := channel.commandResults.insert result.commandId result }

/-- The cached result `replay_command_result` would send again. -/
def replayedResult (channel : NodeChannel) (command : Command) : Except Raised (Option CommandResult) :=
  if command.commandId = "" then .error (.contract "command replay requires a nonempty command_id")
  else match channel.commandResults.get? command.commandId with
    | none => .ok none
    | some result =>
      if channel.receivedCommands.get? command.commandId ≠ some command then
        .error (.contract s!"conflicting duplicate COMMAND {quotedText command.commandId}")
      else .ok (some result)

def acceptanceMismatches (command : Command) (snapshotId hash : String) : List String :=
  (if command.operation ≠ Operation.snapshotAccepted.value then ["operation"] else []) ++
    (if command.snapshot.map Prod.fst ≠ some snapshotId then ["snapshot_id"] else []) ++
    if command.snapshot.map Prod.snd ≠ some hash then ["complete_set_hash"] else []

/-- The answer `await_snapshot_accepted` gives to a command. -/
def acceptanceResult (command : Command) (snapshotId hash : String) : Except Raised CommandResult :=
  let mismatches := acceptanceMismatches command snapshotId hash
  if mismatches ≠ [] ∨ command.commandId = "" then
    let named := ", ".intercalate ((if mismatches = [] then ["command_id"] else mismatches).map quotedText)
    .error (.contract s!"SNAPSHOT_ACCEPTED command mismatch: [{named}]")
  else .ok { commandId := command.commandId, operation := .snapshotAccepted, ok := true, detail := ""
             snapshot := some (snapshotId, hash) }

end NodeChannel

end ExaServe.Control
