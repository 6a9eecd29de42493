import ExaServe.Lib.Dict
import ExaServe.Plan.Contracts

namespace ExaServe.Control

open Lib Plan

inductive SessionState where
  | expected
  | authenticated
  | snapshotPending
  | snapshotAckPending
  | established
  | lost
  | terminal
  deriving DecidableEq, Repr

inductive GenerationState where
  | registering
  | started
  | terminal
  deriving DecidableEq, Repr

structure RankSession where
  rank : Int
  nodeId : String
  state : SessionState := .expected
  instanceId : String := ""
  lastHeartbeatAt : Option Time := none
  lossTime : Option Time := none
  snapshotId : String := ""
  completeSetHash : String := ""
  snapshotCommandId : String := ""
  snapshotAccepted : Bool := false
  supervisorReceiptAccepted : Bool := false
  reconnects : Nat := 0
  deriving DecidableEq

def RankSession.isEstablished (session : RankSession) : Bool := session.state = .established

/-- The allocation a coordinator serves: limits of the plan and the rank binding. -/
structure Allocation where
  limits : ControlLimits
  binding : AllocationBinding

/-- One rank bound to one node. -/
def Allocation.solo (limits : ControlLimits) (node : String) (named : canonicalNodeId node ≠ "") :
    Allocation where
  limits := limits
  binding :=
    { deploymentId := "d", generation := 1, deploymentPlanHash := "", siteProfileHash := ""
      schedulerAllocationId := "j", rankToNode := [(0, node)], allocationBindingHash := ""
      ranks_contiguous := rfl
      nodes_named := by simpa using named
      nodes_distinct := by simp }

def intListText (items : List Int) : String :=
  "[" ++ ", ".intercalate (items.map toString) ++ "]"

structure SnapshotAssembly where
  snapshotId : String
  totalChunks : Int
  completeHash : String
  startedAt : Time
  chunks : Dict Int (List Json) := Dict.empty

namespace SnapshotAssembly

def itemCount (assembly : SnapshotAssembly) : Nat :=
  (assembly.chunks.values.map List.length).sum

def add (limits : ControlLimits) (assembly : SnapshotAssembly) (index : Int) (payload : List Json) :
    SnapshotAssembly × (Bool × String) :=
  if index < 0 ∨ assembly.totalChunks ≤ index then
    (assembly, false, s!"chunk index {index} out of range 0..{assembly.totalChunks - 1}")
  else if (limits.maxSnapshotChunks : Int) < assembly.totalChunks then
    (assembly, false, s!"snapshot declares {assembly.totalChunks} chunks, limit is {limits.maxSnapshotChunks}")
  else if ((assembly.chunks.get? index).any fun existing => !Json.pyEqItems existing payload) then
    (assembly, false, s!"conflicting duplicate for chunk {index}")
  else
    let added := { assembly with chunks := assembly.chunks.insert index payload }
    if limits.maxSnapshotItems < added.itemCount then
      (added, false, s!"snapshot exceeds max_snapshot_items ({added.itemCount})")
    else (added, true, "accepted")

def isComplete (assembly : SnapshotAssembly) : Bool := (assembly.chunks.size : Int) = assembly.totalChunks

def expired (limits : ControlLimits) (assembly : SnapshotAssembly) (now : Time) : Bool :=
  limits.snapshotAssemblyDeadlineS < now - assembly.startedAt

def sortedIndices (assembly : SnapshotAssembly) : List Int :=
  assembly.chunks.keys.insertionSort (· ≤ ·)

def items (assembly : SnapshotAssembly) : List Json :=
  assembly.sortedIndices.flatMap fun index => (assembly.chunks.get? index).getD []

def missingChunks (assembly : SnapshotAssembly) : List Int :=
  ((List.range assembly.totalChunks.toNat).map Int.ofNat).filter fun index =>
    !assembly.chunks.keys.contains index

end SnapshotAssembly

structure Coordinator where
  generationState : GenerationState := .registering
  terminalReason : Option String := none
  startedAt : Option Time := none
  sessions : Dict Int RankSession
  assemblies : Dict Int SnapshotAssembly := Dict.empty
  drainRequested : List Int := []

namespace Coordinator

def create (allocation : Allocation) : Coordinator where
  sessions := Dict.ofKeys allocation.binding.ranks fun rank =>
    { rank, nodeId := (allocation.binding.nodeFor rank).getD "" }

def holdsEstablished (c : Coordinator) (rank : Int) : Bool :=
  (c.sessions.get? rank).any RankSession.isEstablished

def holdsTerminal (c : Coordinator) (rank : Int) : Bool :=
  (c.sessions.get? rank).any (·.state = .terminal)

def setSession (c : Coordinator) (rank : Int) (session : RankSession) : Coordinator :=
  { c with sessions := c.sessions.insert rank session }

def dropAssembly (c : Coordinator) (rank : Int) : Coordinator :=
  { c with assemblies := c.assemblies.erase rank }

def setAssembly (c : Coordinator) (rank : Int) (assembly : SnapshotAssembly) : Coordinator :=
  { c with assemblies := c.assemblies.insert rank assembly }

def fatal (c : Coordinator) (reason : String) : Coordinator :=
  if c.generationState = .terminal then c
  else { c with generationState := .terminal, terminalReason := some reason }

def beginRegistration (clock : Time) (c : Coordinator) : Coordinator :=
  if c.generationState ≠ .registering then c
  else if c.startedAt = none then { c with startedAt := some clock } else c

/-- The rank is bound to a node and the name it registers from is another one. -/
def wrongNode (allocation : Allocation) (rank : Int) (nodeId : String) : Bool :=
  (allocation.binding.nodeFor rank).any (· ≠ "") && !allocation.binding.isBoundNode rank nodeId

def register (allocation : Allocation) (clock : Time) (c : Coordinator) (rank : Int)
    (nodeId instanceId : String) : Coordinator × (Bool × String) :=
  match c.sessions.get? rank with
  | none => (c, false, s!"rank {rank} is not in the allocation binding")
  | some session =>
    if c.startedAt = none then (c, false, "rank registration has not started")
    else if wrongNode allocation rank nodeId then
      let bound := (allocation.binding.nodeFor rank).getD ""
      ((c.fatal s!"rank {rank} registered from {quotedText nodeId}, bound to {quotedText bound}").setSession
          rank { session with state := .terminal },
        false, "node does not match the allocation binding")
    else if session.state = .established ∧ instanceId = session.instanceId then
      (c, true, "already established")
    else
      (c.setSession rank { session with
          instanceId, state := .authenticated, lastHeartbeatAt := some clock, lossTime := none,
          snapshotId := "", completeSetHash := "", snapshotCommandId := "",
          snapshotAccepted := false, supervisorReceiptAccepted := false },
        true, "authenticated; complete snapshot owed")

def beginSnapshot (allocation : Allocation) (clock : Time) (c : Coordinator) (rank : Int)
    (snapshotId : String) (totalChunks : Int) (completeHash : String) :
    Coordinator × (Bool × String) :=
  match c.sessions.get? rank with
  | none => (c, false, "snapshot before authentication")
  | some session =>
    if session.state = .expected then (c, false, "snapshot before authentication")
    else if totalChunks < 1 then (c, false, "snapshot must declare at least one chunk")
    else if (allocation.limits.maxSnapshotChunks : Int) < totalChunks then
      (c, false, s!"{totalChunks} chunks exceeds max_snapshot_chunks {allocation.limits.maxSnapshotChunks}")
    else match c.assemblies.get? rank with
      | some existing =>
        if existing.snapshotId ≠ snapshotId ∨ existing.totalChunks ≠ totalChunks ∨
            existing.completeHash ≠ completeHash then
          (c, false, "a different snapshot is already in flight")
        else (c, true, "identical snapshot already assembling")
      | none =>
        ((c.setAssembly rank { snapshotId, totalChunks, completeHash, startedAt := clock }).setSession
            rank { session with state := .snapshotPending, snapshotAccepted := false },
          true, "assembling")

def addSnapshotChunk (allocation : Allocation) (clock : Time) (c : Coordinator) (rank index : Int)
    (payload : List Json) : Coordinator × (Bool × String) :=
  match c.assemblies.get? rank with
  | none => (c, false, "no snapshot in flight")
  | some assembly =>
    if assembly.expired allocation.limits clock then
      (c.dropAssembly rank, false, "snapshot assembly deadline expired")
    else
      let added := assembly.add allocation.limits index payload
      (c.setAssembly rank added.1, added.2)

def expectedHash (verifyHash : Option String) (assembly : SnapshotAssembly) : String :=
  match verifyHash with
  | some hash => if hash = "" then assembly.completeHash else hash
  | none => assembly.completeHash

/-- Atomic replacement: an incomplete or mixed snapshot is refused. -/
def completeSnapshot (clock : Time) (c : Coordinator) (rank : Int) (verifyHash : Option String)
    (supervisorReceipt : Bool) : Coordinator × (Bool × String) :=
  match c.assemblies.get? rank, c.sessions.get? rank with
  | some assembly, some session =>
    if !assembly.isComplete then
      (c, false, s!"incomplete snapshot, missing chunks {intListText (assembly.missingChunks.take 8)}")
    else
      let expected := expectedHash verifyHash assembly
      let actual := canonicalHash (.arr assembly.items)
      if expected ≠ "" ∧ actual ≠ expected then
        (c.dropAssembly rank, false, "snapshot content hash mismatch")
      else
        let recorded := { session with
          snapshotId := assembly.snapshotId, completeSetHash := actual,
          snapshotCommandId := s!"SNAPSHOT_ACCEPTED:{rank}:{assembly.snapshotId}",
          snapshotAccepted := false,
          supervisorReceiptAccepted := supervisorReceipt || session.supervisorReceiptAccepted }
        if !recorded.supervisorReceiptAccepted then
          ((c.dropAssembly rank).setSession rank recorded, false,
            "snapshot accepted but supervisor receipt is missing")
        else
          ((c.dropAssembly rank).setSession rank { recorded with
              state := .snapshotAckPending, lastHeartbeatAt := some clock, lossTime := none },
            true, "snapshot validated; acknowledgment round trip pending")
  | _, _ => (c, false, "no snapshot in flight")

/-- Cross the registration barrier only for the exact command and result. -/
def acknowledgeSnapshot (clock : Time) (c : Coordinator) (rank : Int)
    (commandId snapshotId completeSetHash : String) (succeeded : Bool) :
    Coordinator × (Bool × String) :=
  match c.sessions.get? rank with
  | none => (c, false, "unknown rank")
  | some session =>
    if session.state ≠ .snapshotAckPending then (c, false, "no snapshot acknowledgment is pending")
    else if !succeeded then (c, false, "SNAPSHOT_ACCEPTED command failed")
    else if commandId ≠ session.snapshotCommandId then
      (c, false, "snapshot acknowledgment command_id mismatch")
    else if snapshotId ≠ session.snapshotId then
      (c, false, "snapshot acknowledgment snapshot_id mismatch")
    else if completeSetHash ≠ session.completeSetHash then
      (c, false, "snapshot acknowledgment complete_set_hash mismatch")
    else
      (c.setSession rank { session with
          snapshotAccepted := true, state := .established, lastHeartbeatAt := some clock },
        true, "established")

def ready (session : RankSession) : Bool :=
  session.isEstablished && session.snapshotAccepted && session.supervisorReceiptAccepted

def allRegistered (c : Coordinator) : Bool := c.sessions.values.all ready

def mayStart (c : Coordinator) : Bool × String :=
  if c.generationState = .terminal then (false, c.terminalReason.getD "generation terminal")
  else if !c.allRegistered then
    let pending := ((c.sessions.entries.filter fun entry => !ready entry.2).map Prod.fst).insertionSort (· ≤ ·)
    (false, s!"ranks not established: {intListText (pending.take 8)}")
  else (true, "all planned ranks established")

def start (c : Coordinator) : Coordinator × (Bool × String) :=
  if c.mayStart.1 then ({ c with generationState := .started }, c.mayStart) else (c, c.mayStart)

/-- One missing rank at the deadline makes the generation terminal. -/
def checkRegistrationDeadline (allocation : Allocation) (clock : Time) (c : Coordinator) : Coordinator :=
  match c.generationState, c.startedAt with
  | .registering, some startedAt =>
    if clock - startedAt < allocation.limits.registrationDeadlineS then c
    else
      let pending := ((c.sessions.entries.filter fun entry => !entry.2.isEstablished).map
        Prod.fst).insertionSort (· ≤ ·)
      if pending = [] then c
      else c.fatal s!"registration deadline ({allocation.limits.registrationDeadlineS}s) expired with ranks {intListText (pending.take 8)} not established"
  | _, _ => c

/-- EOF or reset; `expected` only after an acknowledged DRAIN or STOP. -/
def onDisconnect (now : Time) (c : Coordinator) (rank : Int) (expected : Bool) :
    Coordinator × String :=
  match c.sessions.get? rank with
  | none => (c, "unknown rank")
  | some session =>
    if expected then (c.setSession rank { session with state := .terminal }, "expected goodbye")
    else if !session.isEstablished then
      ((c.dropAssembly rank).setSession rank { session with
          snapshotAccepted := false, state := .expected, lossTime := none },
        "registration interrupted")
    else
      ((c.dropAssembly rank).setSession rank { session with
          snapshotAccepted := false, state := .lost, lossTime := some now },
        "lost")

def requestDrain (c : Coordinator) (rank : Int) : Coordinator :=
  if rank ∈ c.drainRequested then c else { c with drainRequested := rank :: c.drainRequested }

def onHeartbeat (now : Time) (c : Coordinator) (rank : Int) : Coordinator :=
  match c.sessions.get? rank with
  | none => c
  | some session =>
    if session.isEstablished then c.setSession rank { session with lastHeartbeatAt := some now } else c

def leaseExpired (allocation : Allocation) (now : Time) (session : RankSession) : Bool :=
  session.isEstablished && session.lastHeartbeatAt.any fun last => allocation.limits.leaseTimeoutS < now - last

def expireLease (allocation : Allocation) (now : Time) (session : RankSession) : RankSession :=
  if leaseExpired allocation now session then
    { session with
      state := .lost
      lossTime := session.lastHeartbeatAt.map (· + allocation.limits.leaseTimeoutS) }
  else session

/-- Silent loss: the loss is anchored at the last heartbeat plus the lease. -/
def pollLeases (allocation : Allocation) (now : Time) (c : Coordinator) : Coordinator × List Int :=
  ({ c with sessions := c.sessions.mapValues fun _ => expireLease allocation now },
    (c.sessions.values.filter (leaseExpired allocation now)).map RankSession.rank)

def graceOver (allocation : Allocation) (now : Time) (session : RankSession) : Bool :=
  session.lossTime.any fun loss => loss + allocation.limits.reconnectGraceS < now

/-- Recover inside grace, and only through a complete replacement snapshot. -/
def reconnect (allocation : Allocation) (now : Time) (c : Coordinator) (rank : Int)
    (nodeId instanceId : String) : Coordinator × (Bool × String) :=
  match c.sessions.get? rank with
  | none => (c, false, "unknown rank")
  | some session =>
    if !allocation.binding.isBoundNode rank nodeId then
      ((c.fatal s!"rank {rank} reconnected from unbound node {quotedText nodeId}").setSession rank
          { session with state := .terminal },
        false, "node does not match the allocation binding")
    else if session.state = .terminal then
      (c, false, "session is terminal; a later reconnect cannot resurrect it")
    else if graceOver allocation now session then
      ((c.fatal s!"rank {rank} reconnect grace expired").setSession rank
          { session with state := .terminal },
        false, "reconnect grace expired")
    else
      (c.setSession rank { session with
          reconnects := session.reconnects + 1, snapshotAccepted := false,
          supervisorReceiptAccepted := false, snapshotId := "", completeSetHash := "",
          snapshotCommandId := "", instanceId, state := .authenticated },
        true, "reconnected; complete snapshot required before incrementals")

def protocolViolation (c : Coordinator) (rank : Int) (reason : String) : Coordinator :=
  let marked := match c.sessions.get? rank with
    | some session => c.setSession rank { session with state := .terminal }
    | none => c
  (marked.dropAssembly rank).fatal s!"rank {rank} protocol violation: {reason}"

def acceptIncremental (c : Coordinator) (rank : Int) : Bool × String :=
  match c.sessions.get? rank with
  | none => (false, "unknown rank")
  | some session =>
    if !session.isEstablished || !session.snapshotAccepted then
      (false, "incremental observation before a complete snapshot; reconnect must replace the whole projection first")
    else (true, "accepted")

def graceExpired (allocation : Allocation) (now : Time) (session : RankSession) : Bool :=
  session.state = .lost && graceOver allocation now session

def expireGrace (allocation : Allocation) (now : Time) (session : RankSession) : RankSession :=
  if graceExpired allocation now session then { session with state := .terminal } else session

/-- Grace expiry is terminal; it is also when node cleanup may begin. -/
def checkGraceDeadlines (allocation : Allocation) (now : Time) (c : Coordinator) :
    Coordinator × List Int :=
  let expired := (c.sessions.values.filter (graceExpired allocation now)).map RankSession.rank
  let checked := { c with sessions := c.sessions.mapValues fun _ => expireGrace allocation now }
  if expired = [] then (checked, [])
  else (checked.fatal s!"reconnect grace expired for ranks {intListText expired}", expired)

/-- `HeadChannel._on_register`: only a LOST session takes the reconnect path. -/
def onRegister (allocation : Allocation) (clock : Time) (c : Coordinator) (rank : Int)
    (nodeId instanceId : String) : Coordinator × (Bool × String) :=
  match c.sessions.get? rank with
  | some session =>
    if session.state = .lost then reconnect allocation clock c rank nodeId instanceId
    else register allocation clock c rank nodeId instanceId
  | none => register allocation clock c rank nodeId instanceId

end Coordinator

end ExaServe.Control
