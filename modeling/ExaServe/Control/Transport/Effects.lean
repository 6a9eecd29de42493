import ExaServe.Control.Transport.Listener
import Mathlib.Logic.Relation

namespace ExaServe.Control

open Lib Plan

/-- A session up to its clock, its frame sequence and its permission to leave. -/
def SessionInfo.core (info : SessionInfo) : SessionInfo :=
  { info with lastSeq := -1, expectedGoodbye := false, lastSeenAt := 0 }

/-- What sessions with one core share. -/
structure SessionInfo.Alike (info later : SessionInfo) : Prop where
  rank : later.rank = info.rank
  nodeId : later.nodeId = info.nodeId
  registered : later.registered = info.registered
  established : later.established = info.established
  pendingSnapshotId : later.pendingSnapshotId = info.pendingSnapshotId
  pendingSnapshotHash : later.pendingSnapshotHash = info.pendingSnapshotHash
  pendingSnapshotCommandId : later.pendingSnapshotCommandId = info.pendingSnapshotCommandId
  seenObs : later.seenObs = info.seenObs
  lastComponentSeq : later.lastComponentSeq = info.lastComponentSeq
  componentInstances : later.componentInstances = info.componentInstances

theorem SessionInfo.alike {info later : SessionInfo} (same : later.core = info.core) : info.Alike later := by
  simp only [SessionInfo.core, SessionInfo.mk.injEq] at same
  obtain ⟨rank, node, registered, established, -, id, hash, command, -, -, seen, sequences, instances, -⟩ := same
  exact ⟨rank, node, registered, established, id, hash, command, seen, sequences, instances⟩

def Connection.core (connection : Connection) : Connection :=
  { connection with session := connection.session.map SessionInfo.core }

def SentFrame.isCommand (frame : SentFrame) : Bool := frame.env.kind = .command

variable {σ α : Type} {config : ListenerConfig} {callbacks : Callbacks σ α} {moves : σ → σ → Prop}

/-- Every callback moves the owner within a preorder; an acknowledgment does so
    unless it is accepted. -/
structure Callbacks.Within (callbacks : Callbacks σ α) (moves : σ → σ → Prop) : Prop where
  refl : ∀ owner, moves owner owner
  trans : ∀ {first second third}, moves first second → moves second third → moves first third
  onRegister : ∀ clock owner rank node instance_, moves owner (callbacks.onRegister clock owner rank node instance_).1
  onObservation : ∀ clock owner rank obs, moves owner (callbacks.onObservation clock owner rank obs).1
  onReceipt : ∀ clock owner rank receipt, moves owner (callbacks.onReceipt clock owner rank receipt).1
  arrived : ∀ callback clock owner rank snapshot, callbacks.onSnapshot = some callback →
    moves owner (callback.arrived clock owner rank snapshot).1
  staged : ∀ callback clock owner rank snapshot outcome, callbacks.onSnapshot = some callback →
    moves owner (callback.staged clock owner rank snapshot outcome).1
  committed : ∀ callback clock owner rank snapshot outcome, callbacks.onSnapshot = some callback →
    moves owner (callback.committed clock owner rank snapshot outcome).1
  onSnapshotAck : ∀ clock owner rank result,
    (∀ detail, (callbacks.onSnapshotAck clock owner rank result).2 ≠ .ok (true, detail)) →
      moves owner (callbacks.onSnapshotAck clock owner rank result).1
  onProtocolViolation : ∀ clock owner rank detail,
    moves owner (callbacks.onProtocolViolation clock owner rank detail).1
  onHeartbeat : ∀ clock owner rank, moves owner (callbacks.onHeartbeat clock owner rank).1
  onSessionChange : ∀ clock owner rank connected expected,
    moves owner (callbacks.onSessionChange clock owner rank connected expected).1
  act : ∀ clock failure owner action, moves owner (callbacks.act clock failure owner action)

namespace Listener

/-- Nothing moved that the sessions' agreement, their memory or the command tables
    depend on. -/
structure Quiet (moves : σ → σ → Prop) (before after : Listener σ) : Prop where
  owner : moves before.owner after.owner
  connections : ∀ d, (after.connections d).core = (before.connections d).core
  sessions : after.sessions = before.sessions
  nodesByRank : after.nodesByRank = before.nodesByRank
  commandResults : after.commandResults = before.commandResults
  issuedCommands : after.issuedCommands = before.issuedCommands
  commands : after.sent.filter SentFrame.isCommand = before.sent.filter SentFrame.isCommand

section Sessions

variable {before after : Listener σ} {c : Nat} {info : SessionInfo}

theorem Quiet.session_of (quiet : Quiet moves before after) (held : before.session c = some info) :
    ∃ later, after.session c = some later ∧ later.core = info.core := by
  have same := congrArg Connection.session (quiet.connections c)
  unfold session at held ⊢
  simp only [Connection.core, held, Option.map_some, Option.map_eq_some_iff] at same
  exact same

theorem Quiet.session_before (quiet : Quiet moves before after) (held : after.session c = some info) :
    ∃ earlier, before.session c = some earlier ∧ info.core = earlier.core := by
  have same := congrArg Connection.session (quiet.connections c)
  unfold session at held ⊢
  simp only [Connection.core, held, Option.map_some] at same
  obtain ⟨earlier, found, core_same⟩ := Option.map_eq_some_iff.mp same.symm
  exact ⟨earlier, found, core_same.symm⟩

@[simp] theorem setConnection_self (l : Listener σ) (connection : Connection) :
    (l.setConnection c connection).connections c = connection := by
  simp [setConnection]

theorem setConnection_ne (l : Listener σ) (connection : Connection) {d : Nat} (other : d ≠ c) :
    (l.setConnection c connection).connections d = l.connections d := by
  simp [setConnection, other]

@[simp] theorem session_setSession (l : Listener σ) : (l.setSession c info).session c = some info := by
  simp [setSession, session]

@[simp] theorem session_setPhase (l : Listener σ) (phase : Phase) (d : Nat) :
    (l.setPhase c phase).session d = l.session d := by
  by_cases same : d = c
  · subst same
    simp [setPhase, session]
  · simp [setPhase, session, setConnection_ne _ _ same]

end Sessions

namespace Quiet

variable (within : callbacks.Within moves)

include within in
theorem refl (l : Listener σ) : Quiet moves l l :=
  ⟨within.refl _, fun _ => rfl, rfl, rfl, rfl, rfl, rfl⟩

include within in
theorem trans {first second third : Listener σ} (early : Quiet moves first second)
    (late : Quiet moves second third) : Quiet moves first third where
  owner := within.trans early.owner late.owner
  connections d := (late.connections d).trans (early.connections d)
  sessions := late.sessions.trans early.sessions
  nodesByRank := late.nodesByRank.trans early.nodesByRank
  commandResults := late.commandResults.trans early.commandResults
  issuedCommands := late.issuedCommands.trans early.issuedCommands
  commands := late.commands.trans early.commands

include within in
theorem recorded (l : Listener σ) (audits : List AuditRecord) (handlerFailures : List String) :
    Quiet moves l { l with audits, handlerFailures } :=
  ⟨within.refl _, fun _ => rfl, rfl, rfl, rfl, rfl, rfl⟩

theorem told {l : Listener σ} {owner : σ} (moved : moves l.owner owner) :
    Quiet moves l { l with owner } :=
  ⟨moved, fun _ => rfl, rfl, rfl, rfl, rfl, rfl⟩

include within in
theorem advanced {l : Listener σ} {c : Nat} {info later : SessionInfo} (held : l.session c = some info)
    (same : later.core = info.core) : Quiet moves l (l.setSession c later) := by
  refine ⟨within.refl _, ?_, rfl, rfl, rfl, rfl, rfl⟩
  intro d
  by_cases here : d = c
  · subst here
    unfold session at held
    simp [setSession, Connection.core, held, same]
  · simp [setSession, setConnection_ne _ _ here]

end Quiet

variable (within : callbacks.Within moves) (clock : Time)

include within

theorem quiet_audit (l : Listener σ) (record : AuditRecord) : Quiet moves l (l.audit record) := by
  unfold audit
  exact .recorded within l _ l.handlerFailures

theorem quiet_protocolViolation (l : Listener σ) (c : Nat) (reason detail : String) :
    Quiet moves l (l.protocolViolation callbacks clock c reason detail).1 := by
  unfold protocolViolation
  extract_lets session audited
  have recorded : Quiet moves l audited := quiet_audit within l _
  clear_value session audited
  cases session with
  | none => exact recorded
  | some info =>
    dsimp only
    split
    · exact recorded
    · have violated := within.onProtocolViolation clock audited.owner info.rank s!"{reason}: {detail}"
      split
      · exact recorded.trans within (.told violated)
      · exact recorded.trans within (.told violated)

theorem quiet_violation (l : Listener σ) (c : Nat) (reason : RejectReason) (detail : String) :
    Quiet moves l (l.violation callbacks clock c reason detail).1 :=
  quiet_protocolViolation within clock l c reason.value detail

theorem quiet_refuse (l : Listener σ) (c : Nat) (error : Raised) (label : String) :
    Quiet moves l (l.refuse callbacks clock c error label).1 := by
  unfold refuse
  split
  · exact quiet_violation within clock l c _ _
  · exact .refl within l

theorem quiet_recordFailure (l : Listener σ) (c : Nat) (error : Raised) :
    Quiet moves l (l.recordFailure c error) := by
  unfold recordFailure audit
  exact .recorded within l _ _

theorem quiet_writeSession (l : Listener σ) (c : Nat) (rank : Int) (kind : EnvelopeKind)
    (payload : List (String × Json)) (on : Suspension) (plain : kind ≠ .command) :
    Quiet moves l (l.writeSession config c rank kind payload on).1 := by
  unfold writeSession
  dsimp only
  split
  · exact ⟨within.refl _, fun _ => rfl, rfl, rfl, rfl, rfl, rfl⟩
  · refine ⟨within.refl _, fun _ => rfl, rfl, rfl, rfl, rfl, ?_⟩
    simp [recordSent, nextOutSeq, SentFrame.isCommand, ListenerConfig.headEnvelope, plain]

theorem quiet_sinkReceipt (l : Listener σ) (info : SessionInfo) (receipt : List (String × Json)) :
    Quiet moves l (l.sinkReceipt callbacks clock info receipt).1 :=
  .told (within.onReceipt clock l.owner info.rank receipt)

theorem quiet_handleReceipt (l : Listener σ) (c : Nat) (info : SessionInfo) (env : Envelope) :
    Quiet moves l (l.handleReceipt callbacks clock c info env).1 := by
  unfold handleReceipt
  split
  · exact quiet_violation within clock l c _ _
  split
  · exact quiet_violation within clock l c _ _
  split
  · exact quiet_refuse within clock l c _ _
  · rename_i receipt checked
    have sunk := quiet_sinkReceipt within clock l info receipt
    split
    · rename_i answered
      rw [answered] at sunk
      exact sunk
    · rename_i answered
      rw [answered] at sunk
      exact sunk

theorem quiet_handleHeartbeat (l : Listener σ) (c : Nat) (info : SessionInfo) (env : Envelope)
    (held : l.session c = some info) :
    Quiet moves l (l.handleHeartbeat config callbacks clock c info env).1 := by
  unfold handleHeartbeat
  split
  · exact quiet_violation within clock l c _ _
  split
  · exact quiet_violation within clock l c _ _
  · extract_lets seen
    have stamped : Quiet moves l seen := .advanced within held rfl
    clear_value seen
    have told : Quiet moves l { seen with owner := (callbacks.onHeartbeat clock seen.owner info.rank).1 } :=
      stamped.trans within (.told (within.onHeartbeat clock seen.owner info.rank))
    dsimp only
    split
    · exact told
    · exact told.trans within (quiet_writeSession within _ c _ _ _ _ (by decide))

theorem quiet_handleGoodbye (l : Listener σ) (c : Nat) (info : SessionInfo) (env : Envelope) :
    Quiet moves l (l.handleGoodbye callbacks clock c info env).1 := by
  unfold handleGoodbye
  split
  · exact quiet_violation within clock l c _ _
  split
  · exact quiet_violation within clock l c _ _
  · exact ⟨within.refl _, fun _ => rfl, rfl, rfl, rfl, rfl, rfl⟩

theorem quiet_expectGoodbye {l expecting : Listener σ} {rank : Int}
    (expected : l.expectGoodbye rank = .ok expecting) : Quiet moves l expecting := by
  unfold expectGoodbye at expected
  split at expected
  · cases expected
  · rename_i c entered
    split at expected
    · cases expected
    · rename_i info held
      split at expected
      · cases expected
        exact .refl within l
      split at expected
      · cases expected
      · cases expected
        have allowed : Quiet moves l (l.setSession c { info with expectedGoodbye := true }) :=
          .advanced within held rfl
        exact allowed.trans within ⟨within.refl _, fun _ => rfl, rfl, rfl, rfl, rfl, rfl⟩

theorem quiet_ackDrained (l : Listener σ) (c : Nat) :
    Quiet moves l (l.ackDrained callbacks clock c).1 := by
  unfold ackDrained
  split
  · exact .refl within l
  · rename_i info held
    extract_lets opened
    have writing : Quiet moves l opened := ⟨within.refl _, fun _ => rfl, rfl, rfl, rfl, rfl, rfl⟩
    clear_value opened
    have told := writing.trans within (.told (within.onSessionChange clock opened.owner info.rank true
      (opened.receivedGoodbyes.contains info.rank)))
    dsimp only
    split
    · exact told
    · exact told

theorem moves_sinkReceipts (owner : σ) (rank : Int) (receipts : List (List (String × Json))) :
    moves owner (sinkReceipts callbacks clock owner rank receipts).1 := by
  induction receipts generalizing owner with
  | nil => exact within.refl owner
  | cons receipt rest ih =>
    have first := within.onReceipt clock owner rank receipt
    unfold sinkReceipts
    split
    · rename_i answered
      rw [answered] at first
      exact first
    · rename_i answered
      rw [answered] at first
      exact within.trans first (ih _)

theorem moves_sinkObservations (owner : σ) (rank : Int) (observations : List ComponentObservation) :
    moves owner (sinkObservations callbacks clock owner rank observations).1 := by
  induction observations generalizing owner with
  | nil => exact within.refl owner
  | cons obs rest ih =>
    have first := within.onObservation clock owner rank obs
    unfold sinkObservations
    split
    · rename_i answered
      rw [answered] at first
      exact first
    · rename_i answered
      rw [answered] at first
      exact within.trans first (ih _)

theorem moves_plainSinks (owner : σ) (rank : Int) (snapshot : PendingSnapshot) :
    moves owner (plainSinks callbacks clock owner rank snapshot).1 := by
  have receipts := moves_sinkReceipts within clock owner rank snapshot.receipts
  unfold plainSinks
  split
  · rename_i answered
    rw [answered] at receipts
    exact receipts
  · rename_i middle answered
    rw [answered] at receipts
    have observations := moves_sinkObservations within clock middle rank snapshot.observations
    split
    · rename_i sunk
      rw [sunk] at observations
      exact within.trans receipts observations
    · rename_i sunk
      rw [sunk] at observations
      exact within.trans receipts observations

end Listener

end ExaServe.Control
