import ExaServe.Lib.Run
import ExaServe.Control.Session.Coordinator

namespace ExaServe.Control

open Lib Plan

/-- What the head does to its coordinator. An absent `now` stands for the clock. -/
inductive SessionOp where
  | beginRegistration
  | register (rank : Int) (nodeId instanceId : String)
  | onRegister (rank : Int) (nodeId instanceId : String)
  | beginSnapshot (rank : Int) (snapshotId : String) (totalChunks : Int) (completeHash : String)
  | addSnapshotChunk (rank index : Int) (payload : List Json)
  | completeSnapshot (rank : Int) (verifyHash : Option String) (supervisorReceipt : Bool)
  | acknowledgeSnapshot (rank : Int) (commandId snapshotId completeSetHash : String) (succeeded : Bool)
  | start
  | checkRegistrationDeadline
  | onDisconnect (rank : Int) (expected : Bool) (now : Option Time)
  | requestDrain (rank : Int)
  | onHeartbeat (rank : Int) (now : Option Time)
  | pollLeases (now : Option Time)
  | reconnect (rank : Int) (nodeId instanceId : String) (now : Option Time)
  | protocolViolation (rank : Int) (reason : String)
  | checkGraceDeadlines (now : Option Time)

structure SessionCall where
  clock : Time
  op : SessionOp

def SessionCall.at (call : SessionCall) (now : Option Time) : Time := now.getD call.clock

namespace Coordinator

variable (allocation : Allocation)

def step (c : Coordinator) (call : SessionCall) : Coordinator :=
  match call.op with
  | .beginRegistration => beginRegistration call.clock c
  | .register rank nodeId instanceId => (register allocation call.clock c rank nodeId instanceId).1
  | .onRegister rank nodeId instanceId => (onRegister allocation call.clock c rank nodeId instanceId).1
  | .beginSnapshot rank snapshotId totalChunks completeHash =>
    (beginSnapshot allocation call.clock c rank snapshotId totalChunks completeHash).1
  | .addSnapshotChunk rank index payload =>
    (addSnapshotChunk allocation call.clock c rank index payload).1
  | .completeSnapshot rank verifyHash supervisorReceipt =>
    (completeSnapshot call.clock c rank verifyHash supervisorReceipt).1
  | .acknowledgeSnapshot rank commandId snapshotId completeSetHash succeeded =>
    (acknowledgeSnapshot call.clock c rank commandId snapshotId completeSetHash succeeded).1
  | .start => (start c).1
  | .checkRegistrationDeadline => checkRegistrationDeadline allocation call.clock c
  | .onDisconnect rank expected now => (onDisconnect (call.at now) c rank expected).1
  | .requestDrain rank => requestDrain c rank
  | .onHeartbeat rank now => onHeartbeat (call.at now) c rank
  | .pollLeases now => (pollLeases allocation (call.at now) c).1
  | .reconnect rank nodeId instanceId now =>
    (reconnect allocation (call.at now) c rank nodeId instanceId).1
  | .protocolViolation rank reason => protocolViolation c rank reason
  | .checkGraceDeadlines now => (checkGraceDeadlines allocation (call.at now) c).1

/-- The calls by which one rank registers, lands its snapshot and is acknowledged. -/
def establishCalls (clock : Time) (rank : Int) (nodeId instanceId snapshotId : String)
    (items : List Json) : List SessionCall :=
  let hash := canonicalHash (.arr items)
  [⟨clock, .register rank nodeId instanceId⟩,
   ⟨clock, .beginSnapshot rank snapshotId 1 hash⟩,
   ⟨clock, .addSnapshotChunk rank 0 items⟩,
   ⟨clock, .completeSnapshot rank (some hash) true⟩,
   ⟨clock, .acknowledgeSnapshot rank s!"SNAPSHOT_ACCEPTED:{rank}:{snapshotId}" snapshotId hash true⟩]

def soloAllocation : Allocation := Allocation.solo {} "n0" (by decide)

/-- The only rank of the solo allocation is brought up at time zero. -/
def soloRegistration : List SessionCall :=
  ⟨0, .beginRegistration⟩ :: establishCalls 0 0 "n0" "n0:1" "snap" []

@[simp] theorem fatal_sessions (c : Coordinator) (reason : String) :
    (c.fatal reason).sessions = c.sessions := by
  unfold fatal
  split <;> rfl

@[simp] theorem fatal_generation (c : Coordinator) (reason : String) :
    (c.fatal reason).generationState = .terminal := by
  unfold fatal
  split
  · assumption
  · rfl

@[simp] theorem setSession_sessions (c : Coordinator) (rank : Int) (session : RankSession) :
    (c.setSession rank session).sessions = c.sessions.insert rank session := rfl

@[simp] theorem dropAssembly_sessions (c : Coordinator) (rank : Int) :
    (c.dropAssembly rank).sessions = c.sessions := rfl

@[simp] theorem setAssembly_sessions (c : Coordinator) (rank : Int) (assembly : SnapshotAssembly) :
    (c.setAssembly rank assembly).sessions = c.sessions := rfl

def registerEffect (c : Coordinator) (clock : Time) (rank : Int) (nodeId instanceId : String)
    (session : RankSession) : RankSession :=
  if c.startedAt = none then session
  else if wrongNode allocation rank nodeId then { session with state := .terminal }
  else if session.state = .established ∧ instanceId = session.instanceId then session
  else { session with
    instanceId, state := .authenticated, lastHeartbeatAt := some clock, lossTime := none,
    snapshotId := "", completeSetHash := "", snapshotCommandId := "",
    snapshotAccepted := false, supervisorReceiptAccepted := false }

def reconnectEffect (now : Time) (rank : Int) (nodeId instanceId : String)
    (session : RankSession) : RankSession :=
  if !allocation.binding.isBoundNode rank nodeId then { session with state := .terminal }
  else if session.state = .terminal then session
  else if graceOver allocation now session then { session with state := .terminal }
  else { session with
    reconnects := session.reconnects + 1, snapshotAccepted := false,
    supervisorReceiptAccepted := false, snapshotId := "", completeSetHash := "",
    snapshotCommandId := "", instanceId, state := .authenticated }

/-- The snapshot declaration is in range and none is in flight for the rank. -/
def begins (c : Coordinator) (rank totalChunks : Int) (session : RankSession) : Prop :=
  session.state ≠ .expected ∧ 1 ≤ totalChunks ∧ totalChunks ≤ allocation.limits.maxSnapshotChunks ∧
    c.assemblies.get? rank = none

instance (c : Coordinator) (rank totalChunks : Int) (session : RankSession) :
    Decidable (begins allocation c rank totalChunks session) := by
  unfold begins
  have : Decidable (c.assemblies.get? rank = none) := decidable_of_iff _ Option.isNone_iff_eq_none
  infer_instance

/-- The assembly holds every chunk and its content has the expected hash. -/
def verified (verifyHash : Option String) (assembly : SnapshotAssembly) : Bool :=
  assembly.isComplete && (expectedHash verifyHash assembly = "" ||
    canonicalHash (.arr assembly.items) = expectedHash verifyHash assembly)

def recordSnapshot (rank : Int) (supervisorReceipt : Bool) (assembly : SnapshotAssembly)
    (session : RankSession) : RankSession :=
  { session with
    snapshotId := assembly.snapshotId, completeSetHash := canonicalHash (.arr assembly.items),
    snapshotCommandId := s!"SNAPSHOT_ACCEPTED:{rank}:{assembly.snapshotId}",
    snapshotAccepted := false,
    supervisorReceiptAccepted := supervisorReceipt || session.supervisorReceiptAccepted }

def completeEffect (c : Coordinator) (clock : Time) (rank : Int) (verifyHash : Option String)
    (supervisorReceipt : Bool) (session : RankSession) : RankSession :=
  match c.assemblies.get? rank with
  | none => session
  | some assembly =>
    if verified verifyHash assembly then
      if supervisorReceipt || session.supervisorReceiptAccepted then
        { recordSnapshot rank supervisorReceipt assembly session with
          state := .snapshotAckPending, lastHeartbeatAt := some clock, lossTime := none }
      else recordSnapshot rank supervisorReceipt assembly session
    else session

def acknowledgeEffect (clock : Time) (commandId snapshotId completeSetHash : String)
    (succeeded : Bool) (session : RankSession) : RankSession :=
  if session.state = .snapshotAckPending ∧ succeeded = true ∧ commandId = session.snapshotCommandId ∧
      snapshotId = session.snapshotId ∧ completeSetHash = session.completeSetHash then
    { session with snapshotAccepted := true, state := .established, lastHeartbeatAt := some clock }
  else session

def disconnectEffect (now : Time) (expected : Bool) (session : RankSession) : RankSession :=
  if expected then { session with state := .terminal }
  else if !session.isEstablished then
    { session with snapshotAccepted := false, state := .expected, lossTime := none }
  else { session with snapshotAccepted := false, state := .lost, lossTime := some now }

def heartbeatEffect (now : Time) (session : RankSession) : RankSession :=
  if session.isEstablished then { session with lastHeartbeatAt := some now } else session

/-- What a call makes of one rank's session. -/
def effect (c : Coordinator) (call : SessionCall) (rank : Int) : RankSession → RankSession :=
  match call.op with
  | .register target nodeId instanceId => fun session =>
    if target = rank then registerEffect allocation c call.clock target nodeId instanceId session
    else session
  | .onRegister target nodeId instanceId => fun session =>
    if target = rank then
      if session.state = .lost then reconnectEffect allocation call.clock target nodeId instanceId session
      else registerEffect allocation c call.clock target nodeId instanceId session
    else session
  | .beginSnapshot target _ totalChunks _ => fun session =>
    if target = rank then
      if begins allocation c target totalChunks session then
        { session with state := .snapshotPending, snapshotAccepted := false }
      else session
    else session
  | .completeSnapshot target verifyHash supervisorReceipt => fun session =>
    if target = rank then completeEffect c call.clock target verifyHash supervisorReceipt session
    else session
  | .acknowledgeSnapshot target commandId snapshotId completeSetHash succeeded => fun session =>
    if target = rank then acknowledgeEffect call.clock commandId snapshotId completeSetHash succeeded session
    else session
  | .onDisconnect target expected now => fun session =>
    if target = rank then disconnectEffect (call.at now) expected session else session
  | .onHeartbeat target now => fun session =>
    if target = rank then heartbeatEffect (call.at now) session else session
  | .pollLeases now => expireLease allocation (call.at now)
  | .reconnect target nodeId instanceId now => fun session =>
    if target = rank then reconnectEffect allocation (call.at now) target nodeId instanceId session
    else session
  | .protocolViolation target _ => fun session =>
    if target = rank then { session with state := .terminal } else session
  | .checkGraceDeadlines now => expireGrace allocation (call.at now)
  | _ => id

/-- An operation on one rank replaces that rank's session or leaves the table alone. -/
theorem session_of_target {before after : Dict Int RankSession} {target : Int}
    {change : RankSession → RankSession}
    (kept : before.get? target = none → after = before)
    (changed : ∀ session, before.get? target = some session →
      (after = before ∧ change session = session) ∨ after = before.insert target (change session))
    (rank : Int) :
    after.get? rank = (before.get? rank).map fun session =>
      if target = rank then change session else session := by
  cases found : before.get? target with
  | none =>
    rw [kept found]
    by_cases same : target = rank
    · subst same
      simp [found]
    · simp [same]
  | some session =>
    by_cases same : target = rank
    · subst same
      rcases changed session found with ⟨rfl, fixed⟩ | rfl
      · simp [found, fixed]
      · simp [found]
    · rcases changed session found with ⟨rfl, fixed⟩ | rfl
      · simp [same]
      · simp [Dict.get?_insert, same]

variable {allocation}

theorem register_session (c : Coordinator) (clock : Time) (target rank : Int) (nodeId instanceId : String) :
    (register allocation clock c target nodeId instanceId).1.sessions.get? rank =
      (c.sessions.get? rank).map fun session =>
        if target = rank then registerEffect allocation c clock target nodeId instanceId session
        else session := by
  apply session_of_target
  · intro missing
    simp only [register, missing]
  · intro session found
    simp only [register, found, registerEffect]
    split
    · exact .inl ⟨rfl, rfl⟩
    · split
      · exact .inr (by simp)
      · split
        · exact .inl ⟨rfl, rfl⟩
        · exact .inr rfl

theorem reconnect_session (c : Coordinator) (now : Time) (target rank : Int) (nodeId instanceId : String) :
    (reconnect allocation now c target nodeId instanceId).1.sessions.get? rank =
      (c.sessions.get? rank).map fun session =>
        if target = rank then reconnectEffect allocation now target nodeId instanceId session
        else session := by
  apply session_of_target
  · intro missing
    simp only [reconnect, missing]
  · intro session found
    simp only [reconnect, found, reconnectEffect]
    split
    · exact .inr (by simp)
    · split
      · exact .inl ⟨rfl, rfl⟩
      · split
        · exact .inr (by simp)
        · exact .inr rfl

theorem onRegister_session (c : Coordinator) (clock : Time) (target rank : Int) (nodeId instanceId : String) :
    (onRegister allocation clock c target nodeId instanceId).1.sessions.get? rank =
      (c.sessions.get? rank).map fun session =>
        if target = rank then
          if session.state = .lost then reconnectEffect allocation clock target nodeId instanceId session
          else registerEffect allocation c clock target nodeId instanceId session
        else session := by
  unfold onRegister
  split
  · rename_i session found
    by_cases same : target = rank
    · subst same
      split <;> rename_i lost <;> simp only [reconnect_session, register_session, found,
        Option.map_some, if_true, lost, if_false]
    · split <;> simp only [reconnect_session, register_session, same, if_false]
  · rename_i missing
    rw [register_session]
    by_cases same : target = rank
    · subst same
      simp [missing]
    · simp [same]

theorem beginSnapshot_session (c : Coordinator) (clock : Time) (target rank : Int) (snapshotId : String)
    (totalChunks : Int) (completeHash : String) :
    (beginSnapshot allocation clock c target snapshotId totalChunks completeHash).1.sessions.get? rank =
      (c.sessions.get? rank).map fun session =>
        if target = rank then
          if begins allocation c target totalChunks session then
            { session with state := .snapshotPending, snapshotAccepted := false }
          else session
        else session := by
  apply session_of_target
  · intro missing
    simp only [beginSnapshot, missing]
  · intro session found
    simp only [beginSnapshot, found]
    split
    · rename_i unexpected
      exact .inl ⟨rfl, by simp [begins, unexpected]⟩
    · rename_i known
      split
      · rename_i small
        refine .inl ⟨rfl, if_neg ?_⟩
        rintro ⟨_, enough, _⟩
        omega
      · rename_i enough
        split
        · rename_i large
          refine .inl ⟨rfl, if_neg ?_⟩
          rintro ⟨_, _, bounded, _⟩
          omega
        · rename_i bounded
          split
          · rename_i existing inFlight
            have busy : ¬ begins allocation c target totalChunks session := by
              rintro ⟨_, _, _, idle⟩
              rw [inFlight] at idle
              cases idle
            simp only [busy, if_false]
            split <;> exact .inl ⟨rfl, trivial⟩
          · rename_i idle
            have fresh : begins allocation c target totalChunks session :=
              ⟨known, by omega, by omega, idle⟩
            exact .inr (by simp [fresh])

theorem addSnapshotChunk_sessions (c : Coordinator) (clock : Time) (target index : Int)
    (payload : List Json) :
    (addSnapshotChunk allocation clock c target index payload).1.sessions = c.sessions := by
  unfold addSnapshotChunk
  split
  · rfl
  · split <;> rfl

theorem completeSnapshot_session (c : Coordinator) (clock : Time) (target rank : Int)
    (verifyHash : Option String) (supervisorReceipt : Bool) :
    (completeSnapshot clock c target verifyHash supervisorReceipt).1.sessions.get? rank =
      (c.sessions.get? rank).map fun session =>
        if target = rank then completeEffect c clock target verifyHash supervisorReceipt session
        else session := by
  apply session_of_target
  · intro missing
    cases inFlight : c.assemblies.get? target <;> simp only [completeSnapshot, missing, inFlight]
  · intro session found
    cases inFlight : c.assemblies.get? target with
    | none =>
      simp only [completeSnapshot, completeEffect, found, inFlight]
      exact .inl ⟨trivial, trivial⟩
    | some assembly =>
      simp only [completeSnapshot, completeEffect, found, inFlight]
      cases complete : assembly.isComplete with
      | false => exact .inl ⟨by simp, by simp [verified, complete]⟩
      | true =>
        by_cases mismatch : expectedHash verifyHash assembly ≠ "" ∧
            canonicalHash (.arr assembly.items) ≠ expectedHash verifyHash assembly
        · refine .inl ⟨by simp [mismatch], ?_⟩
          simp [verified, mismatch.1, mismatch.2]
        · have accepted : verified verifyHash assembly = true := by
            simp only [verified, complete, Bool.true_and, Bool.or_eq_true, decide_eq_true_eq]
            by_cases empty : expectedHash verifyHash assembly = ""
            · exact .inl empty
            · exact .inr (not_not.mp fun other => mismatch ⟨empty, other⟩)
          simp only [accepted, if_true, mismatch, if_false, Bool.not_true, Bool.false_eq_true]
          cases receipt : supervisorReceipt || session.supervisorReceiptAccepted
          · exact .inr (by simp [recordSnapshot, receipt])
          · exact .inr (by simp [recordSnapshot, receipt])

theorem acknowledgeSnapshot_session (c : Coordinator) (clock : Time) (target rank : Int)
    (commandId snapshotId completeSetHash : String) (succeeded : Bool) :
    (acknowledgeSnapshot clock c target commandId snapshotId completeSetHash succeeded).1.sessions.get? rank =
      (c.sessions.get? rank).map fun session =>
        if target = rank then
          acknowledgeEffect clock commandId snapshotId completeSetHash succeeded session
        else session := by
  apply session_of_target
  · intro missing
    simp only [acknowledgeSnapshot, missing]
  · intro session found
    simp only [acknowledgeSnapshot, found, acknowledgeEffect]
    by_cases pending : session.state = .snapshotAckPending
    · cases succeeded with
      | false => exact .inl ⟨by simp [pending], by simp⟩
      | true =>
        by_cases command : commandId = session.snapshotCommandId
        · by_cases snapshot : snapshotId = session.snapshotId
          · by_cases hash : completeSetHash = session.completeSetHash
            · exact .inr (by simp [pending, command, snapshot, hash])
            · exact .inl ⟨by simp [pending, command, snapshot, hash], by simp [hash]⟩
          · exact .inl ⟨by simp [pending, command, snapshot], by simp [snapshot]⟩
        · exact .inl ⟨by simp [pending, command], by simp [command]⟩
    · exact .inl ⟨by simp [pending], by simp [pending]⟩

theorem onDisconnect_session (c : Coordinator) (now : Time) (target rank : Int) (expected : Bool) :
    (onDisconnect now c target expected).1.sessions.get? rank =
      (c.sessions.get? rank).map fun session =>
        if target = rank then disconnectEffect now expected session else session := by
  apply session_of_target
  · intro missing
    simp only [onDisconnect, missing]
  · intro session found
    simp only [onDisconnect, found, disconnectEffect]
    split
    · exact .inr rfl
    · split <;> exact .inr rfl

theorem onHeartbeat_session (c : Coordinator) (now : Time) (target rank : Int) :
    (onHeartbeat now c target).sessions.get? rank =
      (c.sessions.get? rank).map fun session =>
        if target = rank then heartbeatEffect now session else session := by
  apply session_of_target
  · intro missing
    simp only [onHeartbeat, missing]
  · intro session found
    simp only [onHeartbeat, found, heartbeatEffect]
    split
    · exact .inr rfl
    · exact .inl ⟨rfl, rfl⟩

theorem protocolViolation_session (c : Coordinator) (target rank : Int) (reason : String) :
    (protocolViolation c target reason).sessions.get? rank =
      (c.sessions.get? rank).map fun session =>
        if target = rank then { session with state := .terminal } else session := by
  apply session_of_target
  · intro missing
    simp only [protocolViolation, missing, fatal_sessions, dropAssembly_sessions]
  · intro session found
    exact .inr (by simp [protocolViolation, found])

theorem checkGraceDeadlines_sessions (c : Coordinator) (now : Time) :
    (checkGraceDeadlines allocation now c).1.sessions =
      c.sessions.mapValues fun _ => expireGrace allocation now := by
  unfold checkGraceDeadlines
  dsimp only
  split
  · rfl
  · rw [fatal_sessions]

theorem checkRegistrationDeadline_sessions (c : Coordinator) (clock : Time) :
    (checkRegistrationDeadline allocation clock c).sessions = c.sessions := by
  unfold checkRegistrationDeadline
  split
  · split
    · rfl
    · dsimp only
      split
      · rfl
      · rw [fatal_sessions]
  · rfl

theorem start_sessions (c : Coordinator) : (start c).1.sessions = c.sessions := by
  unfold start
  split <;> rfl

theorem beginRegistration_sessions (c : Coordinator) (clock : Time) :
    (beginRegistration clock c).sessions = c.sessions := by
  unfold beginRegistration
  split
  · rfl
  · split <;> rfl

theorem requestDrain_sessions (c : Coordinator) (rank : Int) :
    (requestDrain c rank).sessions = c.sessions := by
  unfold requestDrain
  split <;> rfl

/-- Every call acts on each rank's session through its effect, and adds or
    removes no session. -/
theorem step_session (c : Coordinator) (call : SessionCall) (rank : Int) :
    (step allocation c call).sessions.get? rank =
      (c.sessions.get? rank).map (effect allocation c call rank) := by
  obtain ⟨clock, op⟩ := call
  cases op with
  | beginRegistration => simp [step, effect, beginRegistration_sessions]
  | register target nodeId instanceId => simp only [step, effect, register_session]
  | onRegister target nodeId instanceId => simp only [step, effect, onRegister_session]
  | beginSnapshot target snapshotId totalChunks completeHash =>
    simp only [step, effect, beginSnapshot_session]
  | addSnapshotChunk target index payload => simp [step, effect, addSnapshotChunk_sessions]
  | completeSnapshot target verifyHash supervisorReceipt =>
    simp only [step, effect, completeSnapshot_session]
  | acknowledgeSnapshot target commandId snapshotId completeSetHash succeeded =>
    simp only [step, effect, acknowledgeSnapshot_session]
  | start => simp [step, effect, start_sessions]
  | checkRegistrationDeadline => simp [step, effect, checkRegistrationDeadline_sessions]
  | onDisconnect target expected now => simp only [step, effect, onDisconnect_session]
  | requestDrain target => simp [step, effect, requestDrain_sessions]
  | onHeartbeat target now => simp only [step, effect, onHeartbeat_session]
  | pollLeases now => simp only [step, effect, pollLeases, Dict.get?_mapValues]
  | reconnect target nodeId instanceId now => simp only [step, effect, reconnect_session]
  | protocolViolation target reason => simp only [step, effect, protocolViolation_session]
  | checkGraceDeadlines now =>
    simp only [step, effect, checkGraceDeadlines_sessions, Dict.get?_mapValues]

end Coordinator

end ExaServe.Control
