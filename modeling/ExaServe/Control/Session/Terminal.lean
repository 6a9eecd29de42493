import ExaServe.Control.Session.Steps

namespace ExaServe.Control.Coordinator

open Lib Plan

variable (allocation : Allocation)

/-- The call leaves a TERMINAL session of the rank alone: it is not an accepted
    REGISTER, a snapshot begun or completed, or an unexpected disconnect of it. -/
def KeepsTerminal (rank : Int) (c : Coordinator) (call : SessionCall) : Prop :=
  match call.op with
  | .register target nodeId _ | .onRegister target nodeId _ =>
    target = rank → c.startedAt = none ∨ wrongNode allocation rank nodeId = true
  | .beginSnapshot target _ totalChunks _ =>
    target = rank → ¬ (1 ≤ totalChunks ∧ totalChunks ≤ allocation.limits.maxSnapshotChunks ∧
      (c.assemblies.get? rank).isNone)
  | .completeSnapshot target verifyHash supervisorReceipt =>
    target = rank → ¬ ((c.assemblies.get? rank).any (verified verifyHash) ∧
      (supervisorReceipt || (c.sessions.get? rank).any RankSession.supervisorReceiptAccepted) = true)
  | .onDisconnect target expected _ => target = rank → expected = true
  | _ => True

instance (rank : Int) (c : Coordinator) (call : SessionCall) :
    Decidable (KeepsTerminal allocation rank c call) := by
  unfold KeepsTerminal
  split <;> infer_instance

variable {allocation}

theorem holdsTerminal_iff {c : Coordinator} {rank : Int} :
    c.holdsTerminal rank = true ↔ ∃ session, c.sessions.get? rank = some session ∧
      session.state = .terminal := by
  cases found : c.sessions.get? rank <;> simp [holdsTerminal, found]

theorem holdsTerminal_not_established {c : Coordinator} {rank : Int}
    (terminal : c.holdsTerminal rank = true) : c.holdsEstablished rank = false := by
  obtain ⟨session, found, state⟩ := holdsTerminal_iff.mp terminal
  simp [holdsEstablished, found, RankSession.isEstablished, state]

section Effects

variable {c : Coordinator} {clock : Time} {rank : Int} {session : RankSession}

theorem registerEffect_terminal_iff (terminal : session.state = .terminal) (nodeId instanceId : String) :
    (registerEffect allocation c clock rank nodeId instanceId session).state = .terminal ↔
      c.startedAt = none ∨ wrongNode allocation rank nodeId = true := by
  unfold registerEffect
  split
  · rename_i early
    simp [early, terminal]
  · rename_i begun
    split
    · rename_i wrong
      simp [wrong]
    · rename_i bound
      simp [begun, bound, terminal]

theorem completeEffect_terminal_iff (terminal : session.state = .terminal)
    (verifyHash : Option String) (supervisorReceipt : Bool) :
    (completeEffect c clock rank verifyHash supervisorReceipt session).state = .terminal ↔
      ¬ ((c.assemblies.get? rank).any (verified verifyHash) ∧
        (supervisorReceipt || session.supervisorReceiptAccepted) = true) := by
  unfold completeEffect
  split
  · rename_i idle
    simp [idle, terminal]
  · rename_i assembly inFlight
    simp only [inFlight, Option.any_some]
    split
    · rename_i good
      split
      · rename_i receipt
        simp [good, receipt]
      · rename_i missing
        simp only [good, missing, Bool.false_eq_true, and_false, not_false_iff, iff_true]
        exact terminal
    · rename_i bad
      simp [bad, terminal]

end Effects

/-- One call keeps a TERMINAL session TERMINAL exactly when it is of the listed kind. -/
theorem step_terminal_iff {c : Coordinator} (call : SessionCall) {rank : Int}
    (terminal : c.holdsTerminal rank = true) :
    (step allocation c call).holdsTerminal rank = true ↔ KeepsTerminal allocation rank c call := by
  obtain ⟨session, found, state⟩ := holdsTerminal_iff.mp terminal
  have after : (step allocation c call).holdsTerminal rank = true ↔
      (effect allocation c call rank session).state = .terminal := by
    simp [holdsTerminal, step_session, found]
  rw [after]
  obtain ⟨clock, op⟩ := call
  cases op with
  | register target nodeId instanceId =>
    simp only [effect, KeepsTerminal]
    by_cases here : target = rank
    · subst here
      simp only [if_true, true_implies]
      exact registerEffect_terminal_iff state nodeId instanceId
    · simp [here, state]
  | onRegister target nodeId instanceId =>
    simp only [effect, KeepsTerminal]
    by_cases here : target = rank
    · subst here
      simp only [if_true, true_implies, state, reduceCtorEq, if_false]
      exact registerEffect_terminal_iff state nodeId instanceId
    · simp [here, state]
  | beginSnapshot target snapshotId totalChunks completeHash =>
    simp only [effect, KeepsTerminal]
    by_cases here : target = rank
    · subst here
      simp only [if_true, true_implies]
      split
      · rename_i fresh
        simp [fresh.2.1, fresh.2.2.1, fresh.2.2.2]
      · rename_i refused
        simp only [state, true_iff]
        rintro ⟨enough, bounded, idle⟩
        exact refused ⟨by rw [state]; decide, enough, bounded, Option.isNone_iff_eq_none.mp idle⟩
    · simp [here, state]
  | completeSnapshot target verifyHash supervisorReceipt =>
    simp only [effect, KeepsTerminal]
    by_cases here : target = rank
    · subst here
      simp only [if_true, true_implies, found, Option.any_some]
      exact completeEffect_terminal_iff state verifyHash supervisorReceipt
    · simp [here, state]
  | acknowledgeSnapshot target commandId snapshotId completeSetHash succeeded =>
    simp [effect, KeepsTerminal, acknowledgeEffect, state]
  | onDisconnect target expected now =>
    simp only [effect, KeepsTerminal]
    by_cases here : target = rank
    · subst here
      cases expected <;> simp [disconnectEffect, RankSession.isEstablished, state]
    · simp [here, state]
  | onHeartbeat target now =>
    simp [effect, KeepsTerminal, heartbeatEffect, RankSession.isEstablished, state]
  | pollLeases now =>
    simp [effect, KeepsTerminal, expireLease, leaseExpired, RankSession.isEstablished, state]
  | reconnect target nodeId instanceId now =>
    simp only [effect, KeepsTerminal, reconnectEffect, state, if_true]
    split
    · split
      · simp
      · simp [state]
    · simp [state]
  | protocolViolation target reason =>
    simp only [effect, KeepsTerminal, iff_true]
    split
    · rfl
    · exact state
  | checkGraceDeadlines now =>
    simp [effect, KeepsTerminal, expireGrace, graceExpired, state]
  | beginRegistration | addSnapshotChunk | start | checkRegistrationDeadline | requestDrain =>
    simp [effect, KeepsTerminal, state]

/-- A TERMINAL session stays TERMINAL through a run, and so never becomes
    ESTABLISHED, exactly when every call of the run leaves it alone. -/
theorem terminal_run_iff (allocation : Allocation) (before after : List SessionCall) (rank : Int)
    (terminal : (run (step allocation) (create allocation) before).holdsTerminal rank = true) :
    Throughout (step allocation)
        (fun c => c.holdsTerminal rank = true ∧ c.holdsEstablished rank = false)
        (run (step allocation) (create allocation) before) after ↔
      Along (step allocation) (KeepsTerminal allocation rank)
        (run (step allocation) (create allocation) before) after := by
  apply throughout_iff_along
  · rintro c call ⟨stays, _⟩
    constructor
    · rintro ⟨kept, _⟩
      exact (step_terminal_iff call stays).mp kept
    · intro keeps
      have kept := (step_terminal_iff call stays).mpr keeps
      exact ⟨kept, holdsTerminal_not_established kept⟩
  · exact ⟨terminal, holdsTerminal_not_established terminal⟩

/-- The solo rank is established and then breaks the protocol. -/
def soloViolation : List SessionCall :=
  soloRegistration ++ [⟨5, .protocolViolation 0 "SEQUENCE_REGRESSION: seq=3 last=7"⟩]

theorem solo_violation_stays_terminal :
    (run (step soloAllocation) (create soloAllocation) soloViolation).holdsTerminal 0 = true ∧
      Throughout (step soloAllocation)
        (fun c => c.holdsTerminal 0 = true ∧ c.holdsEstablished 0 = false)
        (run (step soloAllocation) (create soloAllocation) soloViolation)
        [⟨6, .reconnect 0 "n0" "n0:2" none⟩, ⟨7, .onHeartbeat 0 none⟩, ⟨8, .pollLeases none⟩] := by
  have terminal : (run (step soloAllocation) (create soloAllocation) soloViolation).holdsTerminal 0 =
      true := by decide +kernel
  refine ⟨terminal, (terminal_run_iff soloAllocation soloViolation _ 0 terminal).mpr ?_⟩
  exact ⟨trivial, trivial, trivial, trivial⟩

/-- The listener reports the disconnect that follows every violation, and the rank
    registers again. -/
def soloResurrection : List SessionCall :=
  let hash := canonicalHash (.arr [])
  [⟨5, .onDisconnect 0 false none⟩, ⟨6, .onRegister 0 "n0" "n0:2"⟩, ⟨6, .beginSnapshot 0 "again" 1 hash⟩,
   ⟨6, .addSnapshotChunk 0 0 []⟩, ⟨6, .completeSnapshot 0 (some hash) true⟩,
   ⟨6, .acknowledgeSnapshot 0 "SNAPSHOT_ACCEPTED:0:again" "again" hash true⟩]

theorem violated_rank_established_again :
    (run (step soloAllocation) (create soloAllocation) soloViolation).holdsTerminal 0 = true ∧
      (run (step soloAllocation) (create soloAllocation)
        (soloViolation ++ soloResurrection)).holdsEstablished 0 = true := by
  decide +kernel

end ExaServe.Control.Coordinator
