import ExaServe.Control.Session.Steps

namespace ExaServe.Control.Coordinator

open Lib Plan

/-- No rank becomes ESTABLISHED, and one that stays so keeps its snapshot. -/
structure Lowers (before after : Coordinator) : Prop where
  planned : ∀ rank, (after.sessions.get? rank).isSome = (before.sessions.get? rank).isSome
  established : ∀ rank session, after.sessions.get? rank = some session → session.state = .established →
    ∃ earlier, before.sessions.get? rank = some earlier ∧ earlier.state = .established ∧
      earlier.snapshotId = session.snapshotId ∧ earlier.completeSetHash = session.completeSetHash

namespace Lowers

theorem refl (c : Coordinator) : Lowers c c :=
  ⟨fun _ => rfl, fun _ session found state => ⟨session, found, state, rfl, rfl⟩⟩

theorem trans {first second third : Coordinator} (early : Lowers first second) (late : Lowers second third) :
    Lowers first third := by
  refine ⟨fun rank => (late.planned rank).trans (early.planned rank), ?_⟩
  intro rank session found state
  obtain ⟨middle, middle_found, middle_state, middle_id, middle_hash⟩ := late.established rank session found state
  obtain ⟨earlier, earlier_found, earlier_state, earlier_id, earlier_hash⟩ :=
    early.established rank middle middle_found middle_state
  exact ⟨earlier, earlier_found, earlier_state, earlier_id.trans middle_id, earlier_hash.trans middle_hash⟩

end Lowers

/-- A change of one session under which it does not become ESTABLISHED. -/
def Lowering (change : RankSession → RankSession) : Prop :=
  ∀ session, (change session).state = .established →
    session.state = .established ∧ session.snapshotId = (change session).snapshotId ∧
      session.completeSetHash = (change session).completeSetHash

theorem Lowering.ite {condition : RankSession → Prop} [DecidablePred condition]
    {change other : RankSession → RankSession} (first : Lowering change) (second : Lowering other) :
    Lowering fun session => if condition session then change session else other session := by
  intro session state
  by_cases holds : condition session
  · simp only [holds, if_true] at state ⊢
    exact first session state
  · simp only [holds, if_false] at state ⊢
    exact second session state

theorem lowering_id : Lowering id := fun _ state => ⟨state, rfl, rfl⟩

/-- A change to another state than ESTABLISHED. -/
theorem lowering_of_state {change : RankSession → RankSession}
    (state : ∀ session, (change session).state ≠ .established) : Lowering change :=
  fun session established => absurd established (state session)

theorem lowering_register (allocation : Allocation) (c : Coordinator) (clock : Time) (rank : Int)
    (nodeId instanceId : String) : Lowering (registerEffect allocation c clock rank nodeId instanceId) := by
  intro session state
  unfold registerEffect at state ⊢
  split_ifs at state ⊢ with missing wrong same
  · exact ⟨state, rfl, rfl⟩
  · exact ⟨same.1, rfl, rfl⟩

theorem lowering_reconnect (allocation : Allocation) (now : Time) (rank : Int) (nodeId instanceId : String) :
    Lowering (reconnectEffect allocation now rank nodeId instanceId) := by
  intro session state
  unfold reconnectEffect at state ⊢
  split_ifs at state ⊢ with wrong terminal exceeded
  exact ⟨state, rfl, rfl⟩

theorem lowering_complete (c : Coordinator) (clock : Time) (rank : Int) (verifyHash : Option String) :
    Lowering (completeEffect c clock rank verifyHash true) := by
  intro session state
  unfold completeEffect at state ⊢
  split at state
  · exact ⟨state, rfl, rfl⟩
  · simp only [Bool.true_or, if_true] at state ⊢
    split_ifs at state ⊢ with verified
    exact ⟨state, rfl, rfl⟩

theorem lowering_disconnect (now : Time) (expected : Bool) : Lowering (disconnectEffect now expected) := by
  refine lowering_of_state ?_
  intro session
  unfold disconnectEffect
  split_ifs <;> simp

theorem lowering_heartbeat (now : Time) : Lowering (heartbeatEffect now) := by
  intro session state
  unfold heartbeatEffect at state ⊢
  split_ifs at state ⊢ <;> exact ⟨state, rfl, rfl⟩

theorem lowering_lease (allocation : Allocation) (now : Time) : Lowering (expireLease allocation now) := by
  intro session state
  unfold expireLease at state ⊢
  split_ifs at state ⊢
  exact ⟨state, rfl, rfl⟩

theorem lowering_grace (allocation : Allocation) (now : Time) : Lowering (expireGrace allocation now) := by
  intro session state
  unfold expireGrace at state ⊢
  split_ifs at state ⊢
  exact ⟨state, rfl, rfl⟩

/-- The calls that cannot establish a rank, a snapshot completed with its supervisor
    receipt among them. -/
def lowersOnly : SessionOp → Bool
  | .acknowledgeSnapshot .. => false
  | .completeSnapshot _ _ supervisorReceipt => supervisorReceipt
  | _ => true

theorem lowering_target {change : RankSession → RankSession} (lowering : Lowering change) (target rank : Int) :
    Lowering fun session => if target = rank then change session else session :=
  @Lowering.ite (fun _ => target = rank) _ _ _ lowering lowering_id

theorem lowering_effect (allocation : Allocation) (c : Coordinator) (call : SessionCall) (rank : Int)
    (lowers : lowersOnly call.op = true) : Lowering (effect allocation c call rank) := by
  obtain ⟨clock, op⟩ := call
  cases op with
  | register target nodeId instanceId =>
    exact lowering_target (lowering_register allocation c clock target nodeId instanceId) target rank
  | onRegister target nodeId instanceId =>
    exact lowering_target (@Lowering.ite (fun session => session.state = .lost) _ _ _
      (lowering_reconnect allocation clock target nodeId instanceId)
      (lowering_register allocation c clock target nodeId instanceId)) target rank
  | beginSnapshot target snapshotId totalChunks completeHash =>
    refine lowering_target (@Lowering.ite (begins allocation c target totalChunks) _ _ _ ?_ lowering_id) target rank
    exact lowering_of_state fun session => by simp
  | completeSnapshot target verifyHash supervisorReceipt =>
    have given : supervisorReceipt = true := lowers
    subst given
    exact lowering_target (lowering_complete c clock target verifyHash) target rank
  | acknowledgeSnapshot target commandId snapshotId completeSetHash succeeded => cases lowers
  | onDisconnect target expected now => exact lowering_target (lowering_disconnect _ expected) target rank
  | onHeartbeat target now => exact lowering_target (lowering_heartbeat _) target rank
  | pollLeases now => exact lowering_lease allocation _
  | reconnect target nodeId instanceId now =>
    exact lowering_target (lowering_reconnect allocation _ target nodeId instanceId) target rank
  | protocolViolation target reason =>
    refine lowering_target ?_ target rank
    exact lowering_of_state fun session => by simp
  | checkGraceDeadlines now => exact lowering_grace allocation _
  | beginRegistration | addSnapshotChunk | start | checkRegistrationDeadline | requestDrain => exact lowering_id

theorem step_lowers (allocation : Allocation) (c : Coordinator) (call : SessionCall)
    (lowers : lowersOnly call.op = true) : Lowers c (step allocation c call) := by
  refine ⟨?_, ?_⟩
  · intro rank
    rw [step_session, Option.isSome_map]
  · intro rank session found state
    rw [step_session, Option.map_eq_some_iff] at found
    obtain ⟨earlier, earlier_found, rfl⟩ := found
    exact ⟨earlier, earlier_found, lowering_effect allocation c call rank lowers earlier state⟩

/-- An acknowledgment that is refused changes nothing. -/
theorem acknowledgeSnapshot_refused {c : Coordinator} {clock : Time} {rank : Int}
    {commandId snapshotId completeSetHash : String} {succeeded : Bool}
    (refused : (acknowledgeSnapshot clock c rank commandId snapshotId completeSetHash succeeded).2.1 = false) :
    (acknowledgeSnapshot clock c rank commandId snapshotId completeSetHash succeeded).1 = c := by
  unfold acknowledgeSnapshot at refused ⊢
  split
  · rfl
  · rename_i session found
    simp only [found] at refused
    split_ifs at refused ⊢ <;> rfl

/-- An acknowledgment that is accepted names the snapshot the coordinator holds. -/
theorem acknowledgeSnapshot_accepted {c : Coordinator} {clock : Time} {rank : Int}
    {commandId snapshotId completeSetHash : String} {succeeded : Bool}
    (accepted : (acknowledgeSnapshot clock c rank commandId snapshotId completeSetHash succeeded).2.1 = true) :
    ∃ session, c.sessions.get? rank = some session ∧ session.snapshotId = snapshotId ∧
      session.completeSetHash = completeSetHash ∧
      (acknowledgeSnapshot clock c rank commandId snapshotId completeSetHash succeeded).1.sessions =
        c.sessions.insert rank { session with
          snapshotAccepted := true, state := .established, lastHeartbeatAt := some clock } := by
  unfold acknowledgeSnapshot at accepted ⊢
  split at accepted
  · cases accepted
  · rename_i session found
    split_ifs at accepted with pending failed command id_differs hash_differs
    refine ⟨session, found, (not_not.mp id_differs).symm, (not_not.mp hash_differs).symm, ?_⟩
    simp only [pending, failed, command, id_differs, hash_differs, if_false]
    rfl

end ExaServe.Control.Coordinator
