import ExaServe.Control.Head.Agreement
import ExaServe.Control.Transport.GoodbyeRecords

namespace ExaServe.Control

open Lib Plan

namespace Coordinator

variable (allocation : Allocation)

@[simp] theorem fatal_drains (c : Coordinator) (reason : String) :
    (c.fatal reason).drainRequested = c.drainRequested := by
  unfold fatal
  split <;> rfl

@[simp] theorem setSession_drains (c : Coordinator) (rank : Int) (session : RankSession) :
    (c.setSession rank session).drainRequested = c.drainRequested := rfl

@[simp] theorem dropAssembly_drains (c : Coordinator) (rank : Int) :
    (c.dropAssembly rank).drainRequested = c.drainRequested := rfl

@[simp] theorem setAssembly_drains (c : Coordinator) (rank : Int) (assembly : SnapshotAssembly) :
    (c.setAssembly rank assembly).drainRequested = c.drainRequested := rfl

theorem register_drains (c : Coordinator) (clock : Time) (rank : Int) (nodeId instanceId : String) :
    (register allocation clock c rank nodeId instanceId).1.drainRequested = c.drainRequested := by
  unfold register
  split
  · rfl
  split_ifs
  · rfl
  · simp
  · rfl
  · rfl

theorem reconnect_drains (c : Coordinator) (now : Time) (rank : Int) (nodeId instanceId : String) :
    (reconnect allocation now c rank nodeId instanceId).1.drainRequested = c.drainRequested := by
  unfold reconnect
  split
  · rfl
  split_ifs
  · simp
  · rfl
  · simp
  · rfl

theorem beginSnapshot_drains (c : Coordinator) (clock : Time) (rank : Int) (snapshotId : String)
    (totalChunks : Int) (completeHash : String) :
    (beginSnapshot allocation clock c rank snapshotId totalChunks completeHash).1.drainRequested =
      c.drainRequested := by
  unfold beginSnapshot
  split
  · rfl
  split_ifs
  · rfl
  · rfl
  · rfl
  · split
    · split_ifs <;> rfl
    · rfl

theorem completeSnapshot_drains (c : Coordinator) (clock : Time) (rank : Int) (verifyHash : Option String)
    (supervisorReceipt : Bool) :
    (completeSnapshot clock c rank verifyHash supervisorReceipt).1.drainRequested = c.drainRequested := by
  unfold completeSnapshot
  split
  · dsimp only
    split_ifs <;> rfl
  · rfl

theorem acknowledgeSnapshot_drains (c : Coordinator) (clock : Time) (rank : Int)
    (commandId snapshotId completeSetHash : String) (succeeded : Bool) :
    (acknowledgeSnapshot clock c rank commandId snapshotId completeSetHash succeeded).1.drainRequested =
      c.drainRequested := by
  unfold acknowledgeSnapshot
  split
  · rfl
  · split_ifs <;> rfl

theorem onDisconnect_drains (c : Coordinator) (now : Time) (rank : Int) (expected : Bool) :
    (onDisconnect now c rank expected).1.drainRequested = c.drainRequested := by
  unfold onDisconnect
  split
  · rfl
  · split_ifs <;> rfl

theorem protocolViolation_drains (c : Coordinator) (rank : Int) (reason : String) :
    (protocolViolation c rank reason).drainRequested = c.drainRequested := by
  unfold protocolViolation
  dsimp only
  rw [fatal_drains, dropAssembly_drains]
  split <;> rfl

/-- Of all calls only a drain request adds to the drain set. -/
theorem step_drains (c : Coordinator) (call : SessionCall) (other : ∀ rank, call.op ≠ .requestDrain rank) :
    (step allocation c call).drainRequested = c.drainRequested := by
  unfold step
  split
  · unfold beginRegistration
    split_ifs <;> rfl
  · exact register_drains allocation c _ _ _ _
  · unfold onRegister
    split
    · split_ifs
      · exact reconnect_drains allocation c _ _ _ _
      · exact register_drains allocation c _ _ _ _
    · exact register_drains allocation c _ _ _ _
  · exact beginSnapshot_drains allocation c _ _ _ _ _
  · unfold addSnapshotChunk
    split
    · rfl
    · dsimp only
      split_ifs <;> rfl
  · exact completeSnapshot_drains c _ _ _ _
  · exact acknowledgeSnapshot_drains c _ _ _ _ _ _
  · unfold start
    split_ifs <;> rfl
  · unfold checkRegistrationDeadline
    split
    · dsimp only
      split_ifs
      · rfl
      · rfl
      · exact fatal_drains c _
    · rfl
  · exact onDisconnect_drains c _ _ _
  · rename_i rank asked
    exact absurd asked (other rank)
  · unfold onHeartbeat
    split
    · rfl
    · split_ifs <;> rfl
  · rfl
  · exact reconnect_drains allocation c _ _ _ _
  · exact protocolViolation_drains c _ _
  · unfold checkGraceDeadlines
    dsimp only
    split_ifs
    · rfl
    · exact fatal_drains _ _

end Coordinator

namespace Listener

variable {σ α : Type} (config : ListenerConfig) (callbacks : Callbacks σ α)

/-- The callbacks of an owner that does nothing on its own. -/
def idle : Callbacks σ α := { callbacks with act := fun _ _ owner _ => owner }

theorem sinkReceipts_idle (clock : Time) (owner : σ) (rank : Int) (receipts : List (List (String × Json))) :
    sinkReceipts (idle callbacks) clock owner rank receipts = sinkReceipts callbacks clock owner rank receipts := by
  induction receipts generalizing owner with
  | nil => rfl
  | cons receipt rest ih =>
    unfold sinkReceipts
    dsimp only [idle]
    rcases callbacks.onReceipt clock owner rank receipt with ⟨after, error | _⟩
    · rfl
    · exact ih after

theorem sinkObservations_idle (clock : Time) (owner : σ) (rank : Int) (observations : List ComponentObservation) :
    sinkObservations (idle callbacks) clock owner rank observations =
      sinkObservations callbacks clock owner rank observations := by
  induction observations generalizing owner with
  | nil => rfl
  | cons obs rest ih =>
    unfold sinkObservations
    dsimp only [idle]
    rcases callbacks.onObservation clock owner rank obs with ⟨after, error | _⟩
    · rfl
    · exact ih after

theorem handleSnapshot_idle : handleSnapshot config (idle callbacks) = handleSnapshot config callbacks := by
  have sinks : plainSinks (idle callbacks) = plainSinks callbacks := by
    funext clock owner rank snapshot
    unfold plainSinks
    simp only [sinkReceipts_idle, sinkObservations_idle]
  funext clock l c info env
  unfold handleSnapshot
  rw [sinks]
  rfl

/-- Only an owner's own actions are missed by an idle owner. -/
theorem step_idle (l : Listener σ) (clock : Time) (event : HeadEvent α) (other : ∀ action, event ≠ .act action) :
    l.step config (idle callbacks) (clock, event) = l.step config callbacks (clock, event) := by
  cases event with
  | act action => exact absurd rfl (other action)
  | frame c env =>
    unfold step handleFrame handleSession handleKind
    rw [handleSnapshot_idle]
    rfl
  | _ => rfl

end Listener

namespace HeadChannel

variable (config : HeadConfig)

def SameDrains (before after : HeadChannel) : Prop :=
  after.coordinator.drainRequested = before.coordinator.drainRequested

theorem sameDrains_step (clock : Time) (op : SessionOp) (other : ∀ rank, op ≠ .requestDrain rank)
    {before after : HeadChannel}
    (stepped : after.coordinator = Coordinator.step config.allocation before.coordinator ⟨clock, op⟩) :
    SameDrains before after := by
  unfold SameDrains
  rw [stepped]
  exact Coordinator.step_drains config.allocation before.coordinator ⟨clock, op⟩ other

theorem sameDrains_of {before after : HeadChannel} (same : after.coordinator = before.coordinator) :
    SameDrains before after := congrArg Coordinator.drainRequested same

theorem sameDrains_projectSnapshot (clock : Time) (c : Coordinator) (rank : Int) (snapshot : PendingSnapshot) :
    (projectSnapshot config clock c rank snapshot).1.drainRequested = c.drainRequested := by
  have beginning := Coordinator.step_drains config.allocation c
    ⟨clock, .beginSnapshot rank snapshot.snapshotId 1 snapshot.hash⟩ (fun _ asked => by cases asked)
  unfold projectSnapshot
  split
  · rename_i begun detail answered
    simp only [Coordinator.step, answered] at beginning
    exact beginning
  · rename_i begun detail answered
    simp only [Coordinator.step, answered] at beginning
    have adding := Coordinator.step_drains config.allocation begun
      ⟨clock, .addSnapshotChunk rank 0 (snapshot.items.map SnapshotItem.toJson)⟩ (fun _ asked => by cases asked)
    split
    · rename_i added reason chunked
      simp only [Coordinator.step, chunked] at adding
      exact adding.trans beginning
    · rename_i added reason chunked
      simp only [Coordinator.step, chunked] at adding
      have completing := Coordinator.completeSnapshot_drains added clock rank (some snapshot.hash) true
      exact completing.trans (adding.trans beginning)

theorem sameDrains_snapshotStaged (clock : Time) (h : HeadChannel) (rank : Int) (snapshot : PendingSnapshot)
    (outcome : StageOutcome) : SameDrains h (h.snapshotStaged config clock rank snapshot outcome).1 := by
  have projecting := sameDrains_projectSnapshot config clock h.coordinator rank snapshot
  unfold snapshotStaged
  split
  · exact sameDrains_of rfl
  · exact sameDrains_of rfl
  · split
    · rename_i coordinator detail answered
      rw [answered] at projecting
      exact projecting
    · rename_i coordinator detail answered
      rw [answered] at projecting
      dsimp only
      split
      · split
        · exact projecting
        · rename_i queued accepted
          unfold SameDrains
          rw [submitDurable_coordinator config accepted]
          exact projecting
      · unfold SameDrains
        rw [publishSnapshot_coordinator]
        exact projecting

theorem sameDrains_onSnapshotAck (clock : Time) (h : HeadChannel) (rank : Int) (result : CommandResult) :
    SameDrains h (h.onSnapshotAck clock rank result).1 := by
  unfold onSnapshotAck
  split
  · rfl
  · exact Coordinator.acknowledgeSnapshot_drains h.coordinator clock rank _ _ _ _

theorem idle_drains : (Listener.idle (callbacks config)).Within SameDrains where
  refl _ := rfl
  trans early late := late.trans early
  onRegister clock h rank nodeId instanceId :=
    sameDrains_step config clock (.onRegister rank nodeId instanceId) (fun _ asked => by cases asked) rfl
  onObservation clock h rank obs := sameDrains_of (onObservation_coordinator clock h rank obs)
  onReceipt _ h rank payload := sameDrains_of (onReceipt_coordinator config h rank payload)
  arrived callback clock h rank snapshot given := by
    cases given
    exact sameDrains_of (snapshotArrived_coordinator config h rank snapshot)
  staged callback clock h rank snapshot outcome given := by
    cases given
    exact sameDrains_snapshotStaged config clock h rank snapshot outcome
  committed callback clock h rank snapshot outcome given := by
    cases given
    exact sameDrains_of (snapshotCommitted_coordinator clock h rank snapshot outcome)
  onSnapshotAck clock h rank result _ := sameDrains_onSnapshotAck clock h rank result
  onProtocolViolation clock h rank reason :=
    sameDrains_step config clock (.protocolViolation rank reason) (fun _ asked => by cases asked) rfl
  onHeartbeat clock h rank :=
    sameDrains_step config clock (.onHeartbeat rank none) (fun _ asked => by cases asked) rfl
  onSessionChange clock h rank connected expected := by
    cases connected with
    | true => exact sameDrains_of rfl
    | false =>
      unfold SameDrains
      dsimp only [Listener.idle, callbacks]
      rw [onSessionChange_lost]
      exact Coordinator.onDisconnect_drains h.coordinator clock rank expected
  act _ _ _ _ := rfl

theorem act_drains (clock : Time) (failure : Option String) (h : HeadChannel) (action : HeadAction)
    (other : ∀ rank, action ≠ .requestDrain rank) : SameDrains h (h.act config clock failure action) := by
  have reporting : ∀ failure, SameDrains h (h.addNewFailure failure) := by
    intro failure
    unfold addNewFailure
    split
    · split <;> rfl
    · rfl
  cases action with
  | beginRegistration => exact sameDrains_step config clock .beginRegistration (fun _ asked => by cases asked) rfl
  | start => exact sameDrains_step config clock .start (fun _ asked => by cases asked) rfl
  | requestDrain rank => exact absurd rfl (other rank)
  | reportTransport => exact reporting failure
  | pollLeases => exact sameDrains_step config clock (.pollLeases none) (fun _ asked => by cases asked) rfl
  | checkRegistrationDeadline =>
    exact sameDrains_step config clock .checkRegistrationDeadline (fun _ asked => by cases asked) rfl
  | checkGraceDeadlines =>
    exact sameDrains_step config clock (.checkGraceDeadlines none) (fun _ asked => by cases asked) rfl
  | reportTerminal => exact reporting _
  | durableDone => exact sameDrains_of rfl
  | closeDurable => exact sameDrains_of rfl

end HeadChannel

namespace Head

open Listener

variable (config : HeadConfig)

/-- Nothing but a request adds to the coordinator's drain set. -/
theorem step_drains (head : Head) (clock : Time) (event : HeadEvent HeadAction)
    (other : ∀ rank, event ≠ .act (.requestDrain rank)) :
    HeadChannel.SameDrains head.owner (step config head (clock, event)).owner := by
  by_cases acting : ∃ action, event = .act action
  · obtain ⟨action, rfl⟩ := acting
    exact HeadChannel.act_drains config clock _ head.owner action fun rank asked => other rank (asked ▸ rfl)
  · have plain : ∀ action, event ≠ .act action := fun action same => acting ⟨action, same⟩
    unfold step
    rw [← step_idle config.listener (HeadChannel.callbacks config) head clock event plain]
    have within := HeadChannel.idle_drains config
    have turn := @turn_step _ _ config.listener _ _ within (clock, event) head
    have started : head.owner.SameDrains head.owner := rfl
    refine @Turn.invariant _ _ _ _ _ _ _ (fun after => head.owner.SameDrains after.owner) _ _ turn ?_ started
    intro before after effect earlier
    rcases effect_owner within effect with moved | ⟨rank, result, detail, answer⟩
    · exact moved.trans earlier
    · have asked := HeadChannel.sameDrains_onSnapshotAck clock before.owner rank result
      have answered : (before.owner.onSnapshotAck clock rank result).1 = after.owner := congrArg Prod.fst answer
      rw [answered] at asked
      exact asked.trans earlier

end Head

end ExaServe.Control
