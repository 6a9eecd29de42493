import ExaServe.Control.Rank.Attempt

namespace ExaServe.Control

open Lib Plan

namespace RankClient

section Steps

variable {client : RankClient} {lease : Lease} {loss : Loss} {clock : Time}

theorem call_meets {event : RankEvent} (isCall : RankEvent.isCall event = true) : Meets client (clock, event) := by
  unfold Meets
  split <;> rename_i same <;> first | trivial | (dsimp only at same; rw [same] at isCall; cases isCall)

theorem call_step {event : RankEvent} (isCall : RankEvent.isCall event = true) :
    client.step (clock, event) = client.callStep event := if_pos isCall

/-- One answer of the environment: the attempt stays where it is at a call of the
    application, and otherwise goes on exactly if the step's condition is met. -/
theorem served_step {wait : Wait} (attempting : Attempting client wait) {timed : Time × RankEvent}
    (served : Served client timed) :
    (RankEvent.isCall timed.2 = true ∧ Meets client timed ∧ Unmoved client (client.step timed)) ∨
      RankEvent.isCall timed.2 = false ∧ Answers client wait (client.step timed) (Meets client timed) := by
  obtain ⟨lost, ⟨lease, loss, waits⟩, phase⟩ := attempting
  cases served with
  | call isCall =>
    refine .inl ⟨isCall, call_meets isCall, ?_⟩
    rw [call_step isCall]
    exact callStep_unmoved _
  | @closed clock _ _ failure stands inside =>
    cases waits.symm.trans stands
    have stepped : client.step (clock, .closed failure) = client.closed clock (.reconnect lease loss) failure := by
      simp [step, RankEvent.isCall, driveStep, waits]
    have meets : Meets client (clock, .closed failure) ↔ failure = none := by simp [Meets, waits]
    rw [stepped]
    exact .inr ⟨rfl, (closed_answers lost waits failure).congr meets⟩
  | @opened clock _ _ stands inside =>
    cases waits.symm.trans stands
    have stepped : client.step (clock, .opened) = client.register clock (.reconnect lease loss) := by
      simp [step, RankEvent.isCall, driveStep, waits]
    have meets : Meets client (clock, .opened) ↔
        client.framed .register (NodeChannel.registerPayload client.instanceId) = true := by simp [Meets, waits]
    rw [stepped]
    exact .inr ⟨rfl, (register_answers lost waits).congr meets⟩
  | @registering clock _ _ stands inside =>
    cases waits.symm.trans stands
    have stepped : client.step (clock, .drained) = client.drained clock (.reconnect lease loss) .registering := by
      simp [step, RankEvent.isCall, driveStep, waits]
    have meets : Meets client (clock, .drained) ↔ True := by simp [Meets, waits]
    rw [stepped]
    exact .inr ⟨rfl, (registered_answers lost waits phase).congr meets⟩
  | @acknowledged clock _ _ env limits stands inside head acknowledges =>
    cases waits.symm.trans stands
    have stepped : client.step (clock, .frame env) = client.acknowledged clock (.reconnect lease loss) env := by
      simp [step, RankEvent.isCall, driveStep, frame, waits]
    have meets : Meets client (clock, .frame env) ↔
        ∃ items snapshotId hash, Sendable client limits items snapshotId hash := by
      simp [Meets, waits, acknowledges]
    rw [stepped]
    exact .inr ⟨rfl, (acknowledged_answers lost waits phase inside head acknowledges).congr meets⟩
  | @chunk clock _ _ snapshotId rest stands inside =>
    cases waits.symm.trans stands
    have stepped : client.step (clock, .drained) =
        client.writeChunks clock (.reconnect lease loss) snapshotId rest := by
      simp [step, RankEvent.isCall, driveStep, drained, waits]
    rw [stepped]
    cases rest with
    | nil =>
      have meets : Meets client (clock, .drained) ↔
          ∀ command ∈ client.channel.pendingHeadCommands.head?, Answerable client command ∧
            ∃ hash, client.channel.snapshotHashes.get? snapshotId = some hash ∧
              command.Accepts snapshotId hash := by simp [Meets, waits]
      exact .inr ⟨rfl, (sent_answers lost waits phase inside).congr meets⟩
    | cons payload rest =>
      have meets : Meets client (clock, .drained) ↔ client.framed .snapshot payload = true := by
        simp [Meets, waits]
      exact .inr ⟨rfl, (chunk_answers lost waits phase).congr meets⟩
  | @accepted clock _ _ snapshotId hash env command stands inside head commands read accepts =>
    cases waits.symm.trans stands
    have stepped : client.step (clock, .frame env) = client.commandFrame clock (.reconnect lease loss)
        (.awaitingAccepted snapshotId hash) env := by
      simp [step, RankEvent.isCall, driveStep, frame, waits]
    have meets : Meets client (clock, .frame env) ↔ Answerable client command := by
      simp [Meets, waits, read]
    rw [stepped]
    exact .inr ⟨rfl, (accepted_answers lost waits phase head commands read accepts).congr meets⟩
  | @answered clock _ _ snapshotId result stands inside =>
    cases waits.symm.trans stands
    have stepped : client.step (clock, .drained) = client.drained clock (.reconnect lease loss)
        (.answeringAccepted snapshotId result) := by
      simp [step, RankEvent.isCall, driveStep, waits]
    have meets : Meets client (clock, .drained) ↔ True := by simp [Meets, waits]
    rw [stepped]
    exact .inr ⟨rfl, (answered_answers waits).congr meets⟩

theorem served_ended (ended : Over client) {timed : Time × RankEvent} (served : Served client timed) :
    Meets client timed ∧ Unmoved client (client.step timed) := by
  unfold Over at ended
  cases served with
  | call isCall =>
    refine ⟨call_meets isCall, ?_⟩
    rw [call_step isCall]
    exact callStep_unmoved _
  | closed _ waits => rw [waits] at ended; cases ended
  | opened waits => rw [waits] at ended; cases ended
  | registering waits => rw [waits] at ended; cases ended
  | acknowledged waits => rw [waits] at ended; cases ended
  | chunk waits => rw [waits] at ended; cases ended
  | accepted waits => rw [waits] at ended; cases ended
  | answered waits => rw [waits] at ended; cases ended

theorem Unmoved.ended {after : RankClient} (unmoved : Unmoved client after) (ended : Over client) : Over after := by
  unfold Over at ended ⊢
  rw [unmoved.activity]
  exact ended

theorem Regained.ended (regained : Regained client) : Over client := by
  obtain ⟨-, lease, sleeps⟩ := regained
  unfold Over
  rw [sleeps]
  rfl

theorem Failed.ended (failed : Failed client) : Over client := by
  obtain ⟨-, lease, loss, backsOff⟩ := failed
  unfold Over
  rw [backsOff]
  rfl

theorem Attempting.not_over {wait : Wait} (attempting : Attempting client wait) : ¬ Over client := by
  obtain ⟨-, ⟨lease, loss, waits⟩, phase⟩ := attempting
  unfold Over
  rw [waits]
  cases wait <;> simp [Activity.attempts, Phase] at phase ⊢

/-- Once an attempt is over, only calls of the application go on, and they undo nothing. -/
theorem ended_run (ended : Over client) {events : List (Time × RankEvent)} (served : Along step Served client events) :
    Along step Meets client events ∧ (run step client events).activity = client.activity ∧
      (run step client events).established = client.established ∧
      ∀ command, Holds client command → Holds (run step client events) command := by
  induction events generalizing client with
  | nil => exact ⟨trivial, rfl, rfl, fun _ holds => holds⟩
  | cons timed rest ih =>
    obtain ⟨meets, unmoved⟩ := served_ended ended served.1
    obtain ⟨later, activity, established, holds⟩ := ih (unmoved.ended ended) served.2
    exact ⟨⟨meets, later⟩, activity.trans unmoved.activity, established.trans unmoved.established,
      fun command held => holds command (unmoved.holds held)⟩

theorem writeThen_queue {purpose : Purpose} (kind : EnvelopeKind) (payload : List (String × Json)) (wait : Wait)
    (reconnects : purpose = .reconnect lease loss) :
    (client.writeThen clock purpose kind payload wait).channel.pendingHeadCommands =
      client.channel.pendingHeadCommands := by
  subst reconnects
  obtain ⟨seq, channel⟩ := (@write_seq client kind payload).channel
  unfold writeThen
  split <;> rename_i written <;> rw [written] at channel <;>
    exact (congrArg NodeChannel.pendingHeadCommands channel :)

/-- Until the last chunk is written an attempt takes nothing from the queue. -/
theorem served_queue {wait : Wait} (attempting : Attempting client wait) (unsent : wait.Unsent)
    {timed : Time × RankEvent} (served : Served client timed) :
    (client.step timed).channel.pendingHeadCommands = client.channel.pendingHeadCommands := by
  obtain ⟨-, ⟨lease, loss, waits⟩, phase⟩ := attempting
  cases served with
  | call isCall =>
    rw [call_step isCall]
    obtain ⟨seq, channel⟩ := (@callStep_unmoved client _).channel
    rw [channel]
  | closed failure stands inside =>
    cases waits.symm.trans stands
    cases failure <;> simp [step, RankEvent.isCall, driveStep, waits, closed, RankClient.wait, raise, backOff]
  | opened stands inside =>
    cases waits.symm.trans stands
    simp only [step, RankEvent.isCall, driveStep, waits, register]
    exact writeThen_queue _ _ _ rfl
  | registering stands inside =>
    cases waits.symm.trans stands
    simp [step, RankEvent.isCall, driveStep, waits, drained, RankClient.wait]
  | @acknowledged clock _ _ env limits stands inside head acknowledges =>
    cases waits.symm.trans stands
    simp only [step, RankEvent.isCall, driveStep, waits, frame, acknowledged, head_seen head, acknowledges,
      registered, if_neg (not_le.mpr inside), sendSnapshot]
    rcases @prepared_iff client limits env.seq with
      ⟨items, snapshotId, hash, -, prepared⟩ | ⟨-, error, refused⟩
    · rw [prepared]
      obtain ⟨payload, rest, owed⟩ := List.exists_cons_of_ne_nil (chunksOwed_nonempty items snapshotId hash)
      rw [owed]
      exact writeThen_queue _ _ _ rfl
    · rw [refused]
      rfl
  | @chunk clock _ _ snapshotId rest stands inside =>
    cases waits.symm.trans stands
    cases rest with
    | nil => exact absurd rfl unsent
    | cons payload rest =>
      simp only [step, RankEvent.isCall, driveStep, waits, drained, writeChunks]
      exact writeThen_queue _ _ _ rfl
  | accepted stands =>
    cases waits.symm.trans stands
    cases unsent
  | answered stands =>
    cases waits.symm.trans stands
    cases unsent

/-- A queued COMMAND other than an acceptance ends every attempt. -/
theorem queued_stays_lost {wait : Wait} (attempting : Attempting client wait) (unread : wait.Unread)
    {command : Command} {others : List Command}
    (queue : client.channel.pendingHeadCommands = command :: others)
    (other : command.operation ≠ Operation.snapshotAccepted.value) {events : List (Time × RankEvent)}
    (served : Along step Served client events) : (run step client events).established = false := by
  induction events generalizing client wait with
  | nil => exact attempting.lost
  | cons timed rest ih =>
    obtain ⟨first, later⟩ := served
    rcases served_step attempting first with
      ⟨-, -, unmoved⟩ | ⟨drives, ⟨meets, goes_on, -⟩ | ⟨-, failed⟩⟩
    · obtain ⟨seq, channel⟩ := unmoved.channel
      refine ih (unmoved.attempting attempting) unread ?_ later
      rw [channel]
      exact queue
    · rcases unread with unsent | ⟨snapshotId, rfl⟩
      · rcases goes_on with ⟨next, going, follows⟩ | ⟨⟨snapshotId, result, rfl⟩, -⟩
        · exact ih going (follows.unread unsent) ((served_queue attempting unsent first).trans queue) later
        · cases unsent
      · -- the queued command is what `await_snapshot_accepted` reads
        obtain ⟨lease, loss, waits⟩ := attempting.waits
        cases first with
        | call isCall => rw [drives] at isCall; cases isCall
        | chunk stands =>
          cases waits.symm.trans stands
          simp only [Meets, waits] at meets
          obtain ⟨-, hash, -, accepts⟩ := meets command (by rw [queue]; rfl)
          exact absurd accepts.operation other
        | closed _ stands => cases waits.symm.trans stands
        | opened stands => cases waits.symm.trans stands
        | registering stands => cases waits.symm.trans stands
        | acknowledged stands => cases waits.symm.trans stands
        | accepted stands => cases waits.symm.trans stands
        | answered stands => cases waits.symm.trans stands
    · exact (ended_run failed.ended later).2.2.1.trans failed.lost

/-- An attempt goes through exactly if each of its steps meets its condition; else it
    has failed, or has not come to its end. -/
theorem attempt_run {wait : Wait} (attempting : Attempting client wait) {events : List (Time × RankEvent)}
    (served : Along step Served client events) :
    (Along step Meets client events ∧
      ((∃ next, Attempting (run step client events) next) ∨ Regained (run step client events)) ∧
      ∀ command, Holds client command → Holds (run step client events) command) ∨
    (¬ Along step Meets client events ∧ Failed (run step client events)) := by
  induction events generalizing client wait with
  | nil => exact .inl ⟨trivial, .inl ⟨wait, attempting⟩, fun _ holds => holds⟩
  | cons timed rest ih =>
    obtain ⟨first, later⟩ := served
    rcases served_step attempting first with
      ⟨-, meets, unmoved⟩ | ⟨-, ⟨meets, goes_on, holds⟩ | ⟨unmet, failed⟩⟩
    · rcases ih (unmoved.attempting attempting) later with ⟨all, ends, kept⟩ | ⟨broken, failed⟩
      · exact .inl ⟨⟨meets, all⟩, ends, fun command held => kept command (unmoved.holds held)⟩
      · exact .inr ⟨fun all => broken all.2, failed⟩
    · rcases goes_on with ⟨next, going, -⟩ | ⟨-, regained⟩
      · rcases ih going later with ⟨all, ends, kept⟩ | ⟨broken, failed⟩
        · exact .inl ⟨⟨meets, all⟩, ends, fun command held => kept command (holds command held)⟩
        · exact .inr ⟨fun all => broken all.2, failed⟩
      · obtain ⟨all, activity, established, kept⟩ := ended_run regained.ended later
        refine .inl ⟨⟨meets, all⟩, .inr ⟨established.trans regained.established, ?_⟩, fun command held =>
          kept command (holds command held)⟩
        obtain ⟨lease, sleeps⟩ := regained.sleeps
        exact ⟨lease, activity.trans sleeps⟩
    · obtain ⟨-, activity, established, -⟩ := ended_run failed.ended later
      obtain ⟨lost, lease, loss, backsOff⟩ := failed
      exact .inr ⟨fun all => unmet all.1, established.trans lost, lease, loss, activity.trans backsOff⟩

theorem lone_limits_resolve : ∃ limits, NodeChannel.resolvedLimits loneLimits = .ok limits := by
  have resolves : (NodeChannel.resolvedLimits loneLimits).isOk = true := by decide +kernel
  cases resolved : NodeChannel.resolvedLimits loneLimits with
  | error error =>
    rw [resolved] at resolves
    cases resolves
  | ok limits => exact ⟨limits, rfl⟩

/-- The head's answer to a complete snapshot. -/
def acceptingPayload (snapshotId hash : String) : List (String × Json) :=
  [("payload_version", .int 1), ("command_id", .str "accepted"),
    ("operation", .str Operation.snapshotAccepted.value), ("snapshot_id", .str snapshotId),
    ("complete_set_hash", .str hash)]

theorem validate_accepting {snapshotId hash : String} (identified : snapshotId ≠ "")
    (hashed : isSha256Hex hash = true) :
    validateCommandPayload (acceptingPayload snapshotId hash) =
      .ok { commandId := "accepted", operation := Operation.snapshotAccepted.value
            snapshot := some (snapshotId, hash) } := by
  have version : payloadVersionOne (acceptingPayload snapshotId hash) = true := rfl
  have commandId : Json.lookup "command_id" (acceptingPayload snapshotId hash) = some (.str "accepted") := rfl
  have operation : Json.lookup "operation" (acceptingPayload snapshotId hash) =
    some (.str Operation.snapshotAccepted.value) := rfl
  have named : Json.lookup "snapshot_id" (acceptingPayload snapshotId hash) = some (.str snapshotId) := rfl
  have expected : Json.lookup "complete_set_hash" (acceptingPayload snapshotId hash) = some (.str hash) := rfl
  have fields : Json.sameNames (acceptingPayload snapshotId hash)
    (commandFields (some (.str Operation.snapshotAccepted.value))) = true := rfl
  unfold validateCommandPayload
  rw [version, commandId, operation]
  dsimp only
  rw [fields]
  simp only [require, nonemptyText, snapshotIdentity, named, expected, hashText, if_neg identified, if_pos hashed]
  rfl

/-- The environment can always bring an attempt on. -/
theorem served_exists {wait : Wait} (attempting : Attempting client wait) :
    ∃ timed, Served client timed ∧ RankEvent.isCall timed.2 = false := by
  obtain ⟨-, ⟨lease, loss, waits⟩, phase⟩ := attempting
  have inside : loss.deadline - 1 < loss.deadline := sub_one_lt _
  cases wait with
  | closing => exact ⟨_, .closed none waits inside, rfl⟩
  | opening => exact ⟨_, .opened waits inside, rfl⟩
  | registering => exact ⟨_, .registering waits inside, rfl⟩
  | acknowledging =>
    obtain ⟨limits, resolved⟩ := lone_limits_resolve
    have head : FromHead client
        { kind := .commandResult, deploymentId := client.channel.deploymentId, planHash := client.channel.planHash
          generation := client.channel.generation, senderRank := supervisorRank, senderNode := "head"
          seq := client.channel.headSeq + 1
          payload := [("payload_version", .int 1), ("command_id", .str "register"),
            ("operation", .str "REGISTER"), ("ok", .bool true), ("control_limits", .obj loneLimits)] } :=
      ⟨rfl, rfl, rfl, rfl, Int.lt_succ _⟩
    exact ⟨_, .acknowledged waits inside head resolved, rfl⟩
  | writingChunk snapshotId rest => exact ⟨_, .chunk waits inside, rfl⟩
  | awaitingAccepted snapshotId hash =>
    obtain ⟨-, identified, hashed⟩ := phase
    have head : FromHead client
        { kind := .command, deploymentId := client.channel.deploymentId, planHash := client.channel.planHash
          generation := client.channel.generation, senderRank := supervisorRank, senderNode := "head"
          seq := client.channel.headSeq + 1
          payload := acceptingPayload snapshotId hash } := ⟨rfl, rfl, rfl, rfl, Int.lt_succ _⟩
    exact ⟨_, .accepted waits inside head rfl (validate_accepting identified hashed) ⟨by simp, rfl, rfl⟩, rfl⟩
  | answeringAccepted snapshotId result => exact ⟨_, .answered waits inside, rfl⟩
  | _ => cases phase

end Steps

theorem attempt_completes {client : RankClient} {wait : Wait} (attempting : Attempting client wait) :
    ∃ rest, Along step Served client rest ∧ Over (run step client rest) := by
  obtain ⟨timed, served, drives⟩ := served_exists attempting
  rcases served_step attempting served with ⟨isCall, -, -⟩ | ⟨-, ⟨-, goes_on, -⟩ | ⟨-, failed⟩⟩
  · rw [drives] at isCall
    cases isCall
  · rcases goes_on with ⟨next, going, follows⟩ | ⟨-, regained⟩
    · obtain ⟨rest, later, ended⟩ := attempt_completes going
      exact ⟨timed :: rest, ⟨served, later⟩, ended⟩
    · exact ⟨[timed], ⟨served, trivial⟩, regained.ended⟩
  · exact ⟨[timed], ⟨served, trivial⟩, failed.ended⟩
termination_by (wait.owed.1, wait.owed.2)
decreasing_by exact follows.nearer

theorem begins_attempting {client : RankClient} (sound : Sound client) (begins : Begins client) :
    ∃ wait, Attempting client wait ∧ wait.Unsent := by
  have placed := sound.placed
  unfold Begins Activity.begins at begins
  split at begins
  · rename_i lease loss stands
    rw [stands] at placed
    exact ⟨.closing, ⟨placed.1.unestablished rfl, ⟨lease, loss, stands⟩, trivial⟩, trivial⟩
  · rename_i lease loss stands
    rw [stands] at placed
    exact ⟨.opening, ⟨placed.1.unestablished rfl, ⟨lease, loss, stands⟩, trivial⟩, trivial⟩
  · cases begins

theorem sound_created (channel : NodeChannel) (pid : Nat) : Sound { channel, pid } := by
  refine ⟨⟨?_, ?_⟩, rfl⟩
  · intro established
    cases established
  · intro call message tested waiting scheduled
    cases scheduled

theorem Regained.restored {before after : RankClient} (regained : Regained after)
    (holds : ∀ command, Holds before command → Holds after command) : Restored before after := by
  obtain ⟨established, lease, sleeps⟩ := regained
  refine ⟨established, ?_, ?_⟩
  · intro other loss backsOff
    cases sleeps.symm.trans backsOff
  · intro command queued
    rcases holds command (.inl (.inl queued)) with kept | ⟨purpose, snapshotId, answering⟩
    · exact kept
    · cases sleeps.symm.trans answering

/-- A reconnect attempt of any reachable state can always be brought to its end, and it
    ends with the session restored exactly if each of its steps meets its condition. -/
theorem attempt_restores_iff (channel : NodeChannel) (pid : Nat) (earlier : List (Time × RankEvent))
    (begins : Begins (run step { channel, pid } earlier)) :
    (∀ events, Along step Served (run step { channel, pid } earlier) events →
      ∃ rest, Along step Served (run step { channel, pid } earlier) (events ++ rest) ∧
        Over (run step { channel, pid } (earlier ++ (events ++ rest)))) ∧
    ∀ events, Along step Served (run step { channel, pid } earlier) events →
      Over (run step { channel, pid } (earlier ++ events)) →
        (Restored (run step { channel, pid } earlier) (run step { channel, pid } (earlier ++ events)) ↔
          Along step Meets (run step { channel, pid } earlier) events) := by
  have sound : Sound (run step { channel, pid } earlier) :=
    run_invariant step_sound (sound_created channel pid) earlier
  obtain ⟨wait, attempting, -⟩ := begins_attempting sound begins
  generalize state : run step { channel, pid } earlier = start at *
  have onwards : ∀ events, run step { channel, pid } (earlier ++ events) = run step start events := by
    intro events
    rw [run_append, state]
  constructor
  · intro events served
    have reached : ∃ rest, Along step Served (run step start events) rest ∧
        Over (run step (run step start events) rest) := by
      rcases attempt_run attempting served with ⟨-, ⟨next, going⟩ | regained, -⟩ | ⟨-, failed⟩
      · exact attempt_completes going
      · exact ⟨[], trivial, regained.ended⟩
      · exact ⟨[], trivial, failed.ended⟩
    obtain ⟨rest, later, ended⟩ := reached
    refine ⟨rest, along_append.mpr ⟨served, later⟩, ?_⟩
    rw [onwards, run_append]
    exact ended
  · intro events served ended
    rw [onwards] at ended ⊢
    rcases attempt_run attempting served with ⟨meets, goes_on, holds⟩ | ⟨unmet, failed⟩
    · refine iff_of_true ?_ meets
      rcases goes_on with ⟨next, going⟩ | regained
      · exact absurd ended going.not_over
      · exact regained.restored holds
    · refine iff_of_false ?_ unmet
      intro restored
      cases failed.lost.symm.trans restored.established

def loneChannel : NodeChannel :=
  { secret := List.replicate 32 0, deploymentId := "d", planHash := "p", generation := 1, rank := 0
    nodeId := "n0", limits := {} }

/-- The heartbeat of the lone rank reads a DRAIN, and then the connection is reset. -/
def drainQueued : List (Time × RankEvent) :=
  startLone ++ [(7, .wake), (7, .drained),
    (7, headFrame .command 4 [("payload_version", .int 1), ("command_id", .str "DRAIN:0"),
      ("operation", .str "DRAIN")]),
    (7, .readFailed (.other "ConnectionResetError" "Connection lost"))]

theorem lone_drain_queued :
    Begins (run step { channel := loneChannel, pid := 1 } drainQueued) ∧
      (run step { channel := loneChannel, pid := 1 } drainQueued).channel.pendingHeadCommands =
        [{ commandId := "DRAIN:0", operation := "DRAIN", snapshot := none }] := by
  unfold Begins
  decide +kernel

theorem lone_attempts_restore_iff :
    (∀ events, Along step Served (run step { channel := loneChannel, pid := 1 } drainQueued) events →
      ∃ rest, Along step Served (run step { channel := loneChannel, pid := 1 } drainQueued) (events ++ rest) ∧
        Over (run step { channel := loneChannel, pid := 1 } (drainQueued ++ (events ++ rest)))) ∧
    ∀ events, Along step Served (run step { channel := loneChannel, pid := 1 } drainQueued) events →
      Over (run step { channel := loneChannel, pid := 1 } (drainQueued ++ events)) →
        (Restored (run step { channel := loneChannel, pid := 1 } drainQueued)
            (run step { channel := loneChannel, pid := 1 } (drainQueued ++ events)) ↔
          Along step Meets (run step { channel := loneChannel, pid := 1 } drainQueued) events) :=
  attempt_restores_iff loneChannel 1 drainQueued lone_drain_queued.1

/-- Against the best of heads the next attempt reads the queued DRAIN for the acceptance
    of its snapshot, raises and forgets it. -/
theorem queued_drain_blocks_attempt :
    Begins (run step { channel := loneChannel, pid := 1 } drainQueued) ∧
    (∃ events, Along step Served (run step { channel := loneChannel, pid := 1 } drainQueued) events ∧
      Over (run step { channel := loneChannel, pid := 1 } (drainQueued ++ events))) ∧
    ∀ events, Along step Served (run step { channel := loneChannel, pid := 1 } drainQueued) events →
      ¬ Restored (run step { channel := loneChannel, pid := 1 } drainQueued)
        (run step { channel := loneChannel, pid := 1 } (drainQueued ++ events)) := by
  obtain ⟨begins, queue⟩ := lone_drain_queued
  have sound := run_invariant step_sound (sound_created loneChannel 1) drainQueued
  obtain ⟨wait, attempting, unsent⟩ := begins_attempting sound begins
  refine ⟨begins, ?_, ?_⟩
  · obtain ⟨events, served, ended⟩ := attempt_completes attempting
    refine ⟨events, served, ?_⟩
    rw [run_append]
    exact ended
  · intro events served restored
    have lost := queued_stays_lost attempting (.inl unsent) queue (by decide) served
    rw [← run_append] at lost
    cases lost.symm.trans restored.established

end RankClient

end ExaServe.Control
