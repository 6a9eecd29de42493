import ExaServe.Control.Transport.SnapshotAgreement
import ExaServe.Control.Rank.Discipline

namespace ExaServe.Control

open Lib Plan

/-- The command answers this snapshot. -/
structure Command.Accepts (command : Command) (snapshotId hash : String) : Prop where
  named : command.commandId ≠ ""
  operation : command.operation = Operation.snapshotAccepted.value
  snapshot : command.snapshot = some (snapshotId, hash)

def Command.acceptance (command : Command) : CommandResult :=
  { commandId := command.commandId, operation := .snapshotAccepted, ok := true, detail := ""
    snapshot := command.snapshot }

def Activity.begins : Activity → Bool
  | .waiting (.reconnect _ _) .closing => true
  | .waiting (.reconnect _ _) .opening => true
  | _ => false

/-- The maintenance task is inside a reconnect attempt. -/
def Activity.attempts : Activity → Bool
  | .waiting (.reconnect _ _) .backingOff => false
  | .waiting (.reconnect _ _) _ => true
  | _ => false

/-- What is left of an attempt: the stage, and in it the chunks still owed. -/
def Wait.owed : Wait → ℕ × ℕ
  | .closing => (6, 0)
  | .opening => (5, 0)
  | .registering => (4, 0)
  | .acknowledging => (3, 0)
  | .writingChunk _ rest => (2, rest.length)
  | .awaitingAccepted _ _ => (1, 0)
  | _ => (0, 0)

/-- The awaits of an attempt in their order. -/
inductive Wait.Next : Wait → Wait → Prop where
  | opens : Next .closing .opening
  | registers : Next .opening .registering
  | awaits : Next .registering .acknowledging
  | sends {snapshotId : String} {rest : List (List (String × Json))} :
      Next .acknowledging (.writingChunk snapshotId rest)
  | chunk {snapshotId : String} {payload : List (String × Json)} {rest : List (List (String × Json))} :
      Next (.writingChunk snapshotId (payload :: rest)) (.writingChunk snapshotId rest)
  | sent {snapshotId hash : String} : Next (.writingChunk snapshotId []) (.awaitingAccepted snapshotId hash)
  | queued {snapshotId : String} {result : CommandResult} :
      Next (.writingChunk snapshotId []) (.answeringAccepted snapshotId result)
  | answers {snapshotId hash : String} {result : CommandResult} :
      Next (.awaitingAccepted snapshotId hash) (.answeringAccepted snapshotId result)

theorem Wait.Next.nearer {wait next : Wait} (follows : wait.Next next) :
    Prod.Lex (· < ·) (· < ·) next.owed wait.owed := by
  cases follows with
  | chunk => exact .right _ (Nat.lt_succ_self _)
  | opens => exact .left _ _ (by decide)
  | registers => exact .left _ _ (by decide)
  | awaits => exact .left _ _ (by decide)
  | sends => exact .left _ _ Nat.le.refl
  | sent => exact .left _ _ Nat.le.refl
  | queued => exact .left _ _ Nat.two_pos
  | answers => exact .left _ _ Nat.one_pos

/-- The last chunk of the snapshot has not been written yet. -/
def Wait.Unsent : Wait → Prop
  | .closing => True
  | .opening => True
  | .registering => True
  | .acknowledging => True
  | .writingChunk _ rest => rest ≠ []
  | _ => False

/-- The queue has not been read yet. -/
def Wait.Unread (wait : Wait) : Prop := wait.Unsent ∨ ∃ snapshotId, wait = .writingChunk snapshotId []

theorem Wait.Next.unread {wait next : Wait} (follows : wait.Next next) (unsent : wait.Unsent) : next.Unread := by
  cases follows with
  | @sends snapshotId rest =>
    cases rest with
    | nil => exact .inr ⟨snapshotId, rfl⟩
    | cons payload rest => exact .inl (List.cons_ne_nil _ _)
  | @chunk snapshotId payload rest =>
    cases rest with
    | nil => exact .inr ⟨snapshotId, rfl⟩
    | cons payload rest => exact .inl (List.cons_ne_nil _ _)
  | opens => exact .inl trivial
  | registers => exact .inl trivial
  | awaits => exact .inl trivial
  | sent => exact absurd rfl unsent
  | queued => exact absurd rfl unsent
  | answers => cases unsent

namespace RankClient

/-- The snapshot `_maintain_control_lease` would send now. -/
def contents (client : RankClient) : Except Raised (List SnapshotItem) :=
  canonicalSnapshotItems
    (NodeChannel.snapshotItems client.snapshotObservations.values client.snapshotReceipts.values)

/-- A reconnect attempt is about to call `connect_and_register`. -/
def Begins (client : RankClient) : Prop := client.activity.begins = true

def Over (client : RankClient) : Prop := client.activity.attempts = false

/-- A frame of the head this client belongs to, numbered above every frame it has read. -/
structure FromHead (client : RankClient) (env : Envelope) : Prop where
  deployment : env.deploymentId = client.channel.deploymentId
  plan : env.planHash = client.channel.planHash
  generation : env.generation = client.channel.generation
  sender : env.senderRank = supervisorRank
  sequence : client.channel.headSeq < env.seq

/-- What meets an attempt inside the grace period: calls of the application at any point,
    sockets that take what is written, and a head that acknowledges REGISTER and answers
    the snapshot just sent. -/
inductive Served (client : RankClient) : Time × RankEvent → Prop where
  | call {clock : Time} {event : RankEvent} (isCall : RankEvent.isCall event = true) : Served client (clock, event)
  | closed {clock : Time} {lease : Lease} {loss : Loss} (failure : Option String)
      (waits : client.activity = .waiting (.reconnect lease loss) .closing) (inside : clock < loss.deadline) :
      Served client (clock, .closed failure)
  | opened {clock : Time} {lease : Lease} {loss : Loss}
      (waits : client.activity = .waiting (.reconnect lease loss) .opening) (inside : clock < loss.deadline) :
      Served client (clock, .opened)
  | registering {clock : Time} {lease : Lease} {loss : Loss}
      (waits : client.activity = .waiting (.reconnect lease loss) .registering) (inside : clock < loss.deadline) :
      Served client (clock, .drained)
  | acknowledged {clock : Time} {lease : Lease} {loss : Loss} {env : Envelope} {limits : DefaultLimits}
      (waits : client.activity = .waiting (.reconnect lease loss) .acknowledging)
      (inside : clock < loss.deadline) (head : FromHead client env)
      (acknowledges : NodeChannel.registrationLimits env = .ok limits) : Served client (clock, .frame env)
  | chunk {clock : Time} {lease : Lease} {loss : Loss} {snapshotId : String}
      {rest : List (List (String × Json))}
      (waits : client.activity = .waiting (.reconnect lease loss) (.writingChunk snapshotId rest))
      (inside : clock < loss.deadline) : Served client (clock, .drained)
  | accepted {clock : Time} {lease : Lease} {loss : Loss} {snapshotId hash : String} {env : Envelope}
      {command : Command}
      (waits : client.activity = .waiting (.reconnect lease loss) (.awaitingAccepted snapshotId hash))
      (inside : clock < loss.deadline) (head : FromHead client env) (commands : env.kind = .command)
      (read : validateCommandPayload env.payload = .ok command) (accepts : command.Accepts snapshotId hash) :
      Served client (clock, .frame env)
  | answered {clock : Time} {lease : Lease} {loss : Loss} {snapshotId : String} {result : CommandResult}
      (waits : client.activity = .waiting (.reconnect lease loss) (.answeringAccepted snapshotId result))
      (inside : clock < loss.deadline) : Served client (clock, .drained)

def Within (limits : DefaultLimits) (items : List SnapshotItem) : Prop :=
  items.length ≤ limits.maxSnapshotItems ∧ (Json.dumps (itemsJson items)).length ≤ limits.maxSnapshotBytes ∧
    (NodeChannel.snapshotChunks 256 items).length ≤ limits.maxSnapshotChunks

/-- The snapshot of the current contents is within the limits, and the one an earlier
    attempt left in flight is the same. -/
structure Preparable (client : RankClient) (limits : DefaultLimits) (items : List SnapshotItem)
    (snapshotId hash : String) : Prop where
  contents : client.contents = .ok items
  hashed : snapshotSetHash (items.map SnapshotItem.toJson) = .ok hash
  named : client.channel.defaultSnapshotId "" hash = snapshotId
  within : Within limits items
  in_flight : client.channel.snapshotHashes.get? snapshotId = some hash ∨
    client.channel.snapshotHashes.get? snapshotId = none ∧ client.channel.snapshotHashes.size = 0

def chunksOwed (items : List SnapshotItem) (snapshotId hash : String) : List (List (String × Json)) :=
  let chunks := NodeChannel.snapshotChunks 256 items
  NodeChannel.chunkPayloads snapshotId hash chunks.length 0 chunks

/-- Its first chunk fits into a frame as well. -/
structure Sendable (client : RankClient) (limits : DefaultLimits) (items : List SnapshotItem)
    (snapshotId hash : String) : Prop extends Preparable client limits items snapshotId hash where
  framed : ∀ payload ∈ (chunksOwed items snapshotId hash).head?,
    { client with channel := { client.channel with limits } }.framed .snapshot payload = true

/-- The identity tables take the command and its answer. -/
structure Answerable (client : RankClient) (command : Command) : Prop where
  received : client.channel.receivedCommands.get? command.commandId = some command ∨
    client.channel.receivedCommands.get? command.commandId = none ∧
      client.channel.receivedCommands.size < maxCommandRecords
  unanswered : client.channel.commandResults.get? command.commandId = some command.acceptance ∨
    client.channel.commandResults.get? command.commandId = none ∧
      client.channel.commandResults.size < maxCommandRecords
  framed : client.framed .commandResult (NodeChannel.resultPayload command.acceptance) = true

/-- When a step brings the attempt on. A command that an earlier heartbeat has queued is
    what `await_snapshot_accepted` reads first. -/
def Meets (client : RankClient) (timed : Time × RankEvent) : Prop :=
  match client.activity, timed.2 with
  | .waiting (.reconnect _ _) .closing, .closed failure => failure = none
  | .waiting (.reconnect _ _) .opening, .opened =>
    client.framed .register (NodeChannel.registerPayload client.instanceId) = true
  | .waiting (.reconnect _ _) .acknowledging, .frame env =>
    ∃ limits items snapshotId hash, NodeChannel.registrationLimits env = .ok limits ∧
      Sendable client limits items snapshotId hash
  | .waiting (.reconnect _ _) (.writingChunk _ (payload :: _)), .drained =>
    client.framed .snapshot payload = true
  | .waiting (.reconnect _ _) (.writingChunk snapshotId []), .drained =>
    ∀ command ∈ client.channel.pendingHeadCommands.head?, Answerable client command ∧
      ∃ hash, client.channel.snapshotHashes.get? snapshotId = some hash ∧ command.Accepts snapshotId hash
  | .waiting (.reconnect _ _) (.awaitingAccepted _ _), .frame env =>
    ∀ command, validateCommandPayload env.payload = .ok command → Answerable client command
  | _, _ => True

/-- The command is still queued, or it has been answered. -/
def Kept (client : RankClient) (command : Command) : Prop :=
  command ∈ client.channel.pendingHeadCommands ∨
    (client.channel.commandResults.get? command.commandId).isSome = true

/-- The same while its answer is being written. -/
def Holds (client : RankClient) (command : Command) : Prop :=
  Kept client command ∨
    ∃ purpose snapshotId, client.activity = .waiting purpose (.answeringAccepted snapshotId command.acceptance)

/-- The session is established again, no exception has ended the attempt, and every
    COMMAND it found queued is still queued or has been answered. -/
structure Restored (before after : RankClient) : Prop where
  established : after.established = true
  unfailed : ∀ lease loss, after.activity ≠ .waiting (.reconnect lease loss) .backingOff
  commands : ∀ command ∈ before.channel.pendingHeadCommands, Kept after command

section Steps

variable {client : RankClient} {lease : Lease} {loss : Loss} {clock : Time}

/-- What a call of the application leaves alone. -/
structure Unmoved (client after : RankClient) : Prop where
  activity : after.activity = client.activity
  established : after.established = client.established
  writer : after.writer = client.writer
  channel : ∃ seq, after.channel = { client.channel with seq }

theorem Unmoved.of_same {after : RankClient} (activity : after.activity = client.activity)
    (established : after.established = client.established) (writer : after.writer = client.writer)
    (channel : after.channel = client.channel) : Unmoved client after :=
  ⟨activity, established, writer, client.channel.seq, channel⟩

theorem Unmoved.setCall {after : RankClient} (unmoved : Unmoved client after) (call : Nat) (state : Call) :
    Unmoved client (after.setCall call state) :=
  ⟨unmoved.activity, unmoved.established, unmoved.writer, unmoved.channel⟩

theorem deliveryFailed_unmoved (message : Message) (error : Raised) :
    Unmoved client (client.deliveryFailed message error) := by
  cases message <;> exact .of_same rfl rfl rfl rfl

theorem record_unmoved (message : Message) : Unmoved client (client.record message) := by
  cases message <;> exact .of_same rfl rfl rfl rfl

theorem scheduleCall_unmoved (call : Nat) (request : Request) :
    Unmoved client (client.scheduleCall call request) := by
  unfold scheduleCall
  split
  · exact .of_same rfl rfl rfl rfl
  · split <;> exact .of_same rfl rfl rfl rfl

theorem write_seq (kind : EnvelopeKind) (payload : List (String × Json)) :
    Unmoved client (client.write kind payload).1 := by
  unfold write
  split
  · exact .of_same rfl rfl rfl rfl
  · refine ⟨rfl, rfl, rfl, ?_⟩
    unfold NodeChannel.write
    dsimp only
    split <;> exact ⟨_, rfl⟩

theorem callStep_unmoved (event : RankEvent) : Unmoved client (client.callStep event) := by
  have same : Unmoved client client := .of_same rfl rfl rfl rfl
  unfold callStep
  split
  · split
    · exact same.setCall _ _
    · exact same
  · split
    · split
      · exact scheduleCall_unmoved _ _
      · exact same.setCall _ _
    · exact same
  · split
    · rename_i message _ _ _
      have written := @write_seq client message.kind message.payload
      split <;> rename_i sent <;> rw [sent] at written <;> exact written.setCall _ _
    · exact same
  · split
    · exact same.setCall _ _
    · exact same
  · split
    · exact (deliveryFailed_unmoved _ _).setCall _ _
    · exact (deliveryFailed_unmoved _ _).setCall _ _
    · exact same
  · split
    · exact same.setCall _ _
    · exact same.setCall _ _
    · exact same
  · split
    · exact (record_unmoved _).setCall _ _
    · exact (deliveryFailed_unmoved _ _).setCall _ _
    · exact same
  · exact same

def InFlight (client : RankClient) (snapshotId : String) : Prop :=
  snapshotId ≠ "" ∧ ∃ hash, client.channel.snapshotHashes.get? snapshotId = some hash ∧ isSha256Hex hash = true

/-- What the attempt relies on at each of its awaits. -/
def Phase (client : RankClient) : Wait → Prop
  | .closing => True
  | .opening => True
  | .registering => client.writer.isSome = true
  | .acknowledging => client.writer.isSome = true
  | .writingChunk snapshotId _ => client.writer.isSome = true ∧ InFlight client snapshotId
  | .awaitingAccepted snapshotId hash =>
    client.writer.isSome = true ∧ snapshotId ≠ "" ∧ isSha256Hex hash = true
  | .answeringAccepted _ _ => True
  | _ => False

structure Attempting (client : RankClient) (wait : Wait) : Prop where
  lost : client.established = false
  waits : ∃ lease loss, client.activity = .waiting (.reconnect lease loss) wait
  phase : Phase client wait

structure Regained (client : RankClient) : Prop where
  established : client.established = true
  sleeps : ∃ lease, client.activity = .waiting (.lease lease) .sleeping

structure Failed (client : RankClient) : Prop where
  lost : client.established = false
  backsOff : ∃ lease loss, client.activity = .waiting (.reconnect lease loss) .backingOff

structure Advances (client : RankClient) (wait : Wait) (after : RankClient) : Prop where
  goes_on : (∃ next, Attempting after next ∧ wait.Next next) ∨
    (∃ snapshotId result, wait = .answeringAccepted snapshotId result) ∧ Regained after
  holds : ∀ command, Holds client command → Holds after command

/-- The attempt goes on exactly if the condition is met; else an exception ends it. -/
def Answers (client : RankClient) (wait : Wait) (after : RankClient) (meets : Prop) : Prop :=
  meets ∧ Advances client wait after ∨ ¬ meets ∧ Failed after

theorem Answers.congr {wait : Wait} {after : RankClient} {meets meets' : Prop}
    (answers : Answers client wait after meets) (same : meets' ↔ meets) : Answers client wait after meets' := by
  unfold Answers
  rw [same]
  exact answers

theorem Holds.kept {command : Command} {wait : Wait} (holds : Holds client command)
    (waits : client.activity = .waiting (.reconnect lease loss) wait)
    (other : ∀ snapshotId result, wait ≠ .answeringAccepted snapshotId result) : Kept client command := by
  rcases holds with kept | ⟨purpose, snapshotId, answering⟩
  · exact kept
  · rw [waits] at answering
    cases answering
    exact absurd rfl (other _ _)

theorem Kept.carry {after : RankClient} {command : Command} (kept : Kept client command)
    (pending : after.channel.pendingHeadCommands = client.channel.pendingHeadCommands)
    (results : after.channel.commandResults = client.channel.commandResults) : Kept after command := by
  unfold Kept
  rw [pending, results]
  exact kept

theorem Unmoved.holds {after : RankClient} {command : Command} (unmoved : Unmoved client after)
    (holds : Holds client command) : Holds after command := by
  obtain ⟨seq, channel⟩ := unmoved.channel
  unfold Holds Kept
  rw [unmoved.activity, channel]
  exact holds

theorem Unmoved.attempting {after : RankClient} {wait : Wait} (unmoved : Unmoved client after)
    (attempting : Attempting client wait) : Attempting after wait := by
  obtain ⟨lost, waits, phase⟩ := attempting
  obtain ⟨seq, channel⟩ := unmoved.channel
  refine ⟨unmoved.established.trans lost, unmoved.activity ▸ waits, ?_⟩
  cases wait <;> simp only [Phase, InFlight, unmoved.writer, channel] at phase ⊢ <;> exact phase

theorem writeThen_cases (opened : client.writer.isSome = true) (kind : EnvelopeKind)
    (payload : List (String × Json)) (wait : Wait) :
    (client.framed kind payload = true ∧ ∃ wire,
      client.writeThen clock (.reconnect lease loss) kind payload wait =
        { client with channel := client.channel.nextSeq, wire }.wait (.reconnect lease loss) wait) ∨
    (client.framed kind payload = false ∧ ∃ channel error,
      client.writeThen clock (.reconnect lease loss) kind payload wait =
        { client with channel }.backOff lease loss error) := by
  unfold writeThen
  rcases write_cases client kind payload with ⟨channel, error, same, closed | refused⟩ | ⟨c, -, framed, same⟩
  · rw [closed] at opened
    cases opened
  · right
    rw [same]
    exact ⟨refused, channel, error, rfl⟩
  · left
    rw [same]
    exact ⟨framed, _, rfl⟩

theorem closed_answers (lost : client.established = false)
    (waits : client.activity = .waiting (.reconnect lease loss) .closing) (failure : Option String) :
    Answers client .closing (client.closed clock (.reconnect lease loss) failure) (failure = none) := by
  cases failure with
  | none =>
    refine .inl ⟨rfl, .inl ⟨.opening, ⟨lost, ⟨lease, loss, rfl⟩, trivial⟩, .opens⟩, ?_⟩
    intro command holds
    exact .inl (holds.kept waits nofun)
  | some text => exact .inr ⟨nofun, lost, _, _, rfl⟩

/-- A write of the attempt, made by `client` after what `before` has settled. -/
theorem writeThen_answers {before : RankClient} {wait next : Wait} (opened : client.writer.isSome = true)
    (lost : client.established = false)
    (kept : ∀ command, Holds before command →
      Kept client command ∨ ∃ snapshotId, next = .answeringAccepted snapshotId command.acceptance)
    (kind : EnvelopeKind) (payload : List (String × Json)) (follows : wait.Next next)
    (phase : ∀ after : RankClient, after.writer = client.writer → after.channel = client.channel.nextSeq →
      Phase after next) :
    Answers before wait (client.writeThen clock (.reconnect lease loss) kind payload next)
      (client.framed kind payload = true) := by
  rcases @writeThen_cases client lease loss clock opened kind payload next with
    ⟨framed, wire, same⟩ | ⟨refused, channel, error, same⟩
  · rw [same]
    refine .inl ⟨framed, .inl ⟨next, ⟨lost, ⟨lease, loss, rfl⟩, phase _ rfl rfl⟩, follows⟩, ?_⟩
    intro command holds
    rcases kept command holds with still | ⟨snapshotId, answering⟩
    · exact .inl (still.carry rfl rfl)
    · exact .inr ⟨.reconnect lease loss, snapshotId, congrArg (Activity.waiting _) answering⟩
  · rw [same, refused]
    exact .inr ⟨Bool.false_ne_true, lost, _, _, rfl⟩

theorem register_answers (lost : client.established = false)
    (waits : client.activity = .waiting (.reconnect lease loss) .opening) :
    Answers client .opening (client.register clock (.reconnect lease loss))
      (client.framed .register (NodeChannel.registerPayload client.instanceId) = true) := by
  have kept : ∀ command, Holds client command → Kept client command ∨
      ∃ snapshotId, Wait.registering = .answeringAccepted snapshotId command.acceptance :=
    fun _ holds => .inl (holds.kept waits nofun)
  exact @writeThen_answers { client with writer := some client.opened, opened := client.opened + 1 } lease loss
    clock client .opening .registering rfl lost kept .register _ .registers fun after writer _ => by
      rw [Phase, writer]
      rfl

theorem registered_answers (lost : client.established = false)
    (waits : client.activity = .waiting (.reconnect lease loss) .registering)
    (opened : client.writer.isSome = true) :
    Answers client .registering (client.drained clock (.reconnect lease loss) .registering) True := by
  refine .inl ⟨trivial, .inl ⟨.acknowledging, ⟨lost, ⟨lease, loss, rfl⟩, opened⟩, .awaits⟩, ?_⟩
  intro command holds
  exact .inl (holds.kept waits nofun)

theorem accepted_iff (command : Command) (snapshotId hash : String) :
    (command.Accepts snapshotId hash ∧
      NodeChannel.acceptanceResult command snapshotId hash = .ok command.acceptance) ∨
    (¬ command.Accepts snapshotId hash ∧
      ∃ error, NodeChannel.acceptanceResult command snapshotId hash = .error error) := by
  by_cases accepts : command.Accepts snapshotId hash
  · refine .inl ⟨accepts, ?_⟩
    obtain ⟨named, operation, snapshot⟩ := accepts
    simp [NodeChannel.acceptanceResult, NodeChannel.acceptanceMismatches, Command.acceptance, named, operation,
      snapshot]
  · refine .inr ⟨accepts, ?_⟩
    unfold NodeChannel.acceptanceResult
    dsimp only
    split
    · exact ⟨_, rfl⟩
    · rename_i clean
      push Not at clean
      obtain ⟨matched, named⟩ := clean
      simp only [NodeChannel.acceptanceMismatches, List.append_eq_nil_iff, ite_eq_right_iff, List.cons_ne_nil,
        imp_false, Decidable.not_not] at matched
      obtain ⟨⟨operation, first⟩, second⟩ := matched
      refine absurd ⟨named, operation, ?_⟩ accepts
      cases same : command.snapshot with
      | none => simp [same] at first
      | some pair =>
        simp only [same, Option.map_some, Option.some.injEq] at first second ⊢
        exact Prod.ext first second

theorem remembered_iff (channel : NodeChannel) (command : Command) :
    ((channel.receivedCommands.get? command.commandId = some command ∨
        channel.receivedCommands.get? command.commandId = none ∧
          channel.receivedCommands.size < maxCommandRecords) ∧
      ∃ received, channel.rememberReceivedCommand command =
        .ok ({ channel with receivedCommands := received }, command) ∧
        received.get? command.commandId = some command) ∨
    (¬ (channel.receivedCommands.get? command.commandId = some command ∨
        channel.receivedCommands.get? command.commandId = none ∧
          channel.receivedCommands.size < maxCommandRecords) ∧
      ∃ error, channel.rememberReceivedCommand command = .error error) := by
  unfold NodeChannel.rememberReceivedCommand
  cases known : channel.receivedCommands.get? command.commandId with
  | some previous =>
    by_cases same : previous = command
    · subst same
      exact .inl ⟨.inl rfl, channel.receivedCommands, by simp, known⟩
    · exact .inr ⟨by simp [same], by simp [same]⟩
  | none =>
    by_cases full : maxCommandRecords ≤ channel.receivedCommands.size
    · exact .inr ⟨by simp [full], by simp [full]⟩
    · refine .inl ⟨.inr ⟨rfl, by omega⟩, channel.receivedCommands.insert command.commandId command, ?_, ?_⟩
      · simp only [if_neg full]
      · exact Dict.get?_insert_self _ _ _

theorem validate_acceptance {result : CommandResult} {snapshotId hash : String} (named : result.commandId ≠ "")
    (accepts : result.operation = .snapshotAccepted) (ok : result.ok = true)
    (snapshot : result.snapshot = some (snapshotId, hash)) (identified : snapshotId ≠ "")
    (hashed : isSha256Hex hash = true) :
    validateCommandResultPayload (NodeChannel.resultPayload result) = .ok result := by
  obtain ⟨commandId, operation, succeeded, detail, identity⟩ := result
  dsimp only at named accepts ok snapshot
  subst accepts ok snapshot
  have fields : Json.sameNames
      (NodeChannel.resultPayload ⟨commandId, .snapshotAccepted, true, detail, some (snapshotId, hash)⟩)
      (resultFields (some (.str Operation.snapshotAccepted.value))) = true := rfl
  have listed : textIn (Operation.all.map Operation.value) "COMMAND_RESULT operation is unsupported"
      (some (.str Operation.snapshotAccepted.value)) = .ok Operation.snapshotAccepted.value := by decide
  unfold validateCommandResultPayload
  rw [show Json.lookup "operation" (NodeChannel.resultPayload
    ⟨commandId, .snapshotAccepted, true, detail, some (snapshotId, hash)⟩) =
      some (.str Operation.snapshotAccepted.value) from rfl]
  simp only [fields, listed, require, if_true]
  simp [NodeChannel.resultPayload, payloadVersionOne, Json.lookup, nonemptyText, textIn, boolField, anyText,
    snapshotIdentity, isText, hashText, CommandResult.status, named, identified, hashed]
  rfl

theorem resultRefusal_iff {command : Command} {snapshotId hash : String}
    (accepts : command.Accepts snapshotId hash) (identified : snapshotId ≠ "") (hashed : isSha256Hex hash = true)
    {channel : NodeChannel} (received : channel.receivedCommands.get? command.commandId = some command) :
    channel.resultRefusal command.acceptance = none ↔
      channel.commandResults.get? command.commandId = some command.acceptance ∨
        channel.commandResults.get? command.commandId = none ∧ channel.commandResults.size < maxCommandRecords := by
  have same : command.acceptance.commandId = command.commandId := rfl
  have validated := @validate_acceptance command.acceptance _ _ accepts.named rfl rfl accepts.snapshot identified hashed
  have operation : ¬ command.operation ≠ command.acceptance.operation.value := not_not.mpr accepts.operation
  have snapshot : ¬ (command.acceptance.operation = .snapshotAccepted ∧
      command.snapshot ≠ command.acceptance.snapshot) := fun differs => differs.2 rfl
  unfold NodeChannel.resultRefusal
  simp only [same, if_neg accepts.named, received, if_neg operation, if_neg snapshot, validated]
  cases channel.commandResults.get? command.commandId with
  | some previous =>
    by_cases repeated : previous = command.acceptance
    · simp [repeated]
    · simp [repeated]
  | none => simp

/-- A command `await_snapshot_accepted` has read: it is answered if it accepts the snapshot
    and the identity tables take it, else it raises. -/
theorem accept_answers {before : RankClient} {wait : Wait} {command : Command} {snapshotId hash : String}
    (follows : wait.Next (.answeringAccepted snapshotId command.acceptance))
    (opened : client.writer.isSome = true) (lost : client.established = false) (identified : snapshotId ≠ "")
    (hashed : isSha256Hex hash = true)
    (kept : ∀ other, Holds before other → Kept client other ∨ other = command) :
    Answers before wait
      (match client.channel.rememberReceivedCommand command with
        | .error error => client.commanded clock (.reconnect lease loss) (.awaitingAccepted snapshotId hash)
            (.error error)
        | .ok (channel, command) => { client with channel }.commanded clock (.reconnect lease loss)
            (.awaitingAccepted snapshotId hash) (.ok command))
      (Answerable client command ∧ command.Accepts snapshotId hash) := by
  rcases remembered_iff client.channel command with ⟨room, received, same, found⟩ | ⟨full, error, same⟩
  swap
  · rw [same]
    exact .inr ⟨fun met => full met.1.received, lost, _, _, rfl⟩
  rw [same]
  dsimp only [commanded]
  rcases accepted_iff command snapshotId hash with ⟨accepts, answer⟩ | ⟨other, error, answer⟩
  swap
  · rw [answer]
    exact .inr ⟨fun met => other met.2, lost, _, _, rfl⟩
  rw [answer]
  dsimp only [sendResult]
  have refusal := @resultRefusal_iff command _ _ accepts identified hashed
    { client.channel with receivedCommands := received } found
  cases refused : NodeChannel.resultRefusal { client.channel with receivedCommands := received }
      command.acceptance with
  | some error =>
    refine .inr ⟨fun met => ?_, lost, _, _, rfl⟩
    rw [refusal.mpr met.1.unanswered] at refused
    cases refused
  | none =>
    have holding : ∀ other, Holds before other → Kept client other ∨ ∃ named,
        Wait.answeringAccepted snapshotId command.acceptance = .answeringAccepted named other.acceptance := by
      intro other holds
      rcases kept other holds with still | rfl
      · exact .inl still
      · exact .inr ⟨snapshotId, rfl⟩
    have written := @writeThen_answers
      { client with channel := { client.channel with receivedCommands := received } } lease loss clock before wait
      (.answeringAccepted snapshotId command.acceptance) opened lost holding .commandResult
      (NodeChannel.resultPayload command.acceptance) follows fun _ _ _ => trivial
    rcases written with ⟨framed, advances⟩ | ⟨unframed, failed⟩
    · exact .inl ⟨⟨⟨room, refusal.mp refused, framed⟩, accepts⟩, advances⟩
    · exact .inr ⟨fun met => unframed met.1.framed, failed⟩

theorem head_seen {env : Envelope} (head : FromHead client env) :
    client.channel.validateHeadEnvelope env = .ok { client.channel with headSeq := env.seq } := by
  obtain ⟨deployment, plan, generation, sender, sequence⟩ := head
  unfold NodeChannel.validateHeadEnvelope
  rw [if_neg (by simp [deployment, plan, generation, sender]), if_neg (by omega)]

theorem snapshotRefusal_iff (channel : NodeChannel) (items : List SnapshotItem) (snapshotId hash : String) :
    channel.snapshotRefusal items snapshotId hash 256 = none ↔ Within channel.limits items ∧
      (channel.snapshotHashes.get? snapshotId = some hash ∨
        channel.snapshotHashes.get? snapshotId = none ∧ channel.snapshotHashes.size = 0) := by
  have earlier : (channel.snapshotHashes.get? snapshotId = some hash ∨
      channel.snapshotHashes.get? snapshotId = none ∧ channel.snapshotHashes.size = 0) ↔
      ¬ (channel.snapshotHashes.get? snapshotId).any (· ≠ hash) = true ∧
        ¬ (channel.snapshotHashes.get? snapshotId = none ∧ channel.snapshotHashes.size ≠ 0) := by
    cases channel.snapshotHashes.get? snapshotId <;> simp
  rw [earlier]
  unfold NodeChannel.snapshotRefusal Within
  simp only [show ¬ ((256 : Int) < 1) by decide, if_false, show Int.toNat 256 = 256 from rfl]
  split
  · simp; omega
  · split
    · simp; omega
    · split
      · simp; omega
      · split
        · simp_all
        · split <;> simp_all

theorem prepared_iff {limits : DefaultLimits} (headSeq : Int) :
    (∃ items snapshotId hash, Preparable client limits items snapshotId hash ∧
      NodeChannel.prepareSnapshot { client.channel with headSeq, limits } client.snapshotObservations.values
        client.snapshotReceipts.values "" 256 =
        .ok ({ client.channel with headSeq, limits,
                                   snapshotHashes := client.channel.snapshotHashes.insert snapshotId hash },
          snapshotId, chunksOwed items snapshotId hash)) ∨
    ((¬ ∃ items snapshotId hash, Preparable client limits items snapshotId hash) ∧
      ∃ error, NodeChannel.prepareSnapshot { client.channel with headSeq, limits }
        client.snapshotObservations.values client.snapshotReceipts.values "" 256 = .error error) := by
  unfold NodeChannel.prepareSnapshot
  cases contents : canonicalSnapshotItems
      (NodeChannel.snapshotItems client.snapshotObservations.values client.snapshotReceipts.values) with
  | error error =>
    refine .inr ⟨?_, error, rfl⟩
    rintro ⟨items, snapshotId, hash, preparable⟩
    cases contents.symm.trans preparable.contents
  | ok items =>
    dsimp only
    cases hashed : snapshotSetHash (items.map SnapshotItem.toJson) with
    | error error =>
      refine .inr ⟨?_, error, rfl⟩
      rintro ⟨others, snapshotId, hash, preparable⟩
      cases contents.symm.trans preparable.contents
      cases hashed.symm.trans preparable.hashed
    | ok hash =>
      have refusal := snapshotRefusal_iff { client.channel with headSeq, limits } items
        (client.channel.defaultSnapshotId "" hash) hash
      dsimp only
      cases refused : NodeChannel.snapshotRefusal { client.channel with headSeq, limits } items
          (NodeChannel.defaultSnapshotId { client.channel with headSeq, limits } "" hash) hash 256 with
      | none =>
        obtain ⟨within, in_flight⟩ := refusal.mp refused
        exact .inl ⟨items, _, hash, ⟨contents, hashed, rfl, within, in_flight⟩, rfl⟩
      | some reason =>
        refine .inr ⟨?_, _, rfl⟩
        rintro ⟨others, snapshotId, other, preparable⟩
        cases contents.symm.trans preparable.contents
        cases hashed.symm.trans preparable.hashed
        obtain rfl := preparable.named
        cases refused.symm.trans (refusal.mpr ⟨preparable.within, preparable.in_flight⟩)

theorem isSha256Hex_setHash {items : List Json} {hash : String} (hashed : snapshotSetHash items = .ok hash) :
    isSha256Hex hash = true := by
  unfold snapshotSetHash at hashed
  split at hashed
  · cases hashed
  · cases hashed
    exact isSha256Hex_canonicalHash _

theorem chunksOwed_nonempty (items : List SnapshotItem) (snapshotId hash : String) :
    chunksOwed items snapshotId hash ≠ [] := by
  unfold chunksOwed
  dsimp only
  cases owed : NodeChannel.snapshotChunks 256 items with
  | nil => exact absurd owed (NodeChannel.snapshotChunks_nonempty 256 items)
  | cons chunk rest => exact List.cons_ne_nil _ _

theorem acknowledged_answers (lost : client.established = false)
    (waits : client.activity = .waiting (.reconnect lease loss) .acknowledging)
    (opened : client.writer.isSome = true) (inside : clock < loss.deadline) {env : Envelope}
    {limits : DefaultLimits} (head : FromHead client env)
    (acknowledges : NodeChannel.registrationLimits env = .ok limits) :
    Answers client .acknowledging (client.acknowledged clock (.reconnect lease loss) env)
      (∃ items snapshotId hash, Sendable client limits items snapshotId hash) := by
  unfold acknowledged
  simp only [head_seen head, acknowledges, registered, if_neg (not_le.mpr inside), sendSnapshot]
  rcases @prepared_iff client limits env.seq with
    ⟨items, snapshotId, hash, preparable, prepared⟩ | ⟨none, error, refused⟩
  swap
  · rw [refused]
    refine .inr ⟨?_, lost, _, _, rfl⟩
    rintro ⟨items, snapshotId, hash, sendable⟩
    exact none ⟨items, snapshotId, hash, sendable.toPreparable⟩
  rw [prepared]
  dsimp only
  obtain ⟨payload, rest, owed⟩ := List.exists_cons_of_ne_nil (chunksOwed_nonempty items snapshotId hash)
  rw [owed]
  have kept : ∀ command, Holds client command → Kept client command ∨
      ∃ named, Wait.writingChunk snapshotId rest = .answeringAccepted named command.acceptance :=
    fun _ holds => .inl (holds.kept waits nofun)
  have identified : snapshotId ≠ "" := preparable.named ▸ NodeChannel.defaultSnapshotId_named _ _ _
  have written := @writeThen_answers
    { client with
        channel := { client.channel with
          headSeq := env.seq, limits
          snapshotHashes := client.channel.snapshotHashes.insert snapshotId hash }
        controlLimits := some limits }
    lease loss clock client .acknowledging (.writingChunk snapshotId rest) opened lost kept .snapshot payload
    .sends (fun after writer channel => ⟨writer ▸ opened, identified, hash,
      by rw [channel]; exact Dict.get?_insert_self _ _ _, isSha256Hex_setHash preparable.hashed⟩)
  rcases written with ⟨framed, advances⟩ | ⟨unframed, failed⟩
  · refine .inl ⟨⟨items, snapshotId, hash, preparable, ?_⟩, advances⟩
    rw [owed]
    intro first named
    cases named
    exact framed
  · refine .inr ⟨?_, failed⟩
    rintro ⟨others, named, expected, sendable⟩
    cases preparable.contents.symm.trans sendable.contents
    cases preparable.hashed.symm.trans sendable.hashed
    obtain rfl := preparable.named.symm.trans sendable.named
    exact unframed (sendable.framed payload (by rw [owed]; rfl))

theorem chunk_answers {snapshotId : String} {payload : List (String × Json)}
    {rest : List (List (String × Json))} (lost : client.established = false)
    (waits : client.activity = .waiting (.reconnect lease loss) (.writingChunk snapshotId (payload :: rest)))
    (phase : Phase client (.writingChunk snapshotId (payload :: rest))) :
    Answers client (.writingChunk snapshotId (payload :: rest))
      (client.writeChunks clock (.reconnect lease loss) snapshotId (payload :: rest))
      (client.framed .snapshot payload = true) := by
  obtain ⟨opened, identified, hash, sent, hashed⟩ := phase
  have kept : ∀ command, Holds client command → Kept client command ∨
      ∃ named, Wait.writingChunk snapshotId rest = .answeringAccepted named command.acceptance :=
    fun _ holds => .inl (holds.kept waits nofun)
  exact writeThen_answers opened lost kept .snapshot payload .chunk
    fun after writer channel => ⟨writer ▸ opened, identified, hash, by rw [channel]; exact sent, hashed⟩

theorem sent_answers {snapshotId : String} (lost : client.established = false)
    (waits : client.activity = .waiting (.reconnect lease loss) (.writingChunk snapshotId []))
    (phase : Phase client (.writingChunk snapshotId [])) (inside : clock < loss.deadline) :
    Answers client (.writingChunk snapshotId []) (client.writeChunks clock (.reconnect lease loss) snapshotId [])
      (∀ command ∈ client.channel.pendingHeadCommands.head?, Answerable client command ∧
        ∃ hash, client.channel.snapshotHashes.get? snapshotId = some hash ∧ command.Accepts snapshotId hash) := by
  obtain ⟨opened, identified, hash, sent, hashed⟩ := phase
  unfold writeChunks
  dsimp only
  rw [if_neg (not_le.mpr inside)]
  have awaits : client.awaitSnapshotAccepted clock (.reconnect lease loss) snapshotId =
      client.receiveCommand clock (.reconnect lease loss) (.awaitingAccepted snapshotId hash) := by
    unfold awaitSnapshotAccepted
    rw [sent]
  rw [awaits]
  unfold receiveCommand
  cases queue : client.channel.pendingHeadCommands with
  | nil =>
    refine .inl ⟨nofun, .inl ⟨.awaitingAccepted snapshotId hash,
      ⟨lost, ⟨lease, loss, rfl⟩, opened, identified, hashed⟩, .sent⟩, ?_⟩
    intro command holds
    exact .inl (holds.kept waits nofun)
  | cons command others =>
    have holding : ∀ other, Holds client other →
        Kept { client with channel := { client.channel with pendingHeadCommands := others } } other ∨
          other = command := by
      intro other holds
      rcases holds.kept waits nofun with queued | answered
      · rw [queue] at queued
        rcases List.mem_cons.mp queued with rfl | later
        · exact .inr rfl
        · exact .inl (.inl later)
      · exact .inl (.inr answered)
    have answers := @accept_answers
      { client with channel := { client.channel with pendingHeadCommands := others } } lease loss clock client
      (.writingChunk snapshotId []) command snapshotId hash .queued opened lost identified hashed holding
    have conditions : (∀ first ∈ (command :: others).head?, Answerable client first ∧
        ∃ hash, client.channel.snapshotHashes.get? snapshotId = some hash ∧ first.Accepts snapshotId hash) ↔
        Answerable { client with channel := { client.channel with pendingHeadCommands := others } } command ∧
          command.Accepts snapshotId hash := by
      constructor
      · intro met
        obtain ⟨⟨received, unanswered, framed⟩, other, found, accepts⟩ := met command rfl
        cases sent.symm.trans found
        exact ⟨⟨received, unanswered, framed⟩, accepts⟩
      · rintro ⟨⟨received, unanswered, framed⟩, accepts⟩ first named
        cases named
        exact ⟨⟨received, unanswered, framed⟩, hash, sent, accepts⟩
    exact answers.congr conditions

theorem accepted_answers {snapshotId hash : String} {env : Envelope} {command : Command}
    (lost : client.established = false)
    (waits : client.activity = .waiting (.reconnect lease loss) (.awaitingAccepted snapshotId hash))
    (phase : Phase client (.awaitingAccepted snapshotId hash)) (head : FromHead client env)
    (commands : env.kind = .command) (read : validateCommandPayload env.payload = .ok command)
    (accepts : command.Accepts snapshotId hash) :
    Answers client (.awaitingAccepted snapshotId hash)
      (client.commandFrame clock (.reconnect lease loss) (.awaitingAccepted snapshotId hash) env)
      (Answerable client command) := by
  obtain ⟨opened, identified, hashed⟩ := phase
  have holding : ∀ other, Holds client other →
      Kept { client with channel := { client.channel with headSeq := env.seq } } other ∨ other = command :=
    fun _ holds => .inl (holds.kept waits nofun)
  have answers := @accept_answers { client with channel := { client.channel with headSeq := env.seq } } lease loss
    clock client (.awaitingAccepted snapshotId hash) command snapshotId hash .answers opened lost identified
    hashed holding
  have conditions : Answerable client command ↔
      Answerable { client with channel := { client.channel with headSeq := env.seq } } command ∧
        command.Accepts snapshotId hash := by
    constructor
    · rintro ⟨received, unanswered, framed⟩
      exact ⟨⟨received, unanswered, framed⟩, accepts⟩
    · rintro ⟨⟨received, unanswered, framed⟩, -⟩
      exact ⟨received, unanswered, framed⟩
  unfold commandFrame NodeChannel.takeCommand
  simp only [head_seen head, commands, ne_eq, not_true_eq_false, if_false, read]
  exact answers.congr conditions

theorem answered_answers {snapshotId : String} {result : CommandResult}
    (waits : client.activity = .waiting (.reconnect lease loss) (.answeringAccepted snapshotId result)) :
    Answers client (.answeringAccepted snapshotId result)
      (client.drained clock (.reconnect lease loss) (.answeringAccepted snapshotId result)) True := by
  refine .inl ⟨trivial, .inr ⟨⟨snapshotId, result, rfl⟩, rfl, _, rfl⟩, ?_⟩
  rintro command ((queued | answered) | ⟨purpose, named, answering⟩)
  · exact .inl (.inl queued)
  · refine .inl (.inr ?_)
    change ((client.channel.commandResults.insert result.commandId result).get? command.commandId).isSome = true
    rw [Dict.get?_insert]
    split <;> simp [answered]
  · cases waits.symm.trans answering
    refine .inl (.inr ?_)
    change ((client.channel.commandResults.insert command.commandId command.acceptance).get?
      command.commandId).isSome = true
    rw [Dict.get?_insert_self]
    rfl

end Steps

end RankClient

end ExaServe.Control
