import ExaServe.Lib.Run
import ExaServe.Control.Rank.Client

namespace ExaServe.Control

open Lib Plan

/-- The frames a listener takes only from an established session. -/
def Envelope.isTraffic (env : Envelope) : Bool :=
  env.kind = .observation || env.kind = .receipt || env.kind = .heartbeat

def Envelope.acceptsSnapshot (env : Envelope) : Bool :=
  env.kind = .commandResult &&
    isText Operation.snapshotAccepted.value (Json.lookup "operation" env.payload)

theorem Message.traffic (message : Message) (channel : NodeChannel) :
    (channel.env message.kind message.payload).isTraffic = true := by
  cases message <;> rfl

def Purpose.relies : Purpose → Bool
  | .pollStart _ => true
  | .lease _ => true
  | _ => false

namespace RankClient

def RegisteredOn (wire : List (Nat × Envelope)) (c : Nat) : Prop :=
  ∃ sent ∈ wire, sent.1 = c ∧ sent.2.kind = .register

def AcceptedOn (wire : List (Nat × Envelope)) (c : Nat) : Prop :=
  ∃ sent ∈ wire, sent.1 = c ∧ sent.2.acceptsSnapshot = true

instance (wire : List (Nat × Envelope)) (c : Nat) : Decidable (RegisteredOn wire c) :=
  inferInstanceAs (Decidable (∃ sent ∈ wire, _))

instance (wire : List (Nat × Envelope)) (c : Nat) : Decidable (AcceptedOn wire c) :=
  inferInstanceAs (Decidable (∃ sent ∈ wire, _))

/-- No observation, receipt or heartbeat stands on a connection between its REGISTER
    and its SNAPSHOT_ACCEPTED result. -/
def Disciplined (wire : List (Nat × Envelope)) : Prop :=
  Guarded (fun before sent =>
    sent.2.isTraffic = true → RegisteredOn before sent.1 → AcceptedOn before sent.1) wire

instance (wire : List (Nat × Envelope)) : Decidable (Disciplined wire) := Guarded.decidable wire

/-- The channel's connection has its snapshot's result behind it. -/
def Settled (client : RankClient) : Prop := ∃ c, client.writer = some c ∧ AcceptedOn client.wire c

/-- What the code that drives the channel knows of its connection. -/
def Ready (client : RankClient) (purpose : Purpose) : Prop :=
  if purpose.relies then Settled client else client.established = false

def Placed (client : RankClient) : Activity → Prop
  | .created => client.established = false
  | .registered => client.established = false
  | .gated => Settled client
  | .ended => True
  | .waiting purpose wait => Ready client purpose ∧
      match wait with
      | .closing => purpose.relies = false
      | .opening => purpose.relies = false
      | .answeringAccepted _ _ => Settled client
      | _ => True

structure Fit (client : RankClient) : Prop where
  established_settled : client.established = true → Settled client
  tested_accepted : ∀ call message tested waiting,
    client.calls call = .scheduled message tested waiting → ∃ c, tested = some c ∧ AcceptedOn client.wire c

structure Sound (client : RankClient) : Prop extends Fit client where
  placed : Placed client client.activity

theorem AcceptedOn.append {wire : List (Nat × Envelope)} {c : Nat} (accepted : AcceptedOn wire c)
    (later : List (Nat × Envelope)) : AcceptedOn (wire ++ later) c := by
  obtain ⟨sent, member, on, accepts⟩ := accepted
  exact ⟨sent, List.mem_append_left _ member, on, accepts⟩

/-- Sound afterwards, and nothing was written. -/
def Silent (client after : RankClient) : Prop := Sound after ∧ after.wire = client.wire

/-- Sound afterwards, and at most one frame was written, which keeps the discipline. -/
def Follows (wire : List (Nat × Envelope)) (after : RankClient) : Prop :=
  Sound after ∧ (after.wire = wire ∨
    ∃ sent, after.wire = wire ++ [sent] ∧ (sent.2.isTraffic = true → AcceptedOn wire sent.1))

theorem Silent.follows {client after : RankClient} (silent : Silent client after) :
    Follows client.wire after := ⟨silent.1, .inl silent.2⟩

section Drive

variable {client : RankClient} {purpose : Purpose} (clock : Time)

theorem Ready.settled (ready : Ready client purpose) (relies : purpose.relies = true) : Settled client := by
  unfold Ready at ready
  rwa [if_pos relies] at ready

theorem Ready.unestablished (ready : Ready client purpose) (relies : purpose.relies = false) :
    client.established = false := by
  unfold Ready at ready
  rwa [if_neg (by simp [relies])] at ready

theorem Fit.carry {after : RankClient} (fit : Fit client) (writer : after.writer = client.writer)
    (wire : after.wire = client.wire) (calls : after.calls = client.calls)
    (established : after.established = true → client.established = true) : Fit after := by
  refine ⟨?_, ?_⟩
  · intro holds
    unfold Settled
    rw [writer, wire]
    exact fit.established_settled (established holds)
  · rw [wire, calls]
    exact fit.tested_accepted

theorem Fit.lower {after : RankClient} (fit : Fit client) (wire : after.wire = client.wire)
    (calls : after.calls = client.calls) (lowered : after.established = false) : Fit after := by
  refine ⟨?_, ?_⟩
  · intro holds
    rw [lowered] at holds
    cases holds
  · rw [wire, calls]
    exact fit.tested_accepted

theorem connectAndRegister_silent (fit : Fit client) (ready : Ready client purpose)
    (fresh : purpose.relies = false) : Silent client (client.connectAndRegister purpose) := by
  unfold connectAndRegister
  split
  · exact ⟨⟨fit.carry rfl rfl rfl id, ready, fresh⟩, rfl⟩
  · exact ⟨⟨fit.carry rfl rfl rfl id, ready, fresh⟩, rfl⟩

theorem reconnectOver_silent (fit : Fit client) (lease : Lease) (loss : Loss) :
    Silent client (client.reconnectOver lease loss) := by
  unfold reconnectOver
  split
  · rename_i established
    exact ⟨⟨fit.carry rfl rfl rfl id, fit.established_settled established, trivial⟩, rfl⟩
  · exact ⟨⟨fit.carry rfl rfl rfl id, trivial⟩, rfl⟩

theorem attempt_silent (fit : Fit client) (lost : client.established = false) (lease : Lease) (loss : Loss) :
    Silent client (client.attempt clock lease loss) := by
  unfold attempt
  split
  · exact connectAndRegister_silent fit lost rfl
  · exact reconnectOver_silent fit lease loss

theorem loseLease_silent (fit : Fit client) (lease : Lease) (error : Raised) :
    Silent client (client.loseLease clock lease error) := by
  unfold loseLease
  split
  · exact ⟨⟨fit.carry rfl rfl rfl id, trivial⟩, rfl⟩
  · have lowered : Fit { client with connected := false, established := false } := fit.lower rfl rfl rfl
    obtain ⟨sound, same⟩ := attempt_silent clock lowered rfl lease _
    exact ⟨sound, same⟩

theorem raise_silent (fit : Fit client) (ready : Ready client purpose) (wait : Wait) (error : Raised) :
    Silent client (client.raise clock purpose wait error) := by
  unfold raise
  split
  · exact ⟨⟨fit.lower rfl rfl ready, trivial⟩, rfl⟩
  · exact ⟨⟨fit.lower rfl rfl rfl, trivial⟩, rfl⟩
  · exact ⟨⟨fit.lower rfl rfl rfl, ready.settled rfl⟩, rfl⟩
  · split
    · exact ⟨⟨fit.carry rfl rfl rfl id, trivial⟩, rfl⟩
    · exact loseLease_silent clock fit _ error
  · exact ⟨⟨fit.carry rfl rfl rfl id, ready, trivial⟩, rfl⟩

/-- `write_frame` does not refuse the frame. -/
def framed (client : RankClient) (kind : EnvelopeKind) (payload : List (String × Json)) : Bool :=
  (writeFrame client.channel.secret client.channel.limits.maxFrameBytes
    (client.channel.env kind payload)).isOk

theorem write_cases (client : RankClient) (kind : EnvelopeKind) (payload : List (String × Json)) :
    (∃ channel error, client.write kind payload = ({ client with channel }, .error error) ∧
      (client.writer = none ∨ client.framed kind payload = false)) ∨
      ∃ c, client.writer = some c ∧ client.framed kind payload = true ∧ client.write kind payload =
        ({ client with channel := client.channel.nextSeq
                       wire := client.wire ++ [(c, client.channel.env kind payload)] }, .ok ()) := by
  unfold write framed NodeChannel.write
  split
  · rename_i closed
    exact .inl ⟨client.channel, _, rfl, .inl closed⟩
  · rename_i c current
    cases writeFrame client.channel.secret client.channel.limits.maxFrameBytes
        (client.channel.env kind payload) with
    | error refused => exact .inl ⟨client.channel.nextSeq, refused, by simp, .inr rfl⟩
    | ok bytes => exact .inr ⟨c, current, rfl, by simp⟩

theorem Settled.append {after : RankClient} {later : List (Nat × Envelope)} (settled : Settled client)
    (writer : after.writer = client.writer) (wire : after.wire = client.wire ++ later) : Settled after := by
  obtain ⟨c, current, accepted⟩ := settled
  exact ⟨c, writer.trans current, wire ▸ accepted.append later⟩

theorem Fit.append {after : RankClient} {later : List (Nat × Envelope)} (fit : Fit client)
    (writer : after.writer = client.writer) (wire : after.wire = client.wire ++ later)
    (calls : after.calls = client.calls) (established : after.established = client.established) :
    Fit after := by
  refine ⟨?_, ?_⟩
  · intro holds
    exact (fit.established_settled (established ▸ holds)).append writer wire
  · intro call message tested waiting scheduled
    rw [calls] at scheduled
    obtain ⟨c, on, accepted⟩ := fit.tested_accepted call message tested waiting scheduled
    exact ⟨c, on, wire ▸ accepted.append later⟩

theorem Ready.append {after : RankClient} {later : List (Nat × Envelope)} (ready : Ready client purpose)
    (writer : after.writer = client.writer) (wire : after.wire = client.wire ++ later)
    (established : after.established = client.established) : Ready after purpose := by
  unfold Ready at ready ⊢
  split
  · rename_i relies
    rw [if_pos relies] at ready
    exact ready.append writer wire
  · rename_i relies
    rw [if_neg relies] at ready
    exact established.trans ready

theorem Placed.append {after : RankClient} {later : List (Nat × Envelope)} {activity : Activity}
    (placed : Placed client activity) (writer : after.writer = client.writer)
    (wire : after.wire = client.wire ++ later) (established : after.established = client.established) :
    Placed after activity := by
  cases activity with
  | created => exact established.trans placed
  | registered => exact established.trans placed
  | gated => exact Settled.append placed writer wire
  | ended => trivial
  | waiting purpose wait =>
    refine ⟨placed.1.append writer wire established, ?_⟩
    cases wait with
    | closing => exact placed.2
    | opening => exact placed.2
    | answeringAccepted snapshotId result => exact Settled.append placed.2 writer wire
    | _ => trivial

/-- What the frame must be for the await that follows its write. -/
def Wait.Follows (env : Envelope) : Wait → Prop
  | .closing => False
  | .opening => False
  | .answeringAccepted _ _ => env.acceptsSnapshot = true
  | _ => True

theorem writeThen_follows (fit : Fit client) (ready : Ready client purpose) {kind : EnvelopeKind}
    {payload : List (String × Json)} {wait : Wait}
    (admitted : (client.channel.env kind payload).isTraffic = true → Settled client)
    (reached : Wait.Follows (client.channel.env kind payload) wait) :
    Follows client.wire (client.writeThen clock purpose kind payload wait) := by
  unfold writeThen
  rcases write_cases client kind payload with ⟨channel, error, refused, -⟩ | ⟨c, current, -, written⟩
  · rw [refused]
    have kept : Fit { client with channel } := fit.carry rfl rfl rfl id
    exact (raise_silent clock kept ready wait error).follows
  · rw [written]
    refine ⟨⟨fit.append rfl rfl rfl rfl, ready.append rfl rfl rfl, ?_⟩, .inr ⟨_, rfl, ?_⟩⟩
    · cases wait with
      | closing => exact reached.elim
      | opening => exact reached.elim
      | answeringAccepted snapshotId result =>
        exact ⟨c, current, _, List.mem_append_right _ (List.mem_singleton.mpr rfl), rfl, reached⟩
      | _ => trivial
    · intro traffic
      obtain ⟨on, same, accepted⟩ := admitted traffic
      rw [current] at same
      cases same
      exact accepted

theorem register_follows (fit : Fit client) (ready : Ready client purpose) (fresh : purpose.relies = false) :
    Follows client.wire (client.register clock purpose) := by
  have lost := ready.unestablished fresh
  have opened : Fit { client with writer := some client.opened, opened := client.opened + 1 } :=
    fit.lower rfl rfl lost
  have kept : Ready { client with writer := some client.opened, opened := client.opened + 1 } purpose := by
    unfold Ready
    rw [if_neg (by simp [fresh])]
    exact lost
  exact writeThen_follows clock opened kept (fun traffic => by cases traffic) trivial

theorem sendResult_follows (fit : Fit client) (ready : Ready client purpose) {wait : Wait}
    {result : CommandResult}
    (reached : ∀ channel : NodeChannel,
      Wait.Follows (channel.env .commandResult (NodeChannel.resultPayload result)) wait) :
    Follows client.wire (client.sendResult clock purpose wait result) := by
  unfold sendResult
  split
  · exact (raise_silent clock fit ready wait _).follows
  · exact writeThen_follows clock fit ready (fun traffic => by cases traffic) (reached _)

theorem Sound.channel (sound : Sound client) (channel : NodeChannel) : Sound { client with channel } :=
  ⟨sound.carry rfl rfl rfl id, sound.placed⟩

theorem startCommand_follows (fit : Fit client) {operation : Operation}
    (ready : Ready client (.pollStart operation)) (command : Command) :
    Follows client.wire (client.startCommand clock operation command) := by
  unfold startCommand
  split
  · exact Silent.follows ⟨⟨fit.lower rfl rfl rfl, ready.settled rfl⟩, rfl⟩
  · exact sendResult_follows clock fit ready fun _ => trivial

theorem runtimeCommand_follows (fit : Fit client) {lease : Lease} (ready : Ready client (.lease lease))
    (command : Command) : Follows client.wire (client.runtimeCommand clock lease command) := by
  unfold runtimeCommand
  split
  · exact (raise_silent clock fit ready _ _).follows
  · exact writeThen_follows clock fit ready (fun traffic => by cases traffic) trivial
  · split
    · exact Silent.follows ⟨⟨fit.carry rfl rfl rfl id, trivial⟩, rfl⟩
    · exact sendResult_follows clock fit ready fun _ => trivial

theorem acceptanceResult_operation {command : Command} {snapshotId hash : String} {result : CommandResult}
    (answer : NodeChannel.acceptanceResult command snapshotId hash = .ok result) :
    result.operation = .snapshotAccepted := by
  unfold NodeChannel.acceptanceResult at answer
  dsimp only at answer
  split at answer
  · cases answer
  · cases answer
    rfl

theorem acceptsSnapshot_resultPayload (channel : NodeChannel) {result : CommandResult}
    (operation : result.operation = .snapshotAccepted) :
    (channel.env .commandResult (NodeChannel.resultPayload result)).acceptsSnapshot = true := by
  unfold Envelope.acceptsSnapshot NodeChannel.resultPayload NodeChannel.env
  rw [operation]
  simp [Json.lookup, isText]

theorem commanded_follows (sound : Sound client) (ready : Ready client purpose) (wait : Wait)
    (outcome : Except Raised Command) :
    Follows client.wire (client.commanded clock purpose wait outcome) := by
  unfold commanded
  split
  · exact (raise_silent clock sound.toFit ready wait _).follows
  · split
    · exact (raise_silent clock sound.toFit ready _ _).follows
    · rename_i answer
      exact sendResult_follows clock sound.toFit ready fun channel =>
        acceptsSnapshot_resultPayload channel (acceptanceResult_operation answer)
  · exact startCommand_follows clock sound.toFit ready _
  · exact runtimeCommand_follows clock sound.toFit ready _
  · exact ⟨sound, .inl rfl⟩

theorem commanded_on (sound : Sound client) (ready : Ready client purpose) (channel : NodeChannel)
    (wait : Wait) (outcome : Except Raised Command) :
    Follows client.wire ({ client with channel }.commanded clock purpose wait outcome) :=
  commanded_follows clock (sound.channel channel) ready wait outcome

theorem receiveCommand_follows (sound : Sound client) (ready : Ready client purpose) {wait : Wait}
    (resting : ∀ env, Wait.Follows env wait) :
    Follows client.wire (client.receiveCommand clock purpose wait) := by
  unfold receiveCommand
  split
  · refine ⟨⟨sound.carry rfl rfl rfl id, ready, ?_⟩, .inl rfl⟩
    cases wait with
    | closing => exact (resting (client.channel.env .register [])).elim
    | opening => exact (resting (client.channel.env .register [])).elim
    | answeringAccepted snapshotId result => cases resting (client.channel.env .register [])
    | _ => trivial
  · dsimp only
    split
    · exact commanded_on clock sound ready _ wait _
    · exact commanded_on clock sound ready _ wait _

theorem commandFrame_follows (sound : Sound client) (ready : Ready client purpose) (wait : Wait)
    (env : Envelope) : Follows client.wire (client.commandFrame clock purpose wait env) := by
  unfold commandFrame
  split
  · exact commanded_follows clock sound ready wait _
  · split
    · exact commanded_on clock sound ready _ wait _
    · exact commanded_on clock sound ready _ wait _

theorem awaitSnapshotAccepted_follows (sound : Sound client) (ready : Ready client purpose)
    (snapshotId : String) : Follows client.wire (client.awaitSnapshotAccepted clock purpose snapshotId) := by
  unfold awaitSnapshotAccepted
  split
  · exact (raise_silent clock sound.toFit ready _ _).follows
  · exact receiveCommand_follows clock sound ready fun _ => trivial

theorem writeChunks_follows (sound : Sound client) (ready : Ready client purpose) (snapshotId : String)
    (payloads : List (List (String × Json))) :
    Follows client.wire (client.writeChunks clock purpose snapshotId payloads) := by
  unfold writeChunks
  split
  · exact writeThen_follows clock sound.toFit ready (fun traffic => by cases traffic) trivial
  · split
    · exact (reconnectOver_silent sound.toFit _ _).follows
    · exact awaitSnapshotAccepted_follows clock sound ready snapshotId
  · exact awaitSnapshotAccepted_follows clock sound ready snapshotId

theorem sendSnapshot_follows (sound : Sound client) (ready : Ready client purpose)
    (observations : List ComponentObservation) (receipts : List (List (String × Json))) :
    Follows client.wire (client.sendSnapshot clock purpose observations receipts) := by
  unfold sendSnapshot
  split
  · exact (raise_silent clock sound.toFit ready _ _).follows
  · rename_i channel snapshotId payloads _
    have followed := writeChunks_follows clock (sound.channel channel) ready snapshotId payloads
    exact followed

theorem registered_follows (sound : Sound client) (ready : Ready client purpose) :
    Follows client.wire (client.registered clock purpose) := by
  unfold registered
  split
  · exact Silent.follows ⟨⟨sound.carry rfl rfl rfl id, ready⟩, rfl⟩
  · split
    · exact (reconnectOver_silent sound.toFit _ _).follows
    · exact sendSnapshot_follows clock sound ready _ _
  · exact ⟨sound, .inl rfl⟩

theorem acknowledged_follows (sound : Sound client) (ready : Ready client purpose) (env : Envelope) :
    Follows client.wire (client.acknowledged clock purpose env) := by
  unfold acknowledged
  split
  · exact (raise_silent clock sound.toFit ready _ _).follows
  · rename_i seen _
    split
    · have kept := (sound.channel seen).toFit
      exact (raise_silent clock kept ready _ _).follows
    · rename_i limits _
      have kept : Sound { client with channel := { seen with limits }, controlLimits := some limits } :=
        ⟨sound.carry rfl rfl rfl id, sound.placed⟩
      exact registered_follows clock kept ready

theorem heartbeatRoundTrip_follows (fit : Fit client) (ready : Ready client purpose)
    (relies : purpose.relies = true) (timeout : Time) :
    Follows client.wire (client.heartbeatRoundTrip clock purpose timeout) := by
  unfold heartbeatRoundTrip
  dsimp only
  generalize ({ client.channel with heartbeatCounter := _ } : NodeChannel) = counted
  generalize [("payload_version", Json.int 1), _] = payload
  have kept : Fit { client with channel := counted } := fit.carry rfl rfl rfl id
  have settled : Settled { client with channel := counted } := ready.settled relies
  exact writeThen_follows clock kept ready (fun _ => settled) trivial

theorem alive_follows (sound : Sound client) (ready : Ready client purpose) :
    Follows client.wire (client.alive clock purpose) := by
  unfold alive
  split
  · exact Silent.follows ⟨⟨sound.carry rfl rfl rfl id, ready.settled rfl⟩, rfl⟩
  · rename_i lease
    have kept : Sound { client with lastControlAck := some clock } :=
      ⟨sound.carry rfl rfl rfl id, sound.placed⟩
    have settled : Ready { client with lastControlAck := some clock }
        (.lease { lease with lastAck := clock }) := ready.settled rfl
    exact receiveCommand_follows clock kept settled fun _ => trivial
  · exact ⟨sound, .inl rfl⟩

theorem echoed_follows (sound : Sound client) (ready : Ready client purpose) (heartbeatId : String)
    (deadline : Time) (env : Envelope) :
    Follows client.wire (client.echoed clock purpose heartbeatId deadline env) := by
  unfold echoed
  dsimp only
  split
  · exact (raise_silent clock sound.toFit ready _ _).follows
  · rename_i seen _
    split
    · have kept := (sound.channel seen).toFit
      exact (raise_silent clock kept ready _ _).follows
    · have kept := sound.channel seen
      exact alive_follows clock kept ready
    · rename_i channel _
      have kept := (sound.channel channel).toFit
      split
      · exact (raise_silent clock kept ready _ _).follows
      · exact Silent.follows ⟨⟨kept.carry rfl rfl rfl id, ready, trivial⟩, rfl⟩

theorem preStartHeartbeat_follows (fit : Fit client) {operation : Operation}
    (ready : Ready client (.pollStart operation)) :
    Follows client.wire (client.preStartHeartbeat clock operation) := by
  unfold preStartHeartbeat
  dsimp only
  split
  · exact (raise_silent clock fit ready _ _).follows
  · exact (raise_silent clock fit ready _ _).follows
  · split
    · exact (raise_silent clock fit ready _ _).follows
    · exact heartbeatRoundTrip_follows clock fit ready rfl _

theorem noCommand_follows (sound : Sound client) (ready : Ready client purpose) :
    Follows client.wire (client.noCommand clock purpose) := by
  unfold noCommand
  split
  · exact Silent.follows ⟨⟨sound.lower rfl rfl rfl, trivial⟩, rfl⟩
  · exact (attempt_silent clock sound.toFit ready _ _).follows
  · exact preStartHeartbeat_follows clock sound.toFit ready
  · exact Silent.follows ⟨⟨sound.carry rfl rfl rfl id, ready, trivial⟩, rfl⟩
  · exact ⟨sound, .inl rfl⟩

theorem readFailed_follows (sound : Sound client) (ready : Ready client purpose) (wait : Wait)
    (error : Raised) : Follows client.wire (client.readFailed clock purpose wait error) := by
  unfold readFailed
  split
  · exact (raise_silent clock sound.toFit ready _ _).follows
  · exact (raise_silent clock sound.toFit ready _ _).follows
  · split
    · exact noCommand_follows clock sound ready
    · exact (raise_silent clock sound.toFit ready _ _).follows
  · split
    · exact noCommand_follows clock sound ready
    · exact (raise_silent clock sound.toFit ready _ _).follows
  · exact ⟨sound, .inl rfl⟩

theorem startMaintenance_silent (fit : Fit client) (settled : Settled client) :
    Silent client (client.startMaintenance clock) := by
  unfold startMaintenance
  split
  · exact ⟨⟨fit.carry rfl rfl rfl id, trivial⟩, rfl⟩
  · exact ⟨⟨fit.carry rfl rfl rfl id, settled, trivial⟩, rfl⟩

theorem Fit.raise {after : RankClient} (fit : Fit client) (settled : Settled client)
    (writer : after.writer = client.writer) (wire : after.wire = client.wire)
    (calls : after.calls = client.calls) : Fit after := by
  refine ⟨?_, ?_⟩
  · intro _
    unfold Settled
    rw [writer, wire]
    exact settled
  · rw [wire, calls]
    exact fit.tested_accepted

theorem accepted_silent (sound : Sound client) (settled : Settled client) :
    Silent client (client.accepted clock purpose) := by
  unfold accepted
  split
  · exact ⟨⟨sound.raise settled rfl rfl rfl, settled⟩, rfl⟩
  · exact ⟨⟨sound.raise settled rfl rfl rfl, settled, trivial⟩, rfl⟩
  · exact ⟨sound, rfl⟩

theorem drained_follows (sound : Sound client) {wait : Wait}
    (placed : Placed client (.waiting purpose wait)) :
    Follows client.wire (client.drained clock purpose wait) := by
  have ready := placed.1
  unfold drained
  split
  · exact Silent.follows ⟨⟨sound.carry rfl rfl rfl id, ready, trivial⟩, rfl⟩
  · exact writeChunks_follows clock sound ready _ _
  · dsimp only
    generalize ({ client.channel.recordResult _ with snapshotHashes := _ } : NodeChannel) = channel
    have kept := sound.channel channel
    have settled : Settled { client with channel } := placed.2
    exact (accepted_silent clock kept settled).follows
  · exact Silent.follows ⟨⟨sound.carry rfl rfl rfl id, ready, trivial⟩, rfl⟩
  · rename_i result operation
    have kept : Fit { client with channel := client.channel.recordResult result, startReceived := true } :=
      sound.carry rfl rfl rfl id
    have settled : Settled { client with
        channel := client.channel.recordResult result, startReceived := true } := ready.settled rfl
    exact (startMaintenance_silent clock kept settled).follows
  · exact Silent.follows ⟨⟨sound.carry rfl rfl rfl id, trivial⟩, rfl⟩
  · exact Silent.follows ⟨⟨sound.carry rfl rfl rfl id, ready, trivial⟩, rfl⟩
  · exact ⟨sound, .inl rfl⟩

theorem drainFailed_follows (sound : Sound client) (ready : Ready client purpose) (wait : Wait)
    (error : Raised) : Follows client.wire (client.drainFailed clock purpose wait error) := by
  have raised := (raise_silent clock sound.toFit ready wait error).follows
  unfold drainFailed
  split <;> first | exact raised | exact ⟨sound, .inl rfl⟩

theorem frame_follows (sound : Sound client) (ready : Ready client purpose) (wait : Wait) (env : Envelope) :
    Follows client.wire (client.frame clock purpose wait env) := by
  unfold frame
  split
  · exact acknowledged_follows clock sound ready env
  · exact commandFrame_follows clock sound ready _ env
  · exact commandFrame_follows clock sound ready _ env
  · exact echoed_follows clock sound ready _ _ env
  · exact ⟨sound, .inl rfl⟩

theorem wake_follows (sound : Sound client) (ready : Ready client purpose) (wait : Wait) :
    Follows client.wire (client.wake clock purpose wait) := by
  unfold wake
  split
  · exact heartbeatRoundTrip_follows clock sound.toFit ready rfl _
  · exact (attempt_silent clock sound.toFit ready _ _).follows
  · exact ⟨sound, .inl rfl⟩

theorem closed_follows (fit : Fit client) (ready : Ready client purpose) (fresh : purpose.relies = false)
    (failure : Option String) : Follows client.wire (client.closed clock purpose failure) := by
  have lost := ready.unestablished fresh
  have dropped : Fit { client with writer := none } := fit.lower rfl rfl lost
  have kept : Ready { client with writer := none } purpose := by
    unfold Ready
    rw [if_neg (by simp [fresh])]
    exact lost
  unfold closed
  split
  · exact Silent.follows ⟨⟨dropped.carry rfl rfl rfl id, kept, fresh⟩, rfl⟩
  · exact (raise_silent clock dropped kept _ _).follows

theorem establish_follows (sound : Sound client) (lost : client.established = false)
    (observations : List ComponentObservation) (receipt : List (String × Json)) :
    Follows client.wire (client.establish clock observations receipt) := by
  unfold establish
  split
  · exact Silent.follows ⟨⟨sound.carry rfl rfl rfl id, trivial⟩, rfl⟩
  · split
    · exact Silent.follows ⟨⟨sound.lower rfl rfl rfl, trivial⟩, rfl⟩
    · rename_i key _
      have ready : Ready client (.establish observations receipt key) := lost
      exact sendSnapshot_follows clock sound ready _ _

theorem expire_follows (sound : Sound client) (ready : Ready client purpose) (wait : Wait) :
    Follows client.wire (client.expire clock purpose wait) := by
  unfold expire
  split
  · exact ⟨sound, .inl rfl⟩
  · exact ⟨sound, .inl rfl⟩
  · exact (raise_silent clock sound.toFit ready wait _).follows

theorem driveStep_follows (sound : Sound client) (event : RankEvent) :
    Follows client.wire (client.driveStep clock event) := by
  have placed := sound.placed
  unfold driveStep
  split <;> rename_i activity <;> try rw [activity] at placed
  · have kept : Fit { client with present := true } := sound.carry rfl rfl rfl id
    have ready : Ready { client with present := true } .connect := placed
    exact (connectAndRegister_silent kept ready rfl).follows
  · exact establish_follows clock sound placed _ _
  · have ready : ∀ operation, Ready client (.pollStart operation) := fun _ => placed
    split
    · exact receiveCommand_follows clock sound (ready _) fun _ => trivial
    · exact ⟨sound, .inl rfl⟩
  · exact expire_follows clock sound placed.1 _
  · exact closed_follows clock sound.toFit placed.1 placed.2 _
  · exact register_follows clock sound.toFit placed.1 placed.2
  · exact (raise_silent clock sound.toFit placed.1 _ _).follows
  · exact drained_follows clock sound placed
  · exact drainFailed_follows clock sound placed.1 _ _
  · exact frame_follows clock sound placed.1 _ _
  · exact readFailed_follows clock sound placed.1 _ _
  · exact wake_follows clock sound placed.1 _
  · exact ⟨sound, .inl rfl⟩

end Drive

section Calls

variable {client : RankClient}

theorem Sound.setCall (sound : Sound client) (call : Nat) {state : Call}
    (tested_accepted : ∀ message tested waiting, state = .scheduled message tested waiting →
      ∃ c, tested = some c ∧ AcceptedOn client.wire c) : Sound (client.setCall call state) := by
  refine ⟨⟨sound.established_settled, ?_⟩, sound.placed⟩
  intro other message tested waiting scheduled
  change (if other = call then state else client.calls other) = _ at scheduled
  split at scheduled
  · exact tested_accepted message tested waiting scheduled
  · exact sound.tested_accepted other message tested waiting scheduled

theorem deliveryFailed_sound (sound : Sound client) (message : Message) (error : Raised) :
    Sound (client.deliveryFailed message error) := by
  cases message <;> exact ⟨sound.carry rfl rfl rfl id, sound.placed⟩

theorem record_sound (sound : Sound client) (message : Message) : Sound (client.record message) := by
  cases message <;> exact ⟨sound.carry rfl rfl rfl id, sound.placed⟩

theorem wire_deliveryFailed (message : Message) (error : Raised) :
    (client.deliveryFailed message error).wire = client.wire := by
  cases message <;> rfl

theorem wire_record (message : Message) : (client.record message).wire = client.wire := by
  cases message <;> rfl

theorem settled_unscheduled (message : Message) (waiting : Bool) (outcome : Except Raised Unit)
    {other : Message} {tested : Option Nat} {still : Bool} :
    settled message waiting outcome ≠ .scheduled other tested still := by
  unfold settled
  split <;> simp

theorem scheduleCall_silent (sound : Sound client) (established : client.established = true) (call : Nat)
    (request : Request) : Silent client (client.scheduleCall call request) := by
  obtain ⟨c, current, accepted⟩ := sound.established_settled established
  cases request with
  | observe request =>
    have kept : Sound { client with seq := client.seq + 1 } := ⟨sound.carry rfl rfl rfl id, sound.placed⟩
    refine ⟨kept.setCall call ?_, rfl⟩
    rintro message tested waiting same
    cases same
    exact ⟨c, current, accepted⟩
  | submitReceipt payload =>
    cases keyed : receiptKey payload with
    | error error =>
      simp only [scheduleCall, keyed]
      have kept : Sound { client with controlFailure := some (.receiptDelivery error) } :=
        ⟨sound.carry rfl rfl rfl id, sound.placed⟩
      refine ⟨kept.setCall call ?_, rfl⟩
      rintro message tested waiting same
      cases same
    | ok key =>
      simp only [scheduleCall, keyed]
      refine ⟨sound.setCall call ?_, rfl⟩
      rintro message tested waiting same
      cases same
      exact ⟨c, current, accepted⟩

/-- A coroutine that starts writes its frame on the writer it finds, unless there is
    none or the frame is refused. -/
theorem callStep_start (sound : Sound client) {call : Nat} {message : Message} {tested : Option Nat}
    {waiting : Bool} (scheduled : client.calls call = .scheduled message tested waiting) :
    Sound (client.callStep (.start call)) ∧
      ((client.callStep (.start call)).wire = client.wire ∧
          (client.writer = none ∨ client.framed message.kind message.payload = false) ∨
        ∃ c, client.writer = some c ∧ client.framed message.kind message.payload = true ∧
          (client.callStep (.start call)).wire =
            client.wire ++ [(c, client.channel.env message.kind message.payload)]) := by
  rcases write_cases client message.kind message.payload with
    ⟨channel, error, refused, why⟩ | ⟨c, current, framed, written⟩
  · simp only [callStep, scheduled, refused]
    refine ⟨(sound.channel channel).setCall call ?_, .inl ⟨rfl, why⟩⟩
    intro other tested still same
    exact absurd same (settled_unscheduled _ _ _)
  · simp only [callStep, scheduled, written]
    refine ⟨?_, .inr ⟨c, current, framed, rfl⟩⟩
    have kept : Sound { client with
        channel := client.channel.nextSeq
        wire := client.wire ++ [(c, client.channel.env message.kind message.payload)] } :=
      ⟨sound.append rfl rfl rfl rfl, sound.placed.append rfl rfl rfl⟩
    refine kept.setCall call ?_
    rintro other tested still same
    cases same

theorem callStep_silent (sound : Sound client) {event : RankEvent}
    (resting : ∀ call message tested waiting, event = .start call →
      client.calls call ≠ .scheduled message tested waiting) : Silent client (client.callStep event) := by
  unfold callStep
  split
  · split
    · refine ⟨sound.setCall _ ?_, rfl⟩
      rintro message tested waiting same
      split at same <;> cases same
    · exact ⟨sound, rfl⟩
  · split
    · split
      · rename_i passed
        exact scheduleCall_silent sound (by simp_all) _ _
      · refine ⟨sound.setCall _ ?_, rfl⟩
        rintro message tested waiting same
        cases same
    · exact ⟨sound, rfl⟩
  · split
    · rename_i scheduled
      exact absurd scheduled (resting _ _ _ _ rfl)
    · exact ⟨sound, rfl⟩
  · split
    · refine ⟨sound.setCall _ ?_, rfl⟩
      intro message tested waiting same
      exact absurd same (settled_unscheduled _ _ _)
    · exact ⟨sound, rfl⟩
  · split
    · rename_i message tested scheduled
      refine ⟨(deliveryFailed_sound sound message _).setCall _ ?_, wire_deliveryFailed message _⟩
      rintro other named still same
      cases same
      rw [wire_deliveryFailed]
      exact sound.tested_accepted _ _ _ _ scheduled
    · rename_i message draining
      refine ⟨(deliveryFailed_sound sound message _).setCall _ ?_, wire_deliveryFailed message _⟩
      rintro other named still same
      cases same
    · exact ⟨sound, rfl⟩
  · split
    · refine ⟨sound.setCall _ ?_, rfl⟩
      rintro message tested waiting same
      cases same
    · refine ⟨sound.setCall _ ?_, rfl⟩
      rintro message tested waiting same
      cases same
    · exact ⟨sound, rfl⟩
  · split
    · rename_i message done
      refine ⟨(record_sound sound message).setCall _ ?_, wire_record message⟩
      rintro other named still same
      cases same
    · rename_i message error done
      refine ⟨(deliveryFailed_sound sound message error).setCall _ ?_, wire_deliveryFailed message error⟩
      rintro other named still same
      cases same
    · exact ⟨sound, rfl⟩
  · exact ⟨sound, rfl⟩

end Calls

/-- The coroutine of a call is about to write on a connection that a reconnect has opened
    since the call was tested, and whose handshake is still between its REGISTER and its
    SNAPSHOT_ACCEPTED result. -/
def Overtaken (client : RankClient) : RankEvent → Prop
  | .start call => ∃ message tested waiting c, client.calls call = .scheduled message tested waiting ∧
      client.writer = some c ∧ tested ≠ some c ∧ RegisteredOn client.wire c ∧ ¬ AcceptedOn client.wire c ∧
      client.framed message.kind message.payload = true
  | _ => False

theorem Overtaken.started {client : RankClient} {event : RankEvent} (overtaken : Overtaken client event) :
    ∃ call message tested waiting, event = .start call ∧
      client.calls call = .scheduled message tested waiting := by
  cases event with
  | start call =>
    obtain ⟨message, tested, waiting, c, scheduled, -⟩ := overtaken
    exact ⟨call, message, tested, waiting, rfl, scheduled⟩
  | _ => exact overtaken.elim

theorem step_sound (client : RankClient) (timed : Time × RankEvent) (sound : Sound client) :
    Sound (client.step timed) := by
  unfold step
  split
  · by_cases started : ∃ call message tested waiting, timed.2 = .start call ∧
        client.calls call = .scheduled message tested waiting
    · obtain ⟨call, message, tested, waiting, same, scheduled⟩ := started
      rw [same]
      exact (callStep_start sound scheduled).1
    · refine (callStep_silent sound ?_).1
      intro call message tested waiting same scheduled
      exact started ⟨call, message, tested, waiting, same, scheduled⟩
  · exact (driveStep_follows timed.1 sound timed.2).1

theorem start_disciplined_iff {client : RankClient} (sound : Sound client)
    (disciplined : Disciplined client.wire) {call : Nat} {message : Message} {tested : Option Nat}
    {waiting : Bool} (scheduled : client.calls call = .scheduled message tested waiting) :
    Disciplined (client.callStep (.start call)).wire ↔ ¬ Overtaken client (.start call) := by
  rcases (callStep_start sound scheduled).2 with ⟨same, why⟩ | ⟨c, current, framed, written⟩
  · rw [same]
    refine iff_of_true disciplined ?_
    rintro ⟨other, tested', waiting', c, scheduled', current, -, -, -, framed⟩
    rw [scheduled] at scheduled'
    cases scheduled'
    rcases why with closed | refused
    · rw [closed] at current
      cases current
    · rw [refused] at framed
      cases framed
  · obtain ⟨on, tested_on, accepted_on⟩ := sound.tested_accepted _ _ _ _ scheduled
    rw [written, Disciplined, guarded_concat]
    constructor
    · rintro ⟨-, last⟩ ⟨other, tested', waiting', d, scheduled', current', -, registered, unaccepted, -⟩
      rw [current] at current'
      cases current'
      exact unaccepted (last (message.traffic client.channel) registered)
    · intro punctual
      refine ⟨disciplined, fun _ registered => ?_⟩
      by_contra unaccepted
      refine punctual ⟨message, tested, waiting, c, scheduled, current, ?_, registered, unaccepted, framed⟩
      rintro rfl
      cases tested_on
      exact unaccepted accepted_on

theorem Follows.disciplined {wire : List (Nat × Envelope)} {after : RankClient} (follows : Follows wire after)
    (disciplined : Disciplined wire) : Disciplined after.wire := by
  rcases follows.2 with same | ⟨sent, written, admitted⟩
  · rwa [same]
  · rw [written, Disciplined, guarded_concat]
    exact ⟨disciplined, fun traffic _ => admitted traffic⟩

theorem step_disciplined_iff (client : RankClient) (timed : Time × RankEvent) (sound : Sound client)
    (disciplined : Disciplined client.wire) :
    Disciplined (client.step timed).wire ↔ ¬ Overtaken client timed.2 := by
  by_cases started : ∃ call message tested waiting, timed.2 = .start call ∧
      client.calls call = .scheduled message tested waiting
  · obtain ⟨call, message, tested, waiting, same, scheduled⟩ := started
    have calls : client.step timed = client.callStep (.start call) := by
      unfold step
      rw [same]
      rfl
    rw [calls, same]
    exact start_disciplined_iff sound disciplined scheduled
  · refine iff_of_true ?_ fun overtaken => started overtaken.started
    unfold step
    split
    · have silent : Silent client (client.callStep timed.2) := by
        refine callStep_silent sound ?_
        intro call message tested waiting same scheduled
        exact started ⟨call, message, tested, waiting, same, scheduled⟩
      exact silent.follows.disciplined disciplined
    · exact (driveStep_follows timed.1 sound timed.2).disciplined disciplined

/-- A run keeps the send discipline in every state exactly if none of its calls is
    overtaken by a reconnect between its test and the start of its coroutine. -/
theorem sends_disciplined_iff (channel : NodeChannel) (pid : Nat) (events : List (Time × RankEvent)) :
    Throughout step (fun client => Disciplined client.wire) { channel, pid } events ↔
      Along step (fun client timed => ¬ Overtaken client timed.2) { channel, pid } events := by
  refine throughout_iff_along_of_invariant step_sound step_disciplined_iff ?_ ?_ events
  · refine ⟨⟨?_, ?_⟩, rfl⟩
    · intro established
      cases established
    · intro call message tested waiting scheduled
      cases scheduled
  · exact guarded_nil

/-- A frame of the head for the lone rank of generation 1. -/
def headFrame (kind : EnvelopeKind) (seq : Int) (payload : List (String × Json)) : RankEvent :=
  .frame { kind, deploymentId := "d", planHash := "p", generation := 1, senderRank := -1
           senderNode := "head", seq, payload }

def loneLimits : List (String × Json) :=
  [("registration_deadline_s", .int 300), ("heartbeat_interval_s", .int 5), ("lease_timeout_s", .int 30),
    ("reconnect_grace_s", .int 60), ("snapshot_assembly_deadline_s", .int 60),
    ("watchdog_cleanup_deadline_s", .int 300), ("max_frame_bytes", .int 1048576),
    ("max_snapshot_chunks", .int 256), ("max_snapshot_bytes", .int 67108864), ("max_snapshot_items", .int 65536)]

def loneReceipt : List (String × Json) :=
  [("component_id", .str "c"), ("instance_id", .str "i"), ("receipt_requirement_id", .str "r")]

/-- Connect, establish and START of the lone rank. -/
def startLone : List (Time × RankEvent) :=
  [(0, .connect), (0, .opened), (0, .drained),
    (0, headFrame .commandResult 1 [("payload_version", .int 1), ("command_id", .str "register"),
      ("operation", .str "REGISTER"), ("ok", .bool true), ("control_limits", .obj loneLimits)]),
    (1, .establish [] loneReceipt), (1, .drained),
    (1, headFrame .command 2 [("payload_version", .int 1), ("command_id", .str "accepted"),
      ("operation", .str "SNAPSHOT_ACCEPTED"), ("snapshot_id", .str "snap-0-e9c9ee65371e"),
      ("complete_set_hash", .str "e9c9ee65371ea1de7acb11e0fb71ba5f857e31caa7989dedc07eb3255d8e7fe4")]),
    (1, .drained), (2, .pollStart .startHead),
    (2, headFrame .command 3 [("payload_version", .int 1), ("command_id", .str "START_HEAD:0"),
      ("operation", .str "START_HEAD")]),
    (2, .drained)]

/-- A receipt is submitted, the heartbeat fails, the reconnect sends its REGISTER, and only
    then does the coroutine of the receipt start. -/
def overtakenSubmit : List (Time × RankEvent) :=
  [(7, .enter 0 (.submitReceipt loneReceipt)), (7, .schedule 0), (7, .wake),
    (7, .drainFailed (.other "ConnectionResetError" "Connection lost")), (7, .closed none), (7, .opened),
    (7, .start 0)]

theorem receipt_sent_before_snapshot_accepted :
    ¬ Disciplined (run step
      { channel := { secret := List.replicate 32 0, deploymentId := "d", planHash := "p", generation := 1
                     rank := 0, nodeId := "n0", limits := {} }
        pid := 1 } (startLone ++ overtakenSubmit)).wire := by
  decide +kernel

end RankClient

end ExaServe.Control
