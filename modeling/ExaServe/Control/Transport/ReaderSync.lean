import ExaServe.Control.Transport.Reader

namespace ExaServe.Control

open Lib Plan

/-- The bytes are a frame that opens to the envelope. -/
def Framed (secret : List UInt8) (maxFrameBytes : Nat) (env : Envelope) (frame : List UInt8) : Prop :=
  ∃ header rest, frame = header ++ rest ∧ header.length = 4 ∧
    frameLength maxFrameBytes header = .ok rest.length ∧ openFrame secret rest = .ok env.canonical

/-- The bytes are the frames of the envelopes, one after the other. -/
def Stream (secret : List UInt8) (maxFrameBytes : Nat) (envelopes : List Envelope) (bytes : List UInt8) :
    Prop :=
  ∃ frames, List.Forall₂ (Framed secret maxFrameBytes) envelopes frames ∧ bytes = frames.flatten

/-- What is still to be consumed, seen from the phase of the pending read. -/
def Pending (secret : List UInt8) (maxFrameBytes : Nat) (phase : ReadPhase) (bytes : List UInt8)
    (later : List Envelope) : Prop :=
  match phase with
  | .body _ length => ∃ env rest frame tail, later = env :: rest ∧ bytes = frame ++ tail ∧
      frame.length = length ∧ openFrame secret frame = .ok env.canonical ∧ Stream secret maxFrameBytes rest tail
  | _ => Stream secret maxFrameBytes later bytes

structure InSync (envelopes : List Envelope) (secret : List UInt8) (maxFrameBytes : Nat) (r : Reader) :
    Prop where
  no_error : r.framingErrors = []
  same_secret : r.channel.secret = secret
  same_limit : r.channel.limits.maxFrameBytes = maxFrameBytes
  position : ∃ read later, envelopes = read ++ later ∧ r.obtained = read.map Envelope.canonical ∧
    Pending secret maxFrameBytes r.phase (r.buffer ++ r.incoming) later

theorem pending_of_stream {secret : List UInt8} {maxFrameBytes : Nat} {phase : ReadPhase} {bytes : List UInt8}
    {later : List Envelope} (outside : phase.inBody = false) (stream : Stream secret maxFrameBytes later bytes) :
    Pending secret maxFrameBytes phase bytes later := by
  cases phase with
  | idle => exact stream
  | header call => exact stream
  | body call length => cases outside

theorem stream_of_pending {secret : List UInt8} {maxFrameBytes : Nat} {phase : ReadPhase} {bytes : List UInt8}
    {later : List Envelope} (outside : phase.inBody = false)
    (pending : Pending secret maxFrameBytes phase bytes later) : Stream secret maxFrameBytes later bytes := by
  cases phase with
  | idle => exact pending
  | header call => exact pending
  | body call length => cases outside

namespace Reader

/-- The call ends, or waits for another header, without touching the stream. -/
structure Untouched (before after : Reader) : Prop where
  buffer : after.buffer = before.buffer
  incoming : after.incoming = before.incoming
  obtained : after.obtained = before.obtained
  framingErrors : after.framingErrors = before.framingErrors
  secret : after.channel.secret = before.channel.secret
  limits : after.channel.limits = before.channel.limits
  outside : after.phase.inBody = false

theorem finish_untouched (r : Reader) (outcome : ReadOutcome) : Untouched r (r.finish outcome) :=
  ⟨rfl, rfl, rfl, rfl, rfl, rfl, rfl⟩

theorem Untouched.of_channel {r after : Reader} {channel : NodeChannel}
    (secret : channel.secret = r.channel.secret) (limits : channel.limits = r.channel.limits)
    (rest : Untouched { r with channel } after) : Untouched r after :=
  ⟨rest.buffer, rest.incoming, rest.obtained, rest.framingErrors, rest.secret.trans secret,
    rest.limits.trans limits, rest.outside⟩

theorem rememberReceivedCommand_settings {channel after : NodeChannel} {command received : Command}
    (kept : channel.rememberReceivedCommand command = .ok (after, received)) :
    after.secret = channel.secret ∧ after.limits = channel.limits := by
  unfold NodeChannel.rememberReceivedCommand at kept
  split at kept
  · split at kept <;> cases kept
    exact ⟨rfl, rfl⟩
  · split at kept <;> cases kept
    exact ⟨rfl, rfl⟩

theorem remembered_untouched (r : Reader) (command : Command) : Untouched r (r.remembered command) := by
  unfold remembered
  split
  · exact finish_untouched _ _
  · rename_i channel received kept
    have same := rememberReceivedCommand_settings kept
    exact .of_channel same.1 same.2 (finish_untouched _ _)

theorem takeCommand_untouched (r : Reader) (env : Envelope) : Untouched r (r.takeCommand env) := by
  unfold takeCommand NodeChannel.takeCommand
  split
  · exact finish_untouched _ _
  · rename_i channel received taken
    have same : channel.secret = r.channel.secret ∧ channel.limits = r.channel.limits := by
      split at taken
      · cases taken
      · split at taken
        · cases taken
        · exact rememberReceivedCommand_settings taken
    exact .of_channel same.1 same.2 (finish_untouched _ _)

theorem takeHeartbeat_untouched (r : Reader) (heartbeatId : String) (expired : Bool) (env : Envelope) :
    Untouched r (r.takeHeartbeat heartbeatId expired env) := by
  unfold takeHeartbeat NodeChannel.takeHeartbeat NodeChannel.queueHeadCommand
  split
  · exact finish_untouched _ _
  · exact finish_untouched _ _
  · rename_i channel taken
    have same : channel.secret = r.channel.secret ∧ channel.limits = r.channel.limits := by
      split at taken
      · split at taken
        · cases taken
        · rename_i queued accepted
          cases taken
          split at accepted
          · cases accepted
          · split at accepted <;> cases accepted
            exact ⟨rfl, rfl⟩
      · split at taken <;> cases taken
    split
    · exact .of_channel same.1 same.2 (finish_untouched _ _)
    · exact ⟨rfl, rfl, rfl, rfl, same.1, same.2, rfl⟩

theorem deliver_untouched (r : Reader) (call : ReadCall) (expired : Bool) (env : Envelope) :
    Untouched r (r.deliver call expired env) := by
  unfold deliver NodeChannel.validateHeadEnvelope
  split
  · exact finish_untouched _ _
  · rename_i channel accepted
    have same : channel.secret = r.channel.secret ∧ channel.limits = r.channel.limits := by
      split at accepted
      · cases accepted
      · split at accepted <;> cases accepted
        exact ⟨rfl, rfl⟩
    cases call with
    | receiveCommand => exact .of_channel same.1 same.2 (takeCommand_untouched _ _)
    | heartbeatRoundTrip heartbeatId => exact .of_channel same.1 same.2 (takeHeartbeat_untouched _ _ _ _)

theorem callReceiveCommand_untouched (r : Reader) : Untouched r r.callReceiveCommand := by
  unfold callReceiveCommand
  split
  · rename_i command rest _
    have after := remembered_untouched
      { r with channel := { r.channel with pendingHeadCommands := rest } } command
    exact ⟨after.buffer, after.incoming, after.obtained, after.framingErrors, after.secret, after.limits,
      after.outside⟩
  · exact ⟨rfl, rfl, rfl, rfl, rfl, rfl, rfl⟩

theorem callHeartbeat_untouched (r : Reader) (socket : Socket) : Untouched r (r.callHeartbeat socket) := by
  have same : ∀ (channel : NodeChannel) kind payload,
      (channel.write socket kind payload).1.secret = channel.secret ∧
        (channel.write socket kind payload).1.limits = channel.limits := by
    intro channel kind payload
    unfold NodeChannel.write
    split
    · exact ⟨rfl, rfl⟩
    · split <;> exact ⟨rfl, rfl⟩
    · split <;> exact ⟨rfl, rfl⟩
  unfold callHeartbeat
  dsimp only
  generalize counted : ({ r.channel with heartbeatCounter := r.channel.heartbeatCounter + 1 } : NodeChannel) = channel
  generalize [("payload_version", Json.int 1), _] = payload
  have kept := same channel .heartbeat payload
  rw [show channel.secret = r.channel.secret by rw [← counted],
    show channel.limits = r.channel.limits by rw [← counted]] at kept
  generalize channel.write socket .heartbeat payload = result at kept
  obtain ⟨channel, written, ending⟩ := result
  cases ending with
  | error error => exact .of_channel kept.1 kept.2 (finish_untouched _ _)
  | ok sent => exact ⟨rfl, rfl, rfl, rfl, kept.1, kept.2, rfl⟩

end Reader

namespace InSync

variable {envelopes : List Envelope} {secret : List UInt8} {maxFrameBytes : Nat} {r after : Reader}

theorem untouched (sync : InSync envelopes secret maxFrameBytes r) (outside : r.phase.inBody = false)
    (same : Reader.Untouched r after) : InSync envelopes secret maxFrameBytes after := by
  obtain ⟨read, later, split_here, obtained, pending⟩ := sync.position
  refine ⟨same.framingErrors.trans sync.no_error, same.secret.trans sync.same_secret,
    (congrArg DefaultLimits.maxFrameBytes same.limits).trans sync.same_limit,
    read, later, split_here, same.obtained.trans obtained, ?_⟩
  rw [same.buffer, same.incoming]
  exact pending_of_stream same.outside (stream_of_pending outside pending)

theorem readBody {call : ReadCall} {length : Nat} (sync : InSync envelopes secret maxFrameBytes r)
    (here : r.phase = .body call length) (expired : Bool) :
    InSync envelopes secret maxFrameBytes (r.readBody call length expired) := by
  obtain ⟨read, later, split_here, obtained, pending⟩ := sync.position
  rw [here] at pending
  obtain ⟨env, rest, frame, tail, rfl, bytes, width, opened, stream⟩ := pending
  unfold Reader.readBody
  by_cases short : r.buffer.length < length
  · rw [if_pos short]
    exact ⟨sync.no_error, sync.same_secret, sync.same_limit, read, env :: rest, split_here, obtained,
      env, rest, frame, tail, rfl, bytes, width, opened, stream⟩
  · rw [if_neg short]
    have long : length ≤ r.buffer.length := not_lt.mp short
    have taken : r.buffer.take length = frame := by
      rw [← List.take_append_of_le_length long, bytes, List.take_left' width]
    have dropped : r.buffer.drop length ++ r.incoming = tail := by
      rw [← List.drop_append_of_le_length long, bytes, List.drop_left' width]
    rw [taken, sync.same_secret, opened]
    have same := Reader.deliver_untouched
      { r with buffer := r.buffer.drop length, obtained := r.obtained ++ [env.canonical] } call expired env.canonical
    refine ⟨same.framingErrors.trans sync.no_error, same.secret.trans sync.same_secret,
      (congrArg DefaultLimits.maxFrameBytes same.limits).trans sync.same_limit,
      read ++ [env], rest, by simp [split_here], ?_, ?_⟩
    · rw [same.obtained, obtained]
      simp
    · rw [same.buffer, same.incoming]
      exact pending_of_stream same.outside (dropped ▸ stream)

theorem readHeader {call : ReadCall} (sync : InSync envelopes secret maxFrameBytes r)
    (here : r.phase = .header call) (expired : Bool) :
    InSync envelopes secret maxFrameBytes (r.readHeader call expired) := by
  unfold Reader.readHeader
  by_cases short : r.buffer.length < 4
  · rw [if_pos short]
    exact sync
  · rw [if_neg short]
    obtain ⟨read, later, split_here, obtained, pending⟩ := sync.position
    rw [here] at pending
    obtain ⟨frames, framed, bytes⟩ := pending
    have long : 4 ≤ r.buffer.length := not_lt.mp short
    cases framed with
    | nil =>
      have empty := congrArg List.length bytes
      rw [List.length_append, List.flatten_nil, List.length_nil] at empty
      omega
    | @cons env frame rest frames head framed =>
      obtain ⟨header, body, rfl, width, announced, opened⟩ := head
      rw [List.flatten_cons, List.append_assoc] at bytes
      have taken : r.buffer.take 4 = header := by
        rw [← List.take_append_of_le_length long, bytes, List.take_left' width]
      have dropped : r.buffer.drop 4 ++ r.incoming = body ++ frames.flatten := by
        rw [← List.drop_append_of_le_length long, bytes, List.drop_left' width]
      rw [taken, sync.same_limit, announced]
      dsimp only
      have inside : InSync envelopes secret maxFrameBytes
          { r with buffer := r.buffer.drop 4, phase := .body call body.length } :=
        ⟨sync.no_error, sync.same_secret, sync.same_limit, read, env :: rest, split_here, obtained,
          env, rest, body, frames.flatten, rfl, dropped, rfl, opened, frames, framed, rfl⟩
      exact inside.readBody rfl expired

/-- Every event but a timeout inside a frame keeps the reader at the right byte. -/
theorem step (sync : InSync envelopes secret maxFrameBytes r) (event : ReadEvent)
    (timely : event = .timeout → r.phase.inBody = false) :
    InSync envelopes secret maxFrameBytes (r.step event) := by
  cases event with
  | arrive count =>
    obtain ⟨read, later, split_here, obtained, pending⟩ := sync.position
    refine ⟨sync.no_error, sync.same_secret, sync.same_limit, read, later, split_here, obtained, ?_⟩
    simpa [Reader.step, List.append_assoc] using pending
  | receiveCommand =>
    unfold Reader.step
    cases here : r.phase with
    | idle => exact sync.untouched (by rw [here]; rfl) r.callReceiveCommand_untouched
    | header call => exact sync
    | body call length => exact sync
  | heartbeatRoundTrip socket =>
    unfold Reader.step
    cases here : r.phase with
    | idle => exact sync.untouched (by rw [here]; rfl) (r.callHeartbeat_untouched socket)
    | header call => exact sync
    | body call length => exact sync
  | resume expired =>
    unfold Reader.step
    cases here : r.phase with
    | idle => exact sync
    | header call => exact sync.readHeader here expired
    | body call length => exact sync.readBody here expired
  | timeout =>
    have outside := timely rfl
    change InSync envelopes secret maxFrameBytes r.callTimeout
    unfold Reader.callTimeout
    split
    · exact sync
    · exact sync.untouched outside (Reader.finish_untouched _ _)
    · exact sync.untouched outside (Reader.finish_untouched _ _)
    · exact sync.untouched outside (Reader.finish_untouched _ _)

end InSync

namespace Reader

/-- The condition under which a step cannot lose a header. -/
def Timely (r : Reader) (event : ReadEvent) : Prop := event = .timeout → r.phase.inBody = false

instance (r : Reader) (event : ReadEvent) : Decidable (Timely r event) :=
  inferInstanceAs (Decidable (event = .timeout → r.phase.inBody = false))

/-- As long as no timeout fires between a header and its frame, the reader obtains
    the written envelopes in order and no read raises a framing error. -/
theorem timely_reads_keep_order (channel : NodeChannel) (envelopes : List Envelope)
    (frames : List (List UInt8))
    (unique : ∀ env ∈ envelopes, Json.wellKeyed (.obj env.payload) = true)
    (written : List.Forall₂ (fun env frame =>
      writeFrame channel.secret channel.limits.maxFrameBytes env = .ok frame) envelopes frames)
    (events : List ReadEvent)
    (timely : Along step Timely { channel, incoming := frames.flatten } events) :
    Throughout step (fun r => r.obtained <+: envelopes.map Envelope.canonical ∧ r.framingErrors = [])
      { channel, incoming := frames.flatten } events := by
  have framed : List.Forall₂ (Framed channel.secret channel.limits.maxFrameBytes) envelopes frames := by
    rw [List.forall₂_iff_get] at written ⊢
    refine ⟨written.1, ?_⟩
    intro i inside bounded
    exact writeFrame_opens (unique _ (List.get_mem _ _)) (written.2 i inside bounded)
  have start : InSync envelopes channel.secret channel.limits.maxFrameBytes
      { channel, incoming := frames.flatten } :=
    ⟨rfl, rfl, rfl, [], envelopes, rfl, rfl, frames, framed, rfl⟩
  have preserved : ∀ r event, Timely r event →
      InSync envelopes channel.secret channel.limits.maxFrameBytes r →
      InSync envelopes channel.secret channel.limits.maxFrameBytes (step r event) :=
    fun r event timely sync => sync.step event timely
  have always := throughout_of_along preserved start timely
  intro taken within
  have sync := always taken within
  obtain ⟨read, later, split_here, obtained, _⟩ := sync.position
  refine ⟨?_, sync.no_error⟩
  rw [obtained, split_here, List.map_append]
  exact List.prefix_append _ _

def rankZero : NodeChannel :=
  { secret := List.replicate 32 0, deploymentId := "d", planHash := "p", generation := 1, rank := 0
    nodeId := "n0", limits := {} }

def headHeartbeat : Envelope :=
  { kind := .heartbeat, deploymentId := "d", planHash := "p", generation := 1, senderRank := -1
    senderNode := "head", seq := 1
    payload := [("payload_version", .int 1), ("heartbeat_id", .str "0:1")] }

def heartbeatFrame : List UInt8 :=
  (writeFrame rankZero.secret rankZero.limits.maxFrameBytes headHeartbeat).toOption.getD []

theorem heartbeatFrame_written :
    writeFrame rankZero.secret rankZero.limits.maxFrameBytes headHeartbeat = .ok heartbeatFrame := by
  have passed : (writeFrame rankZero.secret rankZero.limits.maxFrameBytes headHeartbeat).isOk = true := by
    decide +kernel
  unfold heartbeatFrame
  cases result : writeFrame rankZero.secret rankZero.limits.maxFrameBytes headHeartbeat with
  | error error =>
    rw [result] at passed
    cases passed
  | ok frame => rfl

/-- A poll that times out before the header is complete, then a heartbeat. -/
def earlyTimeout : List ReadEvent :=
  [.receiveCommand, .arrive 3, .resume false, .timeout, .heartbeatRoundTrip .ready, .arrive 1000,
    .resume false]

theorem early_timeout_keeps_sync :
    Throughout step (fun r => r.obtained <+: [headHeartbeat].map Envelope.canonical ∧ r.framingErrors = [])
        { channel := rankZero, incoming := [heartbeatFrame].flatten } earlyTimeout ∧
      (run step { channel := rankZero, incoming := [heartbeatFrame].flatten } earlyTimeout).obtained.length = 1 :=
  ⟨timely_reads_keep_order rankZero [headHeartbeat] [heartbeatFrame] (by decide)
      (.cons heartbeatFrame_written .nil) earlyTimeout (by decide +kernel),
    by decide +kernel⟩

/-- The same poll, timed out after the header was consumed. -/
def lateTimeout : List ReadEvent :=
  [.receiveCommand, .arrive 4, .resume false, .timeout, .receiveCommand, .arrive 1000, .resume false]

theorem late_timeout_raises_oversized :
    writeFrame rankZero.secret rankZero.limits.maxFrameBytes headHeartbeat = .ok heartbeatFrame ∧
      (run step { channel := rankZero, incoming := [heartbeatFrame].flatten } lateTimeout).framingErrors =
        [rejected .oversized] :=
  ⟨heartbeatFrame_written, by decide +kernel⟩

end Reader

end ExaServe.Control
