import ExaServe.Lib.Run
import ExaServe.Control.Transport.FrameRoundTrip
import ExaServe.Control.Transport.NodeChannel

namespace ExaServe.Control

open Lib Plan

/-- The call that is waiting for an envelope of the head. -/
inductive ReadCall where
  | receiveCommand
  | heartbeatRoundTrip (heartbeatId : String)

/-- Where `read_frame` stands: waiting for the header, or for the rest of a frame
    whose header is already consumed. -/
inductive ReadPhase where
  | idle
  | header (call : ReadCall)
  | body (call : ReadCall) (length : Nat)

def ReadPhase.inBody : ReadPhase → Bool
  | .body _ _ => true
  | _ => false

inductive ReadOutcome where
  | command (received : Option Command)
  | alive (answered : Bool)
  | raised (error : Raised)

structure Reader where
  channel : NodeChannel
  incoming : List UInt8
  buffer : List UInt8 := []
  phase : ReadPhase := .idle
  obtained : List Envelope := []
  framingErrors : List Raised := []
  outcomes : List ReadOutcome := []

inductive ReadEvent where
  | arrive (count : Nat)
  | receiveCommand
  | heartbeatRoundTrip (socket : Socket)
  | resume (expired : Bool)
  | timeout
  deriving DecidableEq

namespace Reader

def finish (r : Reader) (outcome : ReadOutcome) : Reader :=
  { r with phase := .idle, outcomes := r.outcomes ++ [outcome] }

def remembered (r : Reader) (command : Command) : Reader :=
  match r.channel.rememberReceivedCommand command with
  | .error error => r.finish (.raised error)
  | .ok (channel, received) => { r with channel }.finish (.command (some received))

def takeCommand (r : Reader) (env : Envelope) : Reader :=
  match r.channel.takeCommand env with
  | .error error => r.finish (.raised error)
  | .ok (channel, received) => { r with channel }.finish (.command (some received))

/-- One round of the heartbeat loop; `expired` is what its deadline test finds
    when it goes round again. -/
def takeHeartbeat (r : Reader) (heartbeatId : String) (expired : Bool) (env : Envelope) : Reader :=
  match r.channel.takeHeartbeat heartbeatId env with
  | .error error => r.finish (.raised error)
  | .ok none => r.finish (.alive true)
  | .ok (some channel) =>
    if expired then { r with channel }.finish (.alive false)
    else { r with channel, phase := .header (.heartbeatRoundTrip heartbeatId) }

/-- `_read_head_envelope` and its caller after `read_frame` has returned. -/
def deliver (r : Reader) (call : ReadCall) (expired : Bool) (env : Envelope) : Reader :=
  match r.channel.validateHeadEnvelope env with
  | .error error => r.finish (.raised error)
  | .ok channel =>
    match call with
    | .receiveCommand => { r with channel }.takeCommand env
    | .heartbeatRoundTrip heartbeatId => { r with channel }.takeHeartbeat heartbeatId expired env

def refuse (r : Reader) (error : Raised) : Reader :=
  { r with framingErrors := r.framingErrors ++ [error] }.finish (.raised error)

/-- The second `readexactly` of `read_frame`: nothing is taken before all is there. -/
def readBody (r : Reader) (call : ReadCall) (length : Nat) (expired : Bool) : Reader :=
  if r.buffer.length < length then { r with phase := .body call length }
  else
    let taken := { r with buffer := r.buffer.drop length }
    match openFrame r.channel.secret (r.buffer.take length) with
    | .error error => taken.refuse error
    | .ok env => { taken with obtained := r.obtained ++ [env] }.deliver call expired env

/-- The first `readexactly`, which goes on to the second without a pause. -/
def readHeader (r : Reader) (call : ReadCall) (expired : Bool) : Reader :=
  if r.buffer.length < 4 then r
  else
    let taken := { r with buffer := r.buffer.drop 4 }
    match frameLength r.channel.limits.maxFrameBytes (r.buffer.take 4) with
    | .error error => taken.refuse error
    | .ok length => taken.readBody call length expired

def callReceiveCommand (r : Reader) : Reader :=
  match r.channel.pendingHeadCommands with
  | command :: rest => { r with channel := { r.channel with pendingHeadCommands := rest } }.remembered command
  | [] => { r with phase := .header .receiveCommand }

def callHeartbeat (r : Reader) (socket : Socket) : Reader :=
  let counter := r.channel.heartbeatCounter + 1
  let heartbeatId := s!"{r.channel.rank}:{counter}"
  match { r.channel with heartbeatCounter := counter }.write socket .heartbeat
      [("payload_version", .int 1), ("heartbeat_id", .str heartbeatId)] with
  | (channel, _, .error error) => { r with channel }.finish (.raised error)
  | (channel, _, .ok ()) => { r with channel, phase := .header (.heartbeatRoundTrip heartbeatId) }

/-- The timer of `wait_for` fires: the pending read is cancelled where it stands,
    and with it what it had consumed. -/
def callTimeout (r : Reader) : Reader :=
  match r.phase with
  | .idle => r
  | .header .receiveCommand => r.finish (.command none)
  | .body .receiveCommand _ => r.finish (.command none)
  | _ => r.finish (.raised (.other "TimeoutError" ""))

def step (r : Reader) : ReadEvent → Reader
  | .arrive count => { r with buffer := r.buffer ++ r.incoming.take count, incoming := r.incoming.drop count }
  | .receiveCommand =>
    match r.phase with
    | .idle => r.callReceiveCommand
    | _ => r
  | .heartbeatRoundTrip socket =>
    match r.phase with
    | .idle => r.callHeartbeat socket
    | _ => r
  | .resume expired =>
    match r.phase with
    | .idle => r
    | .header call => r.readHeader call expired
    | .body call length => r.readBody call length expired
  | .timeout => r.callTimeout

end Reader

end ExaServe.Control
