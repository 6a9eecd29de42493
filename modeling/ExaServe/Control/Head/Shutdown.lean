import ExaServe.Control.Head.Channel
import ExaServe.Control.Transport.GoodbyeRecords

namespace ExaServe.Control

open Lib Plan

/-- The operations `broadcast_shutdown` supports. -/
inductive ShutdownOperation where
  | drain | stop
  deriving DecidableEq

namespace ShutdownOperation

def operation : ShutdownOperation → Operation
  | drain => .drain
  | stop => .stop

def value (asked : ShutdownOperation) : String := asked.operation.value

def commandId (asked : ShutdownOperation) (rank : Int) : String := s!"{asked.value}:{rank}"

/-- A result that acknowledges the operation. -/
def acknowledges (asked : ShutdownOperation) (result : CommandResult) : Bool :=
  result.operation = asked.operation && result.status = "SUCCEEDED" && result.ok

end ShutdownOperation

/-- Where the head's thread stands between the call of `broadcast_shutdown` and the
    return of `wait_shutdown_goodbyes`. `accounting` holds the results that are
    still to be looked at; `requested` when the first one's drain is on record. -/
inductive ShutdownPhase where
  | idle
  | sending (rest : List Int)
  | delivering (rank : Int) (rest : List Int)
  | waiting
  | accounting (requested : Bool) (rest : List (Int × Option CommandResult)) (acknowledged : Nat)
      (acknowledgedRanks : List Int)
  | returned
  | finished

/-- What `broadcast_shutdown` returned and left behind, beside the ranks whose
    acknowledgement the listener had accepted in time. -/
structure ShutdownReport where
  returned : Nat
  acknowledged : List Int
  drained : List Int
  accepted : List Int

/-- What `wait_shutdown_goodbyes` returned, beside every rank that had said GOODBYE. -/
structure GoodbyeReport where
  returned : Nat
  said : List Int

/-- The head and its shutdown; `sent` is the delivery set of the broadcast and
    `undelivered` the ranks its COMMAND was not written to, `expired` the ranks that
    had answered when the deadline passed, `goodbyes` whoever said GOODBYE. -/
structure Shutdown where
  head : Head
  phase : ShutdownPhase := .idle
  acknowledgedRanks : List Int := []
  sent : List Int := []
  undelivered : List Int := []
  expired : Option (List Int) := none
  goodbyes : List Int := []
  report : Option ShutdownReport := none
  goodbyeReport : Option GoodbyeReport := none

inductive ShutdownEvent where
  | loop (clock : Time) (event : HeadEvent HeadAction)
  | begin
  | visit
  | delivered (ok : Bool)
  | raised (error : Raised)
  | expire
  | collect
  | account
  | poll

namespace Shutdown

variable (config : HeadConfig) (asked : ShutdownOperation)

def create : Shutdown := { head := Head.create config }

/-- The listener accepted the rank's acknowledgement of its command. -/
def answered (head : Head) (rank : Int) : Bool :=
  (head.commandResults.get? (asked.commandId rank)).any fun record =>
    record.1 = rank && asked.acknowledges record.2

def answeredRanks (head : Head) : List Int :=
  (Listener.plannedRanks config.listener).filter (answered asked head)

/-- The ranks whose acknowledgement was accepted before the deadline. -/
def accepted (s : Shutdown) : List Int := s.expired.getD (answeredRanks config asked s.head)

def addFailure (s : Shutdown) (failure : String) : Shutdown :=
  { s with head := { s.head with owner := s.head.owner.addFailure failure } }

/-- `wait_command_results`: what is on record for each rank of the delivery set. -/
def results (head : Head) (sent : List Int) : List (Int × Option CommandResult) :=
  sent.map fun rank => (rank, (head.commandResults.get? (asked.commandId rank)).map Prod.snd)

def noResults (sent : List Int) : List (Int × Option CommandResult) := sent.map fun rank => (rank, none)

def giveReport (s : Shutdown) (returned : Nat) : Shutdown :=
  { s with
    phase := .returned
    report := some
      { returned, acknowledged := s.acknowledgedRanks
        drained := s.head.owner.coordinator.drainRequested, accepted := s.accepted config asked } }

/-- The handler of `broadcast_shutdown`: whatever was raised, nobody is counted. -/
def abandon (s : Shutdown) (error : Raised) : Shutdown :=
  (s.addFailure s!"{asked.value} broadcast failed: {error.described}").giveReport config asked 0

def begin (s : Shutdown) : Shutdown :=
  match s.expired with
  | some _ => (s.addFailure s!"{asked.value} broadcast cleanup deadline exhausted").giveReport config asked 0
  | none => { s with phase := .sending (Listener.plannedRanks config.listener) }

/-- `broadcast_command_targets`: one rank of its loop, up to the drain of the write. -/
def visit (s : Shutdown) : List Int → Shutdown
  | [] =>
    if s.expired.isSome || s.sent.isEmpty then { s with phase := .accounting false (noResults s.sent) 0 [] }
    else { s with phase := .waiting }
  | rank :: rest =>
    if !s.head.isEstablished rank then { s with phase := .sending rest }
    else match s.head.sendCommand config.listener rank (asked.commandId rank) asked.value [] with
      | (head, .error error) => { s with head }.abandon config asked error
      | (head, .ok false) => { s with head, undelivered := s.undelivered ++ [rank], phase := .sending rest }
      | (head, .ok true) => { s with head, phase := .delivering rank rest }

def delivered (s : Shutdown) (rank : Int) (rest : List Int) (ok : Bool) : Shutdown :=
  if ok then { s with sent := s.sent ++ [rank], phase := .sending rest }
  else { s with undelivered := s.undelivered ++ [rank], phase := .sending rest }

/-- `wait_command_results` is over: all have answered or the deadline has passed. -/
def collect (s : Shutdown) : Shutdown :=
  { s with phase := .accounting false (results asked s.head s.sent) 0 [] }

def allAnswered (s : Shutdown) : Bool :=
  s.sent.all fun rank => (s.head.commandResults.get? (asked.commandId rank)).isSome

def finishAccounting (s : Shutdown) (acknowledged : Nat) (acknowledgedRanks : List Int) : Shutdown :=
  let recorded := { s with acknowledgedRanks }
  if acknowledged ≠ s.sent.length then
    (recorded.addFailure s!"{asked.value} acknowledged by {acknowledged}/{s.sent.length} reachable ranks").giveReport
      config asked acknowledged
  else recorded.giveReport config asked acknowledged

def requestDrain (s : Shutdown) (rank : Int) : Shutdown :=
  { s with head := { s.head with owner := { s.head.owner with
      coordinator := s.head.owner.coordinator.requestDrain rank } } }

/-- One turn of the accounting loop: the drain request, then the authority to leave. -/
def account (s : Shutdown) (requested : Bool) (rest : List (Int × Option CommandResult)) (acknowledged : Nat)
    (acknowledgedRanks : List Int) : Shutdown :=
  match requested, rest with
  | false, [] => s.finishAccounting config asked acknowledged acknowledgedRanks
  | false, (rank, result) :: others =>
    if result.any asked.acknowledges then
      { s.requestDrain rank with phase := .accounting true rest acknowledged acknowledgedRanks }
    else
      { s.addFailure s!"rank {rank} returned an invalid {asked.value} result" with
        phase := .accounting false others acknowledged acknowledgedRanks }
  | true, (rank, _) :: others =>
    match s.head.expectGoodbye rank with
    | .error error => s.abandon config asked error
    | .ok head =>
      { s with head, phase := .accounting false others (acknowledged + 1) (acknowledgedRanks ++ [rank]) }
  | true, [] => s

/-- One round of `wait_shutdown_goodbyes`, or its last count once the deadline has passed. -/
def poll (s : Shutdown) : Shutdown :=
  let received := s.acknowledgedRanks.filter (s.head.receivedGoodbyes.contains ·)
  let finish := fun (after : Shutdown) (returned : Nat) =>
    { after with phase := .finished, goodbyeReport := some { returned, said := s.goodbyes } }
  match s.expired with
  | none =>
    if s.acknowledgedRanks.all (s.head.receivedGoodbyes.contains ·) then finish s s.acknowledgedRanks.length else s
  | some _ =>
    if received.length ≠ s.acknowledgedRanks.length then
      finish (s.addFailure
        s!"GOODBYE received from {received.length}/{s.acknowledgedRanks.length} DRAIN-acknowledging ranks")
        received.length
    else finish s received.length

def startOperations : List String := [Operation.start.value, Operation.startHead.value, Operation.startWorker.value]

/-- What only the shutdown's own thread does to the listener and the coordinator. -/
def own : HeadEvent HeadAction → Bool
  | .expectGoodbye _ => true
  | .broadcastCommand _ _ _ _ => true
  | .sendCommand _ _ operation _ => !startOperations.contains operation
  | .act (.requestDrain _) => true
  | _ => false

def loop (s : Shutdown) (clock : Time) (event : HeadEvent HeadAction) : Shutdown :=
  let head := Head.step config s.head (clock, event)
  { s with head, goodbyes := s.goodbyes ∪ head.receivedGoodbyes }

/-- The deadline passes; a wait for results ends with what there is. -/
def expire (s : Shutdown) : Shutdown :=
  let late := { s with expired := some (s.accepted config asked) }
  match s.phase with
  | .waiting => late.collect asked
  | _ => late

/-- One step of the listener's loop or of the head's thread; a step that the phase
    does not have changes nothing. -/
def step (s : Shutdown) : ShutdownEvent → Shutdown
  | .loop clock event => if own event then s else s.loop config clock event
  | .begin => match s.phase with
    | .idle => s.begin config asked
    | _ => s
  | .visit => match s.phase with
    | .sending rest => s.visit config asked rest
    | _ => s
  | .delivered ok => match s.phase with
    | .delivering rank rest => s.delivered rank rest ok
    | _ => s
  | .raised error => match s.phase with
    | .sending _ => s.abandon config asked error
    | .delivering rank _ => { s with undelivered := s.undelivered ++ [rank] }.abandon config asked error
    | .waiting => s.abandon config asked error
    | _ => s
  | .expire => if s.expired.isSome then s else s.expire config asked
  | .collect => match s.phase with
    | .waiting => if s.allAnswered asked then s.collect asked else s
    | _ => s
  | .account => match s.phase with
    | .accounting requested rest acknowledged acknowledgedRanks =>
      s.account config asked requested rest acknowledged acknowledgedRanks
    | _ => s
  | .poll => match s.phase with
    | .returned => s.poll
    | _ => s

/-- The broadcast's count, its acknowledged ranks and the drain set are those of the
    ranks whose acknowledgement was accepted in time, and the number of goodbyes
    that of those among them who said GOODBYE. -/
structure Accounted (s : Shutdown) : Prop where
  counted : ∀ report, s.report = some report → report.returned = report.accepted.length ∧
    (∀ rank, rank ∈ report.acknowledged ↔ rank ∈ report.accepted) ∧
      ∀ rank, rank ∈ report.drained ↔ rank ∈ report.accepted
  parted : ∀ report goodbyes, s.report = some report → s.goodbyeReport = some goodbyes →
    goodbyes.returned = (report.accepted.filter (goodbyes.said.contains ·)).length

/-- The rank may leave: its session expects the GOODBYE, or is established and the
    GOODBYE has not been received yet. -/
def mayLeave (head : Head) (rank : Int) : Bool :=
  ((head.current rank).any SessionInfo.expectedGoodbye) ||
    head.awaitsAuthority rank && !head.receivedGoodbyes.contains rank

/-- The step finds no rank that came back before it was accounted for, ends the
    broadcast early only while nobody has answered, and closes the accounts only when
    no rank has answered a command whose write failed. -/
def Meets (s : Shutdown) : ShutdownEvent → Prop
  | .loop _ event => own event = true ∨ ∀ rank ∈ s.head.receivedGoodbyes, s.head.reauthorizes event rank = false
  | .visit => match s.phase with
    | .sending [] => s.expired.isSome = true → s.accepted config asked = []
    | .sending (rank :: _) => s.head.isEstablished rank = true →
        (s.head.sendCommand config.listener rank (asked.commandId rank) asked.value []).2.isOk = true ∨
          s.accepted config asked = []
    | _ => True
  | .raised _ => match s.phase with
    | .sending _ => s.accepted config asked = []
    | .delivering _ _ => s.accepted config asked = []
    | .waiting => s.accepted config asked = []
    | _ => True
  | .account => match s.phase with
    | .accounting true ((rank, _) :: _) _ _ => mayLeave s.head rank = true
    | .accounting false [] _ _ => ∀ rank ∈ s.undelivered, rank ∉ s.accepted config asked
    | _ => True
  | _ => True

instance (s : Shutdown) (event : ShutdownEvent) : Decidable (s.Meets config asked event) := by
  unfold Meets
  split
  · infer_instance
  · split <;> infer_instance
  · split <;> infer_instance
  · split <;> infer_instance
  · infer_instance

end Shutdown

end ExaServe.Control
