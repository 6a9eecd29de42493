import ExaServe.Control.Supervision.Supervisor
import ExaServe.State.Status
import Mathlib.Data.Fintype.Card

namespace ExaServe.Composition

open Lib Plan Control Supervision State.Status

inductive ExceptionClass where
  | osError | runtimeError | valueError | typeError | statusConflict | publicationError
  deriving DecidableEq

def publicationError (message : String) : Raised := .other "StatusPublicationError" message

/-- The classes an exception is an instance of. -/
structure Exceptions where
  isInstance : Raised → ExceptionClass → Bool
  publication : ∀ text, isInstance (publicationError text) .publicationError = true

namespace Exceptions

def caught (exceptions : Exceptions) (handled : List ExceptionClass) (raised : Raised) : Bool :=
  handled.any fun kind => exceptions.isInstance raised kind

end Exceptions

/-- What the store does with a transition it is asked for: it is on disk, or it is refused,
    or it is on disk and something after it raises. -/
inductive Commit where
  | stored
  | refused (raised : Raised)
  | uncertain (raised : Raised)
  deriving DecidableEq

/-- The publisher's own state, the one on disk and those it put there. -/
structure DeploymentStatusPublisher where
  initialized : Bool := true
  state : DeploymentState
  stored : DeploymentState
  published : List DeploymentState := []

/-- `advance` to a state that is not READY. -/
def DeploymentStatusPublisher.advance (exceptions : Exceptions) (publisher : DeploymentStatusPublisher)
    (new : DeploymentState) (commit : Commit) : DeploymentStatusPublisher × Except Raised Unit :=
  let refusal (raised : Raised) : Raised :=
    let source := publisher.state.value
    let target := new.value
    publicationError s!"authoritative status {source} -> {target} failed: {raised.text}"
  let converted (raised : Raised) : Raised :=
    if exceptions.caught [.statusConflict, .osError, .valueError] raised then refusal raised else raised
  if publisher.initialized = false then
    (publisher, .error (publicationError "authoritative deployment status was not initialized"))
  else if new ∉ publisher.state.transitions then
    (publisher, .error (refusal (.other "IllegalTransition"
      s!"deployment: {publisher.state.value} -> {new.value}")))
  else if publisher.stored ≠ publisher.state then
    (publisher, .error (refusal (statusConflict s!"expected {publisher.state.value}")))
  else match commit with
    | .stored =>
      ({ publisher with state := new, stored := new, published := publisher.published ++ [new] }, .ok ())
    | .refused raised => (publisher, .error (converted raised))
    | .uncertain raised =>
      ({ publisher with stored := new, published := publisher.published ++ [new] }, .error (converted raised))

/-- The report as it is written. -/
structure ShutdownReport where
  clean : Bool
  errors : List String
  deadlineExhausted : Bool
  terminalPublication : String
  observedTerminalState : Option DeploymentState
  components : List (String × ComponentState × Option Int)

/-- What an atomic write comes to: the file is there and may be there although it raised. -/
inductive Write where
  | landed
  | failed (raised : Raised)
  | uncertain (raised : Raised)
  deriving DecidableEq

structure CompositionRoot where
  supervisor : RuntimeSupervisor
  firstCause : Option String := none
  status : Option DeploymentStatusPublisher := none
  draining : Bool := false
  cancelling : Bool := false
  hasHeadChannel : Bool := false
  startBroadcast : Bool := false
  gatewayComponent : Option String := none
  deploymentComponent : Option String := none
  hasPortLease : Bool := false
  hasListener : Bool := false
  hasObserver : Bool := false
  hasIngress : Bool := false
  reports : List ShutdownReport := []

/-- The rank protocol: the ranks whose DRAIN result was accepted, whether the head gave up
    on it, and the ranks that said GOODBYE. -/
structure Drain (numNodes : Nat) where
  acknowledged : Finset (Fin numNodes)
  failed : Bool := false
  earlier : Finset (Fin numNodes) := ∅
  goodbye : Finset (Fin numNodes)

namespace Drain

variable {numNodes : Nat} (drain : Drain numNodes)

/-- What `broadcast_shutdown` returns. -/
def acknowledgedCount : Nat := if drain.failed then 0 else drain.acknowledged.card

def expected : Finset (Fin numNodes) := if drain.failed then drain.earlier else drain.acknowledged

/-- What `wait_shutdown_goodbyes` returns. -/
def goodbyeCount : Nat := (drain.expected ∩ drain.goodbye).card

end Drain

/-- What the steps of one `shutdown` of a plan with so many nodes come to. The budgets it
    gives them are in what they come to within. -/
structure Steps (numNodes : Nat) where
  cleanupDeadline : ℚ := 30
  drainStatus : Commit := .stored
  gateway : Stopping := {}
  deployment : Stopping := {}
  broadcast : Except Raised (Drain numNodes)
  goodbyes : Except Raised Unit := .ok ()
  stops : String → Stopping := fun _ => {}
  portLease : Except Raised Unit := .ok ()
  listener : Except Raised Unit := .ok ()
  observer : Except Raised Bool := .ok true
  ingress : Except Raised Bool := .ok true
  channel : Except Raised Bool := .ok true
  returncode : String → Option Int := fun _ => some 0
  exhausted : Bool × Bool := (false, false)
  firstReport : Write := .landed
  terminal : Commit := .stored
  lastReport : Write := .landed

/-- The steps that are to be attempted whatever the others come to. -/
inductive CleanupStep where
  | reap | portLease | listener | observer | ingress | channel | report | terminal
  deriving DecidableEq

/-- A `shutdown` on its way: what it has recorded and attempted, and the exception that no
    handler took. -/
structure Progress where
  root : CompositionRoot
  errors : List String := []
  clean : Bool := true
  channelClean : Bool := true
  terminalPublication : String := "not_required"
  attempted : List CleanupStep := []
  aborted : Option Raised := none

/-- `first_cause or detail`. -/
def orElse (cause : Option String) (detail : String) : Option String :=
  if cause = none ∨ cause = some "" then some detail else cause

namespace Progress

/-- `cleanup_failed`. -/
def cleanupFailed (progress : Progress) (detail : String) : Progress :=
  { progress with
    clean := false
    errors := progress.errors ++ [detail]
    root := { progress.root with firstCause := orElse progress.root.firstCause detail } }

def withSupervisor (progress : Progress) (supervisor : RuntimeSupervisor) : Progress :=
  { progress with root := { progress.root with supervisor } }

def withStatus (progress : Progress) (publisher : DeploymentStatusPublisher) : Progress :=
  { progress with root := { progress.root with status := some publisher } }

def withReport (progress : Progress) (report : ShutdownReport) : Progress :=
  { progress with root := { progress.root with reports := progress.root.reports ++ [report] } }

def withoutPortLease (progress : Progress) : Progress :=
  { progress with root := { progress.root with hasPortLease := false } }

def withoutListener (progress : Progress) : Progress :=
  { progress with root := { progress.root with hasListener := false } }

def attempting (progress : Progress) (step : CleanupStep) : Progress :=
  { progress with attempted := progress.attempted ++ [step] }

def abort (progress : Progress) (raised : Raised) : Progress := { progress with aborted := some raised }

/-- The rest of the method, which an exception without a handler leaves out. -/
def andThen (progress : Progress) (next : Progress → Progress) : Progress :=
  if progress.aborted.isSome then progress else next progress

/-- A handler that records what it takes as a cleanup failure. -/
def handling (exceptions : Exceptions) (handled : List ExceptionClass) (detail : Raised → String)
    (progress : Progress) (raised : Raised) : Progress :=
  if exceptions.caught handled raised then progress.cleanupFailed (detail raised) else progress.abort raised

/-- A step with nothing to return. -/
def attempt (exceptions : Exceptions) (handled : List ExceptionClass) (detail : Raised → String)
    (outcome : Except Raised Unit) (progress : Progress) : Progress :=
  match outcome with
  | .ok _ => progress
  | .error raised => handling exceptions handled detail progress raised

/-- A step that returns whether it was clean. -/
def attemptStop (exceptions : Exceptions) (handled : List ExceptionClass) (detail : Raised → String)
    (unclean : String) (outcome : Except Raised Bool) (progress : Progress) : Progress :=
  match outcome with
  | .ok true => progress
  | .ok false => progress.cleanupFailed unclean
  | .error raised => handling exceptions handled detail progress raised

end Progress

section Shutdown

variable (exceptions : Exceptions) {numNodes : Nat} (steps : Steps numNodes)

/-- The states a shutdown cancels. -/
def active : List DeploymentState := [.planned, .staging, .clusterStarting, .deploying, .validating]

def beginStatus (progress : Progress) : Progress :=
  match progress.root.status with
  | none => progress
  | some publisher =>
    if publisher.state = .ready then
      let (after, outcome) := publisher.advance exceptions .draining steps.drainStatus
      let progress := progress.withStatus after
      match outcome with
      | .ok _ => { progress with root := { progress.root with draining := true } }
      | .error raised => progress.handling exceptions [.publicationError, .runtimeError, .valueError]
          (fun raised => s!"shutdown status publication failed: {raised.text}") raised
    else if publisher.state ∈ active then { progress with root := { progress.root with cancelling := true } }
    else progress

/-- `_rank_sessions_may_be_unavailable`. -/
def rankSessionsMayBeUnavailable (root : CompositionRoot) : Bool :=
  match root.supervisor.firstCause with
  | none => false
  | some cause => cause.componentId ∈ ["rank_launcher", "control"] ∨ cause.reasonCode = "CONTROL_FAILURE"

def orderedFailure (component : ManagedComponent) (raised : Raised) : String :=
  s!"{component.componentId} ordered cleanup failed: {raised.described}"

/-- `stop_global_component`. -/
def stopGlobalComponent (componentId : Option String) (reason : String) (stopping : Stopping)
    (progress : Progress) : Progress :=
  match progress.root.supervisor.components.find? fun component => some component.componentId = componentId with
  | none => progress
  | some component =>
    let stopped := component.stop reason stopping
    let components := progress.root.supervisor.components.map fun other =>
      if other.componentId = component.componentId then stopped.component else other
    (progress.withSupervisor { progress.root.supervisor with components }).attempt exceptions
      [.osError, .runtimeError, .valueError] (orderedFailure component) stopped.outcome

def incomplete (numNodes acknowledged goodbyes : Nat) : String :=
  s!"rank drain protocol incomplete: acknowledged={acknowledged}/{numNodes}, goodbye={goodbyes}/{numNodes}"

/-- The DRAIN of the ranks and their GOODBYEs. -/
def drainRanks (unavailable : Bool) (progress : Progress) : Progress :=
  match steps.broadcast with
  | .error raised => progress.abort raised
  | .ok drain =>
    match steps.goodbyes with
    | .error raised => progress.abort raised
    | .ok _ =>
      if drain.acknowledgedCount ≠ numNodes ∨ drain.goodbyeCount ≠ numNodes then
        if unavailable then progress
        else progress.cleanupFailed (incomplete numNodes drain.acknowledgedCount drain.goodbyeCount)
      else progress

def drainDeployment (progress : Progress) : Progress :=
  if progress.root.hasHeadChannel ∧ progress.root.startBroadcast then
    let unavailable := rankSessionsMayBeUnavailable progress.root
    let progress :=
      if unavailable then progress
      else (stopGlobalComponent exceptions progress.root.gatewayComponent
          "revoke ingress before deployment drain" steps.gateway progress).andThen fun progress =>
        stopGlobalComponent exceptions progress.root.deploymentComponent
          "drain deployment before rank-local Ray shutdown" steps.deployment progress
    progress.andThen (drainRanks steps unavailable)
  else progress

def reap (progress : Progress) : Progress :=
  let progress := progress.attempting .reap
  let (supervisor, outcome) := progress.root.supervisor.shutdown steps.cleanupDeadline steps.stops
  let progress := progress.withSupervisor supervisor
  match outcome with
  | .error raised => progress.abort raised
  | .ok true => progress
  | .ok false => progress.cleanupFailed "one or more owned process groups survived cleanup"

def releasePortLease (progress : Progress) : Progress :=
  if progress.root.hasPortLease then
    ((progress.attempting .portLease).attempt exceptions [.osError, .runtimeError]
      (fun raised => s!"gateway port lease cleanup failed: {raised.text}") steps.portLease).andThen Progress.withoutPortLease
  else progress

def closeListener (progress : Progress) : Progress :=
  if progress.root.hasListener then
    ((progress.attempting .listener).attempt exceptions [.osError]
      (fun raised => s!"gateway listener cleanup failed: {raised.text}") steps.listener).andThen Progress.withoutListener
  else progress

def stopObserver (progress : Progress) : Progress :=
  if progress.root.hasObserver then
    (progress.attempting .observer).attemptStop exceptions [.osError, .runtimeError]
      (fun raised => s!"deployment observer cleanup failed: {raised.text}")
      "deployment observer thread did not stop" steps.observer
  else progress

def stopIngress (progress : Progress) : Progress :=
  if progress.root.hasIngress then
    (progress.attempting .ingress).attemptStop exceptions [.osError]
      (fun raised => s!"deployment ingress cleanup failed: {raised.text}")
      "deployment ingress thread did not stop" steps.ingress
  else progress

/-- The local resources, each of them where the root has it. -/
def releaseLocal (progress : Progress) : Progress :=
  let released := (releasePortLease exceptions steps progress).andThen (closeListener exceptions steps)
  (released.andThen (stopObserver exceptions steps)).andThen (stopIngress exceptions steps)

def channelIncomplete : String := "control listener or event-loop cleanup was incomplete"

def stopChannel (progress : Progress) : Progress :=
  if progress.root.hasHeadChannel then
    let progress := progress.attempting .channel
    match steps.channel with
    | .ok true => progress
    | .ok false => { progress with channelClean := false }.cleanupFailed channelIncomplete
    | .error raised =>
      (Progress.handling exceptions [.osError, .runtimeError]
        (fun raised => s!"control listener cleanup failed: {raised.text}") { progress with channelClean := false }
        raised).andThen fun progress => progress.cleanupFailed channelIncomplete
  else progress

def terminalRequested (progress : Progress) : Bool :=
  progress.root.status.isSome && (progress.root.draining || progress.root.cancelling)

/-- `shutdown_payload`. -/
def shutdownPayload (exhausted : Bool) (progress : Progress) : ShutdownReport where
  clean := progress.clean && progress.channelClean &&
    (progress.terminalPublication = "published" || progress.terminalPublication = "not_required")
  errors := progress.errors
  deadlineExhausted := exhausted
  terminalPublication := progress.terminalPublication
  observedTerminalState := progress.root.status.map DeploymentStatusPublisher.state
  components := (progress.root.supervisor.components.mergeSort
    fun left right => decide (left.componentId ≤ right.componentId)).map fun component =>
      (component.componentId, component.state, component.process.bind fun _ => steps.returncode component.componentId)

/-- `atomic_write_json` of the report. -/
def writeReport (exhausted : Bool) (write : Write) (detail : Raised → String) (progress : Progress) : Progress :=
  let handled := [.osError, .runtimeError, .typeError, .valueError]
  let written := progress.withReport (shutdownPayload steps exhausted progress)
  match write with
  | .landed => written.attempting .report
  | .failed raised => (progress.attempting .report).handling exceptions handled detail raised
  | .uncertain raised => (written.attempting .report).handling exceptions handled detail raised

def firstReport (progress : Progress) : Progress :=
  let progress := if terminalRequested progress then { progress with terminalPublication := "pending" } else progress
  writeReport exceptions steps steps.exhausted.1 steps.firstReport
    (fun raised => s!"shutdown report publication failed: {raised.text}") progress

/-- The state that is published at the end. -/
def terminalState (progress : Progress) : DeploymentState :=
  if progress.clean ∧ progress.channelClean then
    if progress.root.draining then .stopped else .cancelled
  else .failed

def publishTerminal (progress : Progress) : Progress :=
  if terminalRequested progress then
    match progress.root.status with
    | none => progress
    | some publisher =>
      let (after, outcome) := publisher.advance exceptions (terminalState progress) steps.terminal
      let progress := (progress.attempting .terminal).withStatus after
      match outcome with
      | .ok _ => { progress with terminalPublication := "published" }
      | .error raised =>
        { progress with terminalPublication := s!"failed: {raised.described}" }.handling exceptions
          [.publicationError, .runtimeError, .valueError]
          (fun raised => s!"terminal status publication failed: {raised.text}") raised
  else progress

def lastReport (progress : Progress) : Progress :=
  writeReport exceptions steps steps.exhausted.2 steps.lastReport
    (fun raised => s!"final shutdown report publication failed: {raised.text}") progress

/-- The part of `shutdown` before its reports. -/
def cleanUp (root : CompositionRoot) : Progress :=
  let begun := beginStatus exceptions steps { root }
  let drained := begun.andThen (drainDeployment exceptions steps)
  let reaped := drained.andThen (reap steps)
  let released := reaped.andThen (releaseLocal exceptions steps)
  released.andThen (stopChannel exceptions steps)

/-- `shutdown`. -/
def shutdown (root : CompositionRoot) : Progress :=
  let reported := (cleanUp exceptions steps root).andThen (firstReport exceptions steps)
  let published := reported.andThen (publishTerminal exceptions steps)
  published.andThen (lastReport exceptions steps)

end Shutdown

end ExaServe.Composition
