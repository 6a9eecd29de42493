import ExaServe.Control.Contracts

namespace ExaServe.Control.Supervision

open Lib Plan

def valueFault (message : String) : Raised := .other "ValueError" message

def supervisorError (message : String) : Raised := .other "SupervisorError" message

structure FirstCause where
  componentId : String
  reasonCode : String
  detail : String
  exitCode : Option Int := none
  deriving DecidableEq

/-- `FirstCause.__post_init__`: its texts in turn. -/
def firstCauseOf (componentId reasonCode detail : String) (exitCode : Option Int) : Except Raised FirstCause :=
  if componentId = "" then .error (valueFault "failure cause component_id must be non-empty text")
  else if reasonCode = "" then .error (valueFault "failure cause reason_code must be non-empty text")
  else if detail = "" then .error (valueFault "failure cause detail must be non-empty text")
  else .ok { componentId, reasonCode, detail, exitCode }

/-- What the creation of the child comes to: its pid, an `OSError` or a `ValueError`, or
    another exception. -/
inductive Popen where
  | spawned (pid : Nat)
  | refused (raised : Raised)
  | broken (raised : Raised)
  deriving DecidableEq

/-- What the steps of one `stop` come to: the first look at the child, the signals and the
    waits up to the deadline, the last look at the group, the output capture, the callback. -/
structure Stopping where
  alive : Except Raised Bool := .ok true
  signalled : Except Raised Unit := .ok ()
  groupEmpty : Bool := true
  drainJoined : Bool := true
  drainFailure : Option String := none
  onStopped : Except Raised Unit := .ok ()

/-- What the steps of one `start` come to, the stop after a failed initialization included. -/
structure Starting where
  contract : Except Raised Unit := .ok ()
  onStarting : Except Raised Unit := .ok ()
  popen : Popen
  captureStart : Except Raised Unit := .ok ()
  onStarted : Except Raised Unit := .ok ()
  rollback : Stopping := {}

/-- A component as far as its lifecycle goes: which callbacks it has, its child, and how
    often its `on_stopped` has run. -/
structure ManagedComponent where
  componentId : String
  named : componentId ≠ ""
  longLived : Bool := true
  hasOnStarting : Bool := false
  hasOnStarted : Bool := false
  hasOnStopped : Bool := false
  hasStdout : Bool := false
  hasCapture : Bool := false
  process : Option Nat := none
  state : ComponentState := .new
  stopping : Bool := false
  stoppedCalls : Nat := 0

namespace ManagedComponent

variable (component : ManagedComponent)

def inState (state : ComponentState) : ManagedComponent := { component with state }

@[simp] theorem inState_state (state : ComponentState) : (component.inState state).state = state := rfl

@[simp] theorem inState_componentId (state : ComponentState) :
    (component.inState state).componentId = component.componentId := rfl

@[simp] theorem inState_process (state : ComponentState) :
    (component.inState state).process = component.process := rfl

@[simp] theorem inState_stoppedCalls (state : ComponentState) :
    (component.inState state).stoppedCalls = component.stoppedCalls := rfl

@[simp] theorem inState_hasOnStopped (state : ComponentState) :
    (component.inState state).hasOnStopped = component.hasOnStopped := rfl

/-- A component after a `stop`, whether its last look saw the group empty, and how it ended. -/
structure Stopped where
  component : ManagedComponent
  seenEmpty : Bool
  outcome : Except Raised Unit

def drainResult (steps : Stopping) : Except Raised Unit :=
  if component.hasCapture = false then .ok ()
  else if steps.drainJoined = false then
    .error (supervisorError
      s!"component {quotedText component.componentId} output drain did not stop by cleanup deadline")
  else match steps.drainFailure with
    | some failure => .error (supervisorError
        s!"component {quotedText component.componentId} output drain failed: {failure}")
    | none => .ok ()

/-- The end of `stop`, the group being empty. -/
def stopEmptied (steps : Stopping) : Stopped :=
  match component.drainResult steps with
  | .error raised => { component := component.inState .failed, seenEmpty := true, outcome := .error raised }
  | .ok _ =>
    let stopped := component.inState .stopped
    if component.hasOnStopped then
      { component := { stopped with stoppedCalls := component.stoppedCalls + 1 }, seenEmpty := true,
        outcome := steps.onStopped }
    else { component := stopped, seenEmpty := true, outcome := .ok () }

/-- The component while its group is signalled. -/
def signalling (alive : Bool) : ManagedComponent :=
  { component with stopping := true, state := if alive then .stopping else component.state }

@[simp] theorem signalling_componentId (alive : Bool) :
    (component.signalling alive).componentId = component.componentId := rfl

@[simp] theorem signalling_process (alive : Bool) : (component.signalling alive).process = component.process := rfl

@[simp] theorem signalling_hasOnStopped (alive : Bool) :
    (component.signalling alive).hasOnStopped = component.hasOnStopped := rfl

@[simp] theorem signalling_stoppedCalls (alive : Bool) :
    (component.signalling alive).stoppedCalls = component.stoppedCalls := rfl

def retained (reason : String) : Raised :=
  let shown := quotedText component.componentId
  supervisorError s!"component {shown} retained process-group members after cleanup deadline ({reason})"

/-- `stop`. -/
def stop (reason : String) (steps : Stopping) : Stopped :=
  if component.process = none then
    { component := { component with stopping := true, state := .stopped }, seenEmpty := true, outcome := .ok () }
  else match steps.alive with
    | .error raised =>
      { component := { component with stopping := true }, seenEmpty := false, outcome := .error raised }
    | .ok alive =>
      let component := component.signalling alive
      match steps.signalled with
      | .error raised => { component, seenEmpty := false, outcome := .error raised }
      | .ok _ =>
        if steps.groupEmpty then component.stopEmptied steps
        else
          { component := component.inState .failed, seenEmpty := false
            outcome := .error (component.retained reason) }

/-- A component after a `start`, the reason its own stop was given if there was one, and
    how the start ended. -/
structure Started where
  component : ManagedComponent
  rolledBack : Bool := false
  outcome : Except Raised Unit

/-- The part of `start` after the child was made. -/
def startSpawned (steps : Starting) : Started :=
  let initialized : Except Raised Unit := do
    if component.hasCapture then steps.captureStart else .ok ()
    if component.hasOnStarted then steps.onStarted else .ok ()
  match initialized with
  | .ok _ => { component := component.inState .running, outcome := .ok () }
  | .error raised =>
    { component := (component.stop "post-spawn initialization failed" steps.rollback).component.inState .failed
      rolledBack := true
      outcome := .error raised }

/-- `start`. -/
def start (steps : Starting) : Started :=
  match steps.contract with
  | .error raised => { component, outcome := .error raised }
  | .ok _ =>
    if component.process ≠ none then
      let shown := quotedText component.componentId
      { component, outcome := .error (supervisorError s!"component {shown} has already been started") }
    else if component.hasCapture ∧ component.hasStdout then
      { component := component.inState .failed
        outcome := .error (valueFault "stdout and output_capture are mutually exclusive") }
    else match (if component.hasOnStarting then steps.onStarting else .ok ()) with
      | .error raised => { component := component.inState .failed, outcome := .error raised }
      | .ok _ =>
        match steps.popen with
        | .refused raised => { component := component.inState .failed, outcome := .error raised }
        | .broken raised => { component := component.inState .starting, outcome := .error raised }
        | .spawned pid => { component with process := some pid, state := .starting }.startSpawned steps

/-- What one `observe` sees: the failure of the output capture, the exit code and whether
    the group has members. -/
structure Observing where
  captureFailed : Bool := false
  poll : Option Int
  groupMembers : Bool := false

/-- `observe`. -/
def observe (seen : Observing) : ManagedComponent × Option Int :=
  if component.process = none then (component, none)
  else if component.hasCapture ∧ seen.captureFailed then (component.inState .failed, seen.poll)
  else match seen.poll with
    | none => (component, none)
    | some code =>
      if component.stopping = false ∧ seen.groupMembers then (component.inState .failed, some code)
      else if component.stopping then (component.inState .stopped, some code)
      else if component.longLived = false ∧ code = 0 then (component.inState .stopped, some code)
      else (component.inState .failed, some code)

end ManagedComponent

end ExaServe.Control.Supervision
