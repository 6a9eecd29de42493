import ExaServe.Control.Supervision.Component
import Mathlib.Data.Rat.Defs
import Mathlib.Algebra.Order.Ring.Rat

namespace ExaServe.Control.Supervision

open Lib Plan

/-- One `stop` of a component that was attempted: whose, and by when. -/
structure Attempt where
  componentId : String
  deadline : ℚ
  deriving DecidableEq

/-- The supervisor, with the causes in the order they were recorded in and the stops in the
    order they were attempted in. -/
structure RuntimeSupervisor where
  components : List ManagedComponent
  firstCause : Option FirstCause := none
  secondaryCauses : List FirstCause := []
  shutdownRequested : Bool := false
  signalsInstalled : Bool := false
  recorded : List FirstCause := []
  attempts : List Attempt := []

namespace RuntimeSupervisor

/-- `register`. -/
def register (supervisor : RuntimeSupervisor) (component : ManagedComponent) (contract : Except Raised Unit) :
    Except Raised RuntimeSupervisor := do
  contract
  if component.componentId ∈ supervisor.components.map ManagedComponent.componentId then
    .error (supervisorError s!"duplicate component {component.componentId}")
  else .ok { supervisor with components := supervisor.components ++ [component] }

/-- `record_cause`. -/
def recordCause (supervisor : RuntimeSupervisor) (componentId reasonCode detail : String)
    (exitCode : Option Int) : Except Raised RuntimeSupervisor :=
  match firstCauseOf componentId reasonCode detail exitCode with
  | .error raised => .error raised
  | .ok cause =>
    let supervisor := { supervisor with recorded := supervisor.recorded ++ [cause] }
    match supervisor.firstCause with
    | none => .ok { supervisor with firstCause := some cause }
    | some _ => .ok { supervisor with secondaryCauses := supervisor.secondaryCauses ++ [cause] }

/-- A cause recorded from where an exception of the recording goes on to the caller. -/
def recording (supervisor : RuntimeSupervisor) (componentId reasonCode detail : String)
    (exitCode : Option Int) : RuntimeSupervisor × Except Raised Unit :=
  match supervisor.recordCause componentId reasonCode detail exitCode with
  | .error raised => (supervisor, .error raised)
  | .ok after => (after, .ok ())

/-- A loop that stops one component after the other: the supervisor, the components as it
    leaves them, in the order of the loop, and whether each stop ended well. An exception of
    the recording ends it. -/
structure Visit where
  supervisor : RuntimeSupervisor
  components : List ManagedComponent
  outcome : Except Raised Bool

def attempted (supervisor : RuntimeSupervisor) (component : ManagedComponent) (deadline : ℚ) :
    RuntimeSupervisor :=
  { supervisor with attempts := supervisor.attempts ++ [{ componentId := component.componentId, deadline }] }

/-- The two cleanup loops, which differ in the reason given to the stop and in the cause
    recorded when it raises. -/
def visit (reason reasonCode : String) (detail : Raised → String) (deadline : ℚ)
    (steps : String → Stopping) : RuntimeSupervisor → List ManagedComponent → Visit
  | supervisor, [] => { supervisor, components := [], outcome := .ok true }
  | supervisor, component :: rest =>
    let supervisor := supervisor.attempted component deadline
    let one := component.stop reason (steps component.componentId)
    match one.outcome with
    | .ok _ =>
      let others := visit reason reasonCode detail deadline steps supervisor rest
      { others with components := one.component :: others.components }
    | .error raised =>
      match supervisor.recordCause component.componentId reasonCode (detail raised) none with
      | .error again => { supervisor, components := one.component :: rest, outcome := .error again }
      | .ok supervisor =>
        let others := visit reason reasonCode detail deadline steps supervisor rest
        { others with
          components := one.component :: others.components
          outcome := others.outcome.map fun _ => false }

/-- What a `start_all` is given and meets: the signal handlers, the clock before each start,
    and the steps of each start and of each stop of the rollback. -/
structure StartAll where
  rollbackS : ℚ := 30
  handlers : Except Raised Unit := .ok ()
  clock : String → ℚ := fun _ => 0
  starting : String → Starting
  rollback : String → Stopping := fun _ => {}

/-- The loop of `start_all`: the components it came to and those it did not, the stops that
    failed starts made, and the exception with the deadline it came under. -/
structure Launch where
  started : List ManagedComponent := []
  waiting : List ManagedComponent := []
  attempts : List Attempt := []
  failure : Option (Raised × ℚ) := none

def launch (steps : StartAll) : List ManagedComponent → Launch
  | [] => {}
  | component :: rest =>
    let deadline := steps.clock component.componentId + steps.rollbackS
    let one := component.start (steps.starting component.componentId)
    let attempts := if one.rolledBack then [{ componentId := component.componentId, deadline }] else []
    match one.outcome with
    | .ok _ =>
      let others := launch steps rest
      { others with started := one.component :: others.started, attempts := attempts ++ others.attempts }
    | .error raised => { started := [one.component], waiting := rest, attempts, failure := some (raised, deadline) }

def installed (supervisor : RuntimeSupervisor) (handlers : Except Raised Unit) : Except Raised RuntimeSupervisor :=
  if supervisor.signalsInstalled then .ok supervisor
  else match handlers with
    | .error _ => .error (supervisorError "signal handlers must be installed from the main thread before launch")
    | .ok _ => .ok { supervisor with signalsInstalled := true }

/-- The handler of `start_all`. -/
def rolledBack (steps : StartAll) (supervisor : RuntimeSupervisor) (launched : Launch) (raised : Raised)
    (deadline : ℚ) : RuntimeSupervisor × Except Raised Unit :=
  let failed := supervisor.components.find? fun component => component.state = .failed
  let culprit := (failed.map ManagedComponent.componentId).getD "startup"
  match supervisor.recordCause culprit "START_FAILED" raised.text none with
  | .error again => (supervisor, .error again)
  | .ok supervisor =>
    let visited := visit "startup rollback" "START_ROLLBACK_FAILED" Raised.described deadline steps.rollback
      supervisor launched.started.reverse
    let components := visited.components.reverse ++ launched.waiting
    match visited.outcome with
    | .error again => ({ visited.supervisor with components }, .error again)
    | .ok _ => ({ visited.supervisor with components },
        .error (supervisorError s!"component startup transaction failed: {raised.text}"))

/-- The supervisor after the loop. -/
def launchedAs (supervisor : RuntimeSupervisor) (launched : Launch) : RuntimeSupervisor :=
  { supervisor with
    components := launched.started ++ launched.waiting
    attempts := supervisor.attempts ++ launched.attempts }

/-- `start_all`. -/
def startAll (steps : StartAll) (supervisor : RuntimeSupervisor) : RuntimeSupervisor × Except Raised Unit :=
  if steps.rollbackS < 0 then
    (supervisor, .error (valueFault "startup rollback budget must be finite and nonnegative"))
  else match supervisor.installed steps.handlers with
    | .error raised => (supervisor, .error raised)
    | .ok supervisor =>
      let launched := launch steps supervisor.components
      let supervisor := supervisor.launchedAs launched
      match launched.failure with
      | none => (supervisor, .ok ())
      | some (raised, deadline) => supervisor.rolledBack steps launched raised deadline

/-- `shutdown`. -/
def shutdown (deadline : ℚ) (steps : String → Stopping) (supervisor : RuntimeSupervisor) :
    RuntimeSupervisor × Except Raised Bool :=
  let visited := visit "shutdown" "CLEANUP_ERROR" Raised.text deadline steps supervisor
    supervisor.components.reverse
  let after := { visited.supervisor with components := visited.components.reverse }
  match visited.outcome with
  | .error raised => (after, .error raised)
  | .ok clean => (after, .ok (clean && after.components.all fun component => component.state = .stopped))

/-- What one look at a component gives, with its `on_unexpected_exit` and its `result_check`
    where it has them. -/
structure Polling where
  seen : ManagedComponent.Observing
  unexpectedExit : Option (Except Raised String) := none
  resultCheck : Option (Except Raised (Bool × String)) := none

def exitDetail (component : ManagedComponent) (steps : Polling) : String :=
  let detail := s!"{component.componentId} exited unexpectedly"
  match steps.unexpectedExit with
  | none => detail
  | some (.ok captured) => if captured = "" then detail else captured
  | some (.error raised) => s!"{detail}; failure-evidence capture failed: {raised.text}"

/-- What the loop of `poll_once` records of a component, or what its result check raises. -/
def pollCause (component : ManagedComponent) (steps : Polling) :
    Except Raised (Option (String × String)) :=
  if component.state = .failed then .ok (some ("UNEXPECTED_EXIT", exitDetail component steps))
  else if component.state = .stopped ∧ component.longLived = false then
    match steps.resultCheck with
    | none => .ok none
    | some checked => do
      let (ok, why) ← checked
      .ok (if ok then none else some ("INVALID_RESULT", why))
  else .ok none

def pollLoop (steps : String → Polling) (polled : List ManagedComponent) :
    RuntimeSupervisor → List ManagedComponent → RuntimeSupervisor × Except Raised (Option FirstCause)
  | supervisor, [] => ({ supervisor with components := polled }, .ok none)
  | supervisor, component :: rest =>
    let (seen, code) := component.observe (steps component.componentId).seen
    let supervisor := { supervisor with components := polled ++ seen :: rest }
    match pollCause seen (steps component.componentId) with
    | .error raised => (supervisor, .error raised)
    | .ok none => pollLoop steps (polled ++ [seen]) supervisor rest
    | .ok (some (reasonCode, detail)) =>
      match supervisor.recordCause seen.componentId reasonCode detail code with
      | .error raised => (supervisor, .error raised)
      | .ok supervisor => (supervisor, .ok supervisor.firstCause)

/-- `poll_once`. -/
def pollOnce (steps : String → Polling) (supervisor : RuntimeSupervisor) :
    RuntimeSupervisor × Except Raised (Option FirstCause) :=
  pollLoop steps [] supervisor supervisor.components

/-- A `stop` that an owner of the component calls itself. -/
def stopOne (componentId reason : String) (deadline : ℚ) (steps : Stopping) (supervisor : RuntimeSupervisor) :
    RuntimeSupervisor :=
  { supervisor with
    components := supervisor.components.map fun component =>
      if component.componentId = componentId then (component.stop reason steps).component else component
    attempts := supervisor.attempts ++
      (supervisor.components.filter fun component => component.componentId = componentId).map
        fun component => { componentId := component.componentId, deadline } }

end RuntimeSupervisor

end ExaServe.Control.Supervision
