import ExaServe.Control.Supervision.Lifecycle
import ExaServe.Control.Supervision.Supervisor
import ExaServe.Lib.Run

namespace ExaServe.Control.Supervision

open Lib Plan

namespace RuntimeSupervisor

variable {supervisor after : RuntimeSupervisor}

/-- The first cause is the one recorded first. -/
def Recorded (supervisor : RuntimeSupervisor) : Prop := supervisor.firstCause = supervisor.recorded.head?

structure Grows (supervisor after : RuntimeSupervisor) : Prop where
  recorded : supervisor.recorded <+: after.recorded
  first : supervisor.Recorded → after.Recorded

theorem Grows.of_same (recorded : after.recorded = supervisor.recorded)
    (first : after.firstCause = supervisor.firstCause) : supervisor.Grows after := by
  constructor
  · rw [recorded]
  · intro kept
    unfold Recorded
    rw [first, recorded]
    exact kept

theorem Grows.trans {last : RuntimeSupervisor} (one : supervisor.Grows after) (two : after.Grows last) :
    supervisor.Grows last :=
  ⟨one.recorded.trans two.recorded, fun kept => two.first (one.first kept)⟩

/-- A cause that is recorded first stays. -/
theorem Grows.keeps (grown : supervisor.Grows after) (kept : supervisor.Recorded) {cause : FirstCause}
    (first : supervisor.firstCause = some cause) : after.firstCause = some cause := by
  rw [kept] at first
  obtain ⟨rest, extended⟩ := grown.recorded
  rw [grown.first kept, ← extended, List.head?_append, first]
  rfl

theorem recordCause_grows {componentId reasonCode detail : String} {exitCode : Option Int}
    (done : supervisor.recordCause componentId reasonCode detail exitCode = .ok after) :
    supervisor.Grows after ∧
      after.recorded = supervisor.recorded ++ [⟨componentId, reasonCode, detail, exitCode⟩] ∧
      after.components = supervisor.components ∧ after.attempts = supervisor.attempts := by
  unfold recordCause firstCauseOf at done
  split_ifs at done
  dsimp only at done
  split at done
  · rename_i unset
    cases Except.ok.inj done
    refine ⟨⟨List.prefix_append _ _, ?_⟩, rfl, rfl, rfl⟩
    intro kept
    have empty : supervisor.recorded = [] := List.head?_eq_none_iff.mp (kept ▸ unset)
    simp [Recorded, empty]
  · rename_i cause first
    cases Except.ok.inj done
    refine ⟨⟨List.prefix_append _ _, ?_⟩, rfl, rfl, rfl⟩
    intro kept
    unfold Recorded at kept ⊢
    rw [first] at kept
    rw [List.head?_append, ← kept, first]
    rfl

theorem recordCause_ok {componentId reasonCode detail : String} {exitCode : Option Int}
    (named : componentId ≠ "") (coded : reasonCode ≠ "") (told : detail ≠ "") :
    ∃ after, supervisor.recordCause componentId reasonCode detail exitCode = .ok after := by
  unfold recordCause firstCauseOf
  rw [if_neg named, if_neg coded, if_neg told]
  dsimp only
  split <;> exact ⟨_, rfl⟩

section Visit

variable {reason reasonCode : String} {detail : Raised → String} {deadline : ℚ} {steps : String → Stopping}

def attemptsOf (components : List ManagedComponent) (deadline : ℚ) : List Attempt :=
  components.map fun component => { componentId := component.componentId, deadline }

def stopOf (reason : String) (steps : String → Stopping) (component : ManagedComponent) :
    ManagedComponent.Stopped :=
  component.stop reason (steps component.componentId)

theorem attempted_grows (component : ManagedComponent) : supervisor.Grows (supervisor.attempted component deadline) :=
  Grows.of_same rfl rfl

theorem visit_grows (components : List ManagedComponent) :
    supervisor.Grows (visit reason reasonCode detail deadline steps supervisor components).supervisor := by
  induction components generalizing supervisor with
  | nil => exact Grows.of_same rfl rfl
  | cons component rest ih =>
    have first : supervisor.Grows (supervisor.attempted component deadline) := attempted_grows component
    unfold visit
    dsimp only
    split
    · exact first.trans ih
    · split
      · exact first
      · rename_i recorded
        exact (first.trans (recordCause_grows recorded).1).trans ih

theorem visit_once {components : List ManagedComponent} (once : ∀ component ∈ components, component.Once)
    (allowed : ∀ component ∈ components, component.NotifiedOnce (steps component.componentId)) :
    ∀ component ∈ (visit reason reasonCode detail deadline steps supervisor components).components,
      component.Once := by
  induction components generalizing supervisor with
  | nil => exact fun component listed => absurd listed List.not_mem_nil
  | cons component rest ih =>
    have stopped : (component.stop reason (steps component.componentId)).component.Once :=
      (once component List.mem_cons_self).stop (allowed component List.mem_cons_self)
    have later : ∀ other ∈ rest, other.Once := fun other listed => once other (List.mem_cons_of_mem _ listed)
    have others := fun after : RuntimeSupervisor => @ih after later fun other listed =>
      allowed other (List.mem_cons_of_mem _ listed)
    unfold visit
    dsimp only
    split
    · exact List.forall_mem_cons.mpr ⟨stopped, others _⟩
    · split
      · exact List.forall_mem_cons.mpr ⟨stopped, later⟩
      · exact List.forall_mem_cons.mpr ⟨stopped, others _⟩

/-- A loop none of whose causes is without a text comes to every component. -/
theorem visit_all {components : List ManagedComponent} (coded : reasonCode ≠ "")
    (told : ∀ component ∈ components, ∀ raised, (stopOf reason steps component).outcome = .error raised →
      detail raised ≠ "") :
    (visit reason reasonCode detail deadline steps supervisor components).outcome =
        .ok (components.all fun component => (stopOf reason steps component).outcome.isOk) ∧
      (visit reason reasonCode detail deadline steps supervisor components).components =
        components.map (fun component => (stopOf reason steps component).component) ∧
      (visit reason reasonCode detail deadline steps supervisor components).supervisor.attempts =
        supervisor.attempts ++ attemptsOf components deadline := by
  induction components generalizing supervisor with
  | nil => exact ⟨rfl, rfl, (List.append_nil _).symm⟩
  | cons component rest ih =>
    have later := fun after : RuntimeSupervisor => @ih after fun other listed =>
      told other (List.mem_cons_of_mem _ listed)
    unfold visit
    dsimp only
    split
    · rename_i ended
      have ended : (stopOf reason steps component).outcome = .ok _ := ended
      obtain ⟨outcome, stopped, attempts⟩ := later (supervisor.attempted component deadline)
      refine ⟨?_, ?_, ?_⟩
      · rw [outcome, List.all_cons, ended]
        rfl
      · rw [stopped, List.map_cons]
        rfl
      · rw [attempts, attempted, attemptsOf, attemptsOf, List.map_cons, List.append_assoc, List.singleton_append]
    · rename_i raised failed
      have failed : (stopOf reason steps component).outcome = .error raised := failed
      have told_here := told component List.mem_cons_self raised failed
      obtain ⟨recorded, kept⟩ := @recordCause_ok (supervisor.attempted component deadline) component.componentId
        reasonCode (detail raised) none component.named coded told_here
      rw [kept]
      dsimp only
      obtain ⟨outcome, stopped, attempts⟩ := later recorded
      refine ⟨?_, ?_, ?_⟩
      · rw [outcome, List.all_cons, failed]
        rfl
      · rw [stopped, List.map_cons]
        rfl
      · rw [attempts, (recordCause_grows kept).2.2.2, attempted, attemptsOf, attemptsOf, List.map_cons,
          List.append_assoc, List.singleton_append]

end Visit

section Launch

variable {steps : StartAll}

def startOf (steps : StartAll) (component : ManagedComponent) : ManagedComponent.Started :=
  component.start (steps.starting component.componentId)

/-- The components before the one whose start is the first to raise. -/
structure FirstFailing (steps : StartAll) (components before : List ManagedComponent) (component : ManagedComponent)
    (rest : List ManagedComponent) (raised : Raised) : Prop where
  order : components = before ++ component :: rest
  began : ∀ earlier ∈ before, (startOf steps earlier).outcome = .ok ()
  failed : (startOf steps component).outcome = .error raised

/-- What the stop in a failed start comes under. -/
def ownAttempts (steps : StartAll) (component : ManagedComponent) (deadline : ℚ) : List Attempt :=
  if (startOf steps component).rolledBack then attemptsOf [component] deadline else []

theorem launch_cons_ok {component : ManagedComponent} {rest : List ManagedComponent}
    (began : (startOf steps component).outcome = .ok ()) :
    launch steps (component :: rest) = { launch steps rest with
      started := (startOf steps component).component :: (launch steps rest).started } := by
  have quiet : (startOf steps component).rolledBack = false :=
    (ManagedComponent.start_starts.returned (by rw [startOf] at began; rw [began]; rfl)).2.2.1
  unfold startOf at began quiet ⊢
  rw [launch]
  dsimp only
  rw [began, quiet]
  rfl

theorem launch_cons_error {component : ManagedComponent} {rest : List ManagedComponent} {raised : Raised}
    (failed : (startOf steps component).outcome = .error raised) :
    launch steps (component :: rest) =
      let deadline := steps.clock component.componentId + steps.rollbackS
      { started := [(startOf steps component).component], waiting := rest
        attempts := ownAttempts steps component deadline
        failure := some (raised, deadline) } := by
  unfold ownAttempts
  unfold startOf at failed ⊢
  rw [launch]
  dsimp only
  rw [failed]
  rfl

theorem launch_began {components : List ManagedComponent}
    (began : ∀ component ∈ components, (startOf steps component).outcome = .ok ()) :
    launch steps components =
      { started := components.map fun component => (startOf steps component).component } := by
  induction components with
  | nil => rfl
  | cons component rest ih =>
    rw [launch_cons_ok (began component List.mem_cons_self),
      ih fun other listed => began other (List.mem_cons_of_mem _ listed)]
    rfl

theorem launch_failed {components before rest : List ManagedComponent} {component : ManagedComponent}
    {raised : Raised} (first : FirstFailing steps components before component rest raised) :
    launch steps components =
      let deadline := steps.clock component.componentId + steps.rollbackS
      { started := before.map (fun earlier => (startOf steps earlier).component) ++
          [(startOf steps component).component]
        waiting := rest
        attempts := ownAttempts steps component deadline
        failure := some (raised, deadline) } := by
  obtain ⟨rfl, began, failed⟩ := first
  induction before with
  | nil => exact launch_cons_error failed
  | cons earlier others ih =>
    rw [List.cons_append, launch_cons_ok (began earlier List.mem_cons_self),
      ih fun other listed => began other (List.mem_cons_of_mem _ listed)]
    rfl

/-- Either every start returns or one is the first to raise. -/
theorem began_or_failing (steps : StartAll) (components : List ManagedComponent) :
    (∀ component ∈ components, (startOf steps component).outcome = .ok ()) ∨
      ∃ before component rest raised, FirstFailing steps components before component rest raised := by
  induction components with
  | nil => exact .inl fun component listed => absurd listed List.not_mem_nil
  | cons component rest ih =>
    cases outcome : (startOf steps component).outcome with
    | error raised =>
      exact .inr ⟨[], component, rest, raised, rfl, fun _ listed => absurd listed List.not_mem_nil, outcome⟩
    | ok _ =>
      rcases ih with began | ⟨before, failing, waiting, raised, order, began, failed⟩
      · exact .inl (List.forall_mem_cons.mpr ⟨outcome, began⟩)
      · refine .inr ⟨component :: before, failing, waiting, raised, ?_, ?_, failed⟩
        · rw [order, List.cons_append]
        · exact List.forall_mem_cons.mpr ⟨outcome, began⟩

theorem started_running {component : ManagedComponent} (began : (startOf steps component).outcome = .ok ()) :
    (startOf steps component).component.state = .running :=
  (ManagedComponent.start_starts.returned (by rw [startOf] at began; rw [began]; rfl)).2.1

theorem started_componentId (component : ManagedComponent) :
    (startOf steps component).component.componentId = component.componentId :=
  ManagedComponent.start_starts.componentId

end Launch

/-- What is asked of a supervisor and of its components. -/
inductive Call where
  | startAll (steps : StartAll)
  | startOne (componentId : String) (steps : Starting)
  | pollOnce (steps : String → Polling)
  | stopOne (componentId reason : String) (deadline : ℚ) (steps : Stopping)
  | shutdown (deadline : ℚ) (steps : String → Stopping)
  | recordCause (componentId reasonCode detail : String) (exitCode : Option Int)
  | requestShutdown (reason : String)

/-- A `start` that an owner of the component calls itself. -/
def startOne (componentId : String) (steps : Starting) (supervisor : RuntimeSupervisor) : RuntimeSupervisor :=
  { supervisor with components := supervisor.components.map fun component =>
      if component.componentId = componentId then (component.start steps).component else component }

def step (supervisor : RuntimeSupervisor) : Call → RuntimeSupervisor
  | .startAll steps => (supervisor.startAll steps).1
  | .startOne componentId steps => supervisor.startOne componentId steps
  | .pollOnce steps => (supervisor.pollOnce steps).1
  | .stopOne componentId reason deadline steps => supervisor.stopOne componentId reason deadline steps
  | .shutdown deadline steps => (supervisor.shutdown deadline steps).1
  | .recordCause componentId reasonCode detail exitCode =>
    (supervisor.recording componentId reasonCode detail exitCode).1
  | .requestShutdown reason =>
    ({ supervisor with shutdownRequested := true }.recording "supervisor" "SHUTDOWN_REQUESTED" reason none).1

section Promises

/-- A startup whose first start to raise is that of the component: every component it had
    come to was stopped, in reverse order and under one deadline, after the stop that the
    failed start may have made itself, and the component is the one recorded. -/
structure UndoneAt (steps : StartAll) (supervisor after : RuntimeSupervisor) (before : List ManagedComponent)
    (component : ManagedComponent) (rest : List ManagedComponent) (raised : Raised) : Prop where
  first : FirstFailing steps supervisor.components before component rest raised
  attempts : ∃ deadline own, own <+: attemptsOf [component] deadline ∧ after.attempts =
    supervisor.attempts ++ own ++ attemptsOf (before ++ [component]).reverse deadline
  recorded : ∃ later, after.recorded =
    supervisor.recorded ++ ⟨component.componentId, "START_FAILED", raised.text, none⟩ :: later
  untouched : rest <:+ after.components
  length : after.components.length = supervisor.components.length

def Undone (steps : StartAll) (supervisor after : RuntimeSupervisor) : Prop :=
  (after.components = supervisor.components ∧ after.attempts = supervisor.attempts) ∨
    ∃ before component rest raised, UndoneAt steps supervisor after before component rest raised

/-- What a call promises beside what holds in every state. -/
def Promised (supervisor : RuntimeSupervisor) : Call → Prop
  | .startAll steps =>
    match supervisor.startAll steps with
    | (after, .ok _) => ∀ component ∈ after.components, component.state = .running
    | (after, .error _) => Undone steps supervisor after
  | .shutdown deadline steps =>
    ∃ clean, (supervisor.shutdown deadline steps).2 = .ok clean ∧
      (supervisor.shutdown deadline steps).1.attempts =
        supervisor.attempts ++ attemptsOf supervisor.components.reverse deadline ∧
      (supervisor.shutdown deadline steps).1.components =
        supervisor.components.map (fun component => (stopOf "shutdown" steps component).component) ∧
      (clean = true ↔ ∀ component ∈ supervisor.components, (stopOf "shutdown" steps component).Ended)
  | _ => True

/-- Every exception of a step that is to be recorded has a text; a failed start leaves its
    component FAILED; no `on_stopped` is come to twice, and none raises where nothing else
    is amiss. -/
def Meets (supervisor : RuntimeSupervisor) : Call → Prop
  | .startAll steps => ∀ before component rest raised,
      FirstFailing steps supervisor.components before component rest raised →
      raised.text ≠ "" ∧ (startOf steps component).component.state = .failed ∧
        (startOf steps component).component.NotifiedOnce (steps.rollback component.componentId)
  | .stopOne componentId _ _ steps => ∀ component ∈ supervisor.components,
      component.componentId = componentId → component.NotifiedOnce steps
  | .shutdown _ steps =>
      (∀ component ∈ supervisor.components, component.NotifiedOnce (steps component.componentId) ∧
        ∀ raised, (stopOf "shutdown" steps component).outcome = .error raised → raised.text ≠ "") ∧
      ((∀ component ∈ supervisor.components, (stopOf "shutdown" steps component).Ended) →
        ∀ component ∈ supervisor.components, (stopOf "shutdown" steps component).outcome.isOk = true)
  | _ => True

/-- What holds in every state. -/
structure Kept (supervisor : RuntimeSupervisor) : Prop where
  once : ∀ component ∈ supervisor.components, component.Once
  first : supervisor.Recorded

end Promises

section Calls

variable {steps : StartAll} {supervisor after : RuntimeSupervisor}

theorem find_failed {before rest : List ManagedComponent} {component : ManagedComponent}
    (running : ∀ earlier ∈ before, earlier.state = .running) (failed : component.state = .failed) :
    ((before ++ [component]) ++ rest).find? (fun component => component.state = .failed) = some component := by
  have skipped : before.find? (fun component => decide (component.state = .failed)) = none := by
    rw [List.find?_eq_none]
    intro earlier listed
    simp [running earlier listed]
  rw [List.append_assoc, List.find?_append, skipped, Option.none_or, List.singleton_append,
    List.find?_cons_of_pos (by simpa using failed)]

theorem installed_kept {handlers : Except Raised Unit} (done : supervisor.installed handlers = .ok after) :
    after.components = supervisor.components ∧ after.attempts = supervisor.attempts ∧
      after.recorded = supervisor.recorded ∧ after.firstCause = supervisor.firstCause := by
  unfold installed at done
  split_ifs at done
  · cases Except.ok.inj done
    exact ⟨rfl, rfl, rfl, rfl⟩
  · split at done
    · cases done
    · cases Except.ok.inj done
      exact ⟨rfl, rfl, rfl, rfl⟩

theorem described_nonempty (raised : Raised) : raised.described ≠ "" := by
  intro empty
  have size := congrArg String.length empty
  cases raised with
  | contract message =>
    have parts : (Raised.contract message).described = "ContractError: " ++ message := rfl
    rw [parts, String.length_append] at size
    have lead : ("ContractError: ").length = 15 := rfl
    have none_left : ("").length = 0 := rfl
    omega
  | other type message =>
    have parts : (Raised.other type message).described = type ++ ": " ++ message := rfl
    rw [parts, String.length_append, String.length_append] at size
    have mark : (": ").length = 2 := rfl
    have none_left : ("").length = 0 := rfl
    omega

/-- The rollback of a startup, its culprit being named and its exception having a text. -/
theorem rolledBack_undone {launched : Launch} {component : ManagedComponent} {raised : Raised} {deadline : ℚ}
    (failed : supervisor.components.find? (fun component => component.state = .failed) = some component)
    (told : raised.text ≠ "") :
    ∃ later, (supervisor.rolledBack steps launched raised deadline).1.attempts =
        supervisor.attempts ++ attemptsOf launched.started.reverse deadline ∧
      (supervisor.rolledBack steps launched raised deadline).1.recorded =
        supervisor.recorded ++ ⟨component.componentId, "START_FAILED", raised.text, none⟩ :: later ∧
      (supervisor.rolledBack steps launched raised deadline).1.components =
        launched.started.map (fun component => (stopOf "startup rollback" steps.rollback component).component) ++
          launched.waiting := by
  unfold rolledBack
  rw [failed]
  obtain ⟨recorded, kept⟩ := @recordCause_ok supervisor component.componentId "START_FAILED" raised.text none
    component.named (by decide) told
  have described : ∀ component ∈ launched.started.reverse, ∀ raised,
      (stopOf "startup rollback" steps.rollback component).outcome = .error raised → raised.described ≠ "" := by
    exact fun _ _ raised _ => described_nonempty raised
  have all := @visit_all recorded _ _ _ deadline _ _ (show "START_ROLLBACK_FAILED" ≠ "" by decide) described
  have grows := @visit_grows recorded "startup rollback" "START_ROLLBACK_FAILED" Raised.described deadline
    steps.rollback launched.started.reverse
  obtain ⟨outcome, stopped, attempts⟩ := all
  obtain ⟨-, added, -, same⟩ := recordCause_grows kept
  obtain ⟨later, grown⟩ := grows.recorded
  refine ⟨later, ?_⟩
  dsimp only [Option.map_some, Option.getD_some]
  rw [kept]
  dsimp only
  rw [outcome]
  dsimp only
  refine ⟨?_, ?_, ?_⟩
  · rw [attempts, same]
  · rw [← grown, added, List.append_assoc, List.singleton_append]
  · rw [stopped, List.map_reverse, List.reverse_reverse]

theorem rolledBack_raises {launched : Launch} {raised : Raised} {deadline : ℚ} :
    ∃ again, (supervisor.rolledBack steps launched raised deadline).2 = .error again := by
  unfold rolledBack
  dsimp only
  split
  · exact ⟨_, rfl⟩
  · split <;> exact ⟨_, rfl⟩

theorem attemptsOf_map {change : ManagedComponent → ManagedComponent}
    (same : ∀ component, (change component).componentId = component.componentId)
    (components : List ManagedComponent) (deadline : ℚ) :
    attemptsOf (components.map change) deadline = attemptsOf components deadline := by
  unfold attemptsOf
  rw [List.map_map]
  apply List.map_congr_left
  intro component _
  exact congrArg (Attempt.mk · deadline) (same component)

theorem startAll_began (budget : ¬ steps.rollbackS < 0) {handled : RuntimeSupervisor}
    (installed : supervisor.installed steps.handlers = .ok handled)
    (began : ∀ component ∈ supervisor.components, (startOf steps component).outcome = .ok ()) :
    supervisor.startAll steps = (handled.launchedAs
      { started := supervisor.components.map fun component => (startOf steps component).component }, .ok ()) := by
  obtain ⟨same, -⟩ := installed_kept installed
  unfold startAll
  rw [if_neg budget, installed]
  dsimp only
  rw [same, launch_began began]

/-- The loop as the first start to raise leaves it. -/
def failedLaunch (steps : StartAll) (before : List ManagedComponent) (component : ManagedComponent)
    (rest : List ManagedComponent) (raised : Raised) : Launch :=
  let deadline := steps.clock component.componentId + steps.rollbackS
  { started := before.map (fun earlier => (startOf steps earlier).component) ++
      [(startOf steps component).component]
    waiting := rest
    attempts := ownAttempts steps component deadline
    failure := some (raised, deadline) }

theorem startAll_failing (budget : ¬ steps.rollbackS < 0) {handled : RuntimeSupervisor}
    (installed : supervisor.installed steps.handlers = .ok handled)
    {before rest : List ManagedComponent} {component : ManagedComponent} {raised : Raised}
    (first : FirstFailing steps supervisor.components before component rest raised) :
    supervisor.startAll steps =
      (handled.launchedAs (failedLaunch steps before component rest raised)).rolledBack steps
        (failedLaunch steps before component rest raised) raised
        (steps.clock component.componentId + steps.rollbackS) := by
  obtain ⟨same, -⟩ := installed_kept installed
  unfold startAll
  rw [if_neg budget, installed]
  dsimp only
  rw [same, launch_failed first]
  rfl

theorem failing_undone (budget : ¬ steps.rollbackS < 0) {handled : RuntimeSupervisor}
    (installed : supervisor.installed steps.handlers = .ok handled)
    {before rest : List ManagedComponent} {component : ManagedComponent} {raised : Raised}
    (first : FirstFailing steps supervisor.components before component rest raised)
    (told : raised.text ≠ "") (failed : (startOf steps component).component.state = .failed) :
    UndoneAt steps supervisor (supervisor.startAll steps).1 before component rest raised ∧
      (supervisor.startAll steps).1.components =
        (failedLaunch steps before component rest raised).started.map
          (fun component => (stopOf "startup rollback" steps.rollback component).component) ++ rest := by
  have running : ∀ earlier ∈ before.map (fun earlier => (startOf steps earlier).component),
      earlier.state = .running := by
    intro earlier listed
    obtain ⟨given, within, rfl⟩ := List.mem_map.mp listed
    exact started_running (first.began given within)
  have found : (handled.launchedAs (failedLaunch steps before component rest raised)).components.find?
      (fun component => component.state = .failed) = some (startOf steps component).component :=
    find_failed running failed
  have named : (failedLaunch steps before component rest raised).started =
      (before ++ [component]).map fun earlier => (startOf steps earlier).component := by
    rw [List.map_append]
    rfl
  obtain ⟨-, same, kept, -⟩ := installed_kept installed
  have rollback := @rolledBack_undone steps _ (failedLaunch steps before component rest raised) _ raised
    (steps.clock component.componentId + steps.rollbackS) found told
  rw [← startAll_failing budget installed first] at rollback
  obtain ⟨later, attempts, recorded, components⟩ := rollback
  refine ⟨⟨first, ?_, ?_, ?_, ?_⟩, components⟩
  · let deadline := steps.clock component.componentId + steps.rollbackS
    refine ⟨deadline, ownAttempts steps component deadline, ?_, ?_⟩
    · unfold ownAttempts
      split_ifs
      · exact List.prefix_refl _
      · exact List.nil_prefix
    · rw [attempts, named, ← List.map_reverse, attemptsOf_map started_componentId]
      unfold launchedAs
      rw [same]
      rfl
  · refine ⟨later, ?_⟩
    rw [recorded, started_componentId]
    unfold launchedAs
    rw [kept]
  · rw [components]
    exact List.suffix_append _ _
  · rw [components, named, first.order]
    simp [failedLaunch]

theorem startAll_promised (meets : supervisor.Meets (.startAll steps)) :
    supervisor.Promised (.startAll steps) := by
  unfold Promised
  dsimp only
  by_cases budget : steps.rollbackS < 0
  · unfold startAll
    rw [if_pos budget]
    exact .inl ⟨rfl, rfl⟩
  · cases installed : supervisor.installed steps.handlers with
    | error raised =>
      unfold startAll
      rw [if_neg budget, installed]
      exact .inl ⟨rfl, rfl⟩
    | ok handled =>
      rcases began_or_failing steps supervisor.components with began | ⟨before, component, rest, raised, first⟩
      · rw [startAll_began budget installed began]
        dsimp only [launchedAs]
        intro component listed
        rw [List.append_nil] at listed
        obtain ⟨given, within, rfl⟩ := List.mem_map.mp listed
        exact started_running (began given within)
      · obtain ⟨told, failed, -⟩ := meets before component rest raised first
        have undone := (failing_undone budget installed first told failed).1
        have raises := @rolledBack_raises steps (handled.launchedAs (failedLaunch steps before component rest raised))
          (failedLaunch steps before component rest raised) raised
          (steps.clock component.componentId + steps.rollbackS)
        rw [← startAll_failing budget installed first] at raises
        obtain ⟨again, raises⟩ := raises
        split
        · rename_i after done answered
          rw [answered] at raises
          cases raises
        · rename_i after again answered
          rw [answered] at undone
          exact .inr ⟨before, component, rest, raised, undone⟩

theorem shutdown_promised {deadline : ℚ} {steps : String → Stopping}
    (meets : supervisor.Meets (.shutdown deadline steps)) : supervisor.Promised (.shutdown deadline steps) := by
  obtain ⟨stops, quiet⟩ := meets
  have told : ∀ component ∈ supervisor.components.reverse, ∀ raised,
      (stopOf "shutdown" steps component).outcome = .error raised → raised.text ≠ "" :=
    fun component listed => (stops component (List.mem_reverse.mp listed)).2
  obtain ⟨outcome, stopped, attempts⟩ :=
    @visit_all supervisor _ _ _ deadline _ _ (show "CLEANUP_ERROR" ≠ "" by decide) told
  have all_stopped : (supervisor.shutdown deadline steps).1.components =
      supervisor.components.map fun component => (stopOf "shutdown" steps component).component := by
    unfold shutdown
    dsimp only
    rw [outcome, stopped, List.map_reverse, List.reverse_reverse]
  let returned := supervisor.components.reverse.all fun component =>
    (stopOf "shutdown" steps component).outcome.isOk
  let resting := (supervisor.shutdown deadline steps).1.components.all fun component => component.state = .stopped
  have answered : (supervisor.shutdown deadline steps).2 = .ok (returned && resting) := by
    unfold resting shutdown
    dsimp only
    rw [outcome]
  refine ⟨returned && resting, answered, ?_, all_stopped, ?_⟩
  · unfold shutdown
    dsimp only
    rw [outcome]
    exact attempts
  · unfold returned resting
    rw [all_stopped]
    simp only [Bool.and_eq_true, List.all_reverse, List.all_eq_true, List.forall_mem_map, decide_eq_true_eq]
    constructor
    · rintro ⟨returned, -⟩ component listed
      exact ManagedComponent.stop_stops.ended (returned component listed)
    · intro ended
      exact ⟨quiet ended, fun component listed => (ended component listed).1⟩

theorem startOf_once {component : ManagedComponent} (once : component.Once) :
    (startOf steps component).component.Once := ManagedComponent.start_starts.once once

theorem startAll_kept (kept : supervisor.Kept) (meets : supervisor.Meets (.startAll steps)) :
    ∀ component ∈ (supervisor.startAll steps).1.components, component.Once := by
  by_cases budget : steps.rollbackS < 0
  · unfold startAll
    rw [if_pos budget]
    exact kept.once
  · cases installed : supervisor.installed steps.handlers with
    | error raised =>
      unfold startAll
      rw [if_neg budget, installed]
      exact kept.once
    | ok handled =>
      rcases began_or_failing steps supervisor.components with began | ⟨before, component, rest, raised, first⟩
      · rw [startAll_began budget installed began]
        dsimp only [launchedAs]
        intro component listed
        rw [List.append_nil] at listed
        obtain ⟨given, within, rfl⟩ := List.mem_map.mp listed
        exact startOf_once (kept.once given within)
      · obtain ⟨told, failed, notified⟩ := meets before component rest raised first
        have within := first.order ▸ kept.once
        rw [(failing_undone budget installed first told failed).2]
        intro other listed
        rcases List.mem_append.mp listed with visited | waiting
        · obtain ⟨given, started, rfl⟩ := List.mem_map.mp visited
          rcases List.mem_append.mp started with earlier | last
          · obtain ⟨one, early, rfl⟩ := List.mem_map.mp earlier
            have once := within one (List.mem_append_left _ early)
            have returned := ManagedComponent.start_starts.returned
              (show (startOf steps one).outcome.isOk = true by rw [first.began one early]; rfl)
            apply (startOf_once once).stop
            intro _
            exact returned.2.2.2.trans (once.processless returned.1)
          · rw [List.mem_singleton.mp last]
            have once := within component (List.mem_append_right _ List.mem_cons_self)
            apply (startOf_once once).stop
            rw [started_componentId]
            exact notified
        · exact within other (List.mem_append_right _ (List.mem_cons_of_mem _ waiting))

theorem rolledBack_grows {launched : Launch} {raised : Raised} {deadline : ℚ} :
    supervisor.Grows (supervisor.rolledBack steps launched raised deadline).1 := by
  unfold rolledBack
  dsimp only
  split
  · exact Grows.of_same rfl rfl
  · rename_i recorded done
    have grown := (recordCause_grows done).1.trans (@visit_grows recorded "startup rollback"
      "START_ROLLBACK_FAILED" Raised.described deadline steps.rollback launched.started.reverse)
    split <;> exact grown.trans (Grows.of_same rfl rfl)

theorem startAll_grows : supervisor.Grows (supervisor.startAll steps).1 := by
  unfold startAll
  split
  · exact Grows.of_same rfl rfl
  · split
    · exact Grows.of_same rfl rfl
    · rename_i handled installed
      obtain ⟨-, -, recorded, first⟩ := installed_kept installed
      have grown : supervisor.Grows (handled.launchedAs (launch steps handled.components)) :=
        Grows.of_same recorded first
      dsimp only
      split
      · exact grown
      · exact grown.trans rolledBack_grows

theorem recording_grows {componentId reasonCode detail : String} {exitCode : Option Int} :
    supervisor.Grows (supervisor.recording componentId reasonCode detail exitCode).1 ∧
      (supervisor.recording componentId reasonCode detail exitCode).1.components = supervisor.components := by
  unfold recording
  split
  · exact ⟨Grows.of_same rfl rfl, rfl⟩
  · rename_i done
    exact ⟨(recordCause_grows done).1, (recordCause_grows done).2.2.1⟩

theorem pollLoop_kept {steps : String → Polling} {rest : List ManagedComponent} (polled : List ManagedComponent)
    (before : ∀ component ∈ polled, component.Once) (later : ∀ component ∈ rest, component.Once) :
    supervisor.Grows (pollLoop steps polled supervisor rest).1 ∧
      ∀ component ∈ (pollLoop steps polled supervisor rest).1.components, component.Once := by
  induction rest generalizing polled supervisor with
  | nil => exact ⟨Grows.of_same rfl rfl, before⟩
  | cons component rest ih =>
    have seen : (component.observe (steps component.componentId).seen).1.Once :=
      (later component List.mem_cons_self).observe _
    have others : ∀ other ∈ rest, other.Once := fun other listed => later other (List.mem_cons_of_mem _ listed)
    have reached : ∀ other ∈ polled ++ [(component.observe (steps component.componentId).seen).1], other.Once := by
      intro other listed
      rcases List.mem_append.mp listed with early | last
      · exact before other early
      · exact List.mem_singleton.mp last ▸ seen
    have all : ∀ other ∈ polled ++ (component.observe (steps component.componentId).seen).1 :: rest,
        other.Once := by
      intro other listed
      rcases List.mem_append.mp listed with early | last
      · exact before other early
      · exact List.forall_mem_cons.mpr ⟨seen, others⟩ other last
    unfold pollLoop
    dsimp only
    split
    · exact ⟨Grows.of_same rfl rfl, all⟩
    · obtain ⟨grown, once⟩ := @ih { supervisor with
        components := polled ++ (component.observe (steps component.componentId).seen).1 :: rest } _ reached others
      exact ⟨⟨grown.recorded, grown.first⟩, once⟩
    · split
      · exact ⟨Grows.of_same rfl rfl, all⟩
      · rename_i recorded done
        obtain ⟨grown, -, same, -⟩ := recordCause_grows done
        exact ⟨⟨grown.recorded, grown.first⟩, same ▸ all⟩

theorem shutdown_kept {deadline : ℚ} {steps : String → Stopping} (kept : supervisor.Kept)
    (meets : supervisor.Meets (.shutdown deadline steps)) :
    supervisor.Grows (supervisor.shutdown deadline steps).1 ∧
      ∀ component ∈ (supervisor.shutdown deadline steps).1.components, component.Once := by
  have grown := @visit_grows supervisor "shutdown" "CLEANUP_ERROR" Raised.text deadline steps
    supervisor.components.reverse
  have once := @visit_once supervisor "shutdown" "CLEANUP_ERROR" Raised.text deadline steps
    supervisor.components.reverse (fun component listed => kept.once component (List.mem_reverse.mp listed))
    fun component listed => (meets.1 component (List.mem_reverse.mp listed)).1
  unfold shutdown
  dsimp only
  split
  · exact ⟨grown.trans (Grows.of_same rfl rfl), fun component listed => once component (List.mem_reverse.mp listed)⟩
  · exact ⟨grown.trans (Grows.of_same rfl rfl), fun component listed => once component (List.mem_reverse.mp listed)⟩

theorem step_grows {call : Call} (kept : supervisor.Kept) (meets : supervisor.Meets call) :
    supervisor.Grows (supervisor.step call) ∧ (supervisor.step call).Kept := by
  have both : supervisor.Grows (supervisor.step call) ∧
      ∀ component ∈ (supervisor.step call).components, component.Once := by
    cases call with
    | startAll steps => exact ⟨startAll_grows, startAll_kept kept meets⟩
    | startOne componentId steps =>
      refine ⟨Grows.of_same rfl rfl, ?_⟩
      intro component listed
      obtain ⟨given, within, rfl⟩ := List.mem_map.mp listed
      split_ifs
      · exact ManagedComponent.start_starts.once (kept.once given within)
      · exact kept.once given within
    | pollOnce steps => exact pollLoop_kept [] (fun _ listed => absurd listed List.not_mem_nil) kept.once
    | stopOne componentId reason deadline steps =>
      refine ⟨Grows.of_same rfl rfl, ?_⟩
      intro component listed
      obtain ⟨given, within, rfl⟩ := List.mem_map.mp listed
      split_ifs with named
      · exact (kept.once given within).stop (meets given within named)
      · exact kept.once given within
    | shutdown deadline steps => exact shutdown_kept kept meets
    | recordCause componentId reasonCode detail exitCode =>
      obtain ⟨grown, same⟩ := @recording_grows supervisor componentId reasonCode detail exitCode
      exact ⟨grown, fun component listed => kept.once component (same ▸ listed)⟩
    | requestShutdown reason =>
      obtain ⟨grown, same⟩ := @recording_grows { supervisor with shutdownRequested := true } "supervisor"
        "SHUTDOWN_REQUESTED" reason none
      exact ⟨⟨grown.recorded, grown.first⟩,
        fun component listed => kept.once component (same ▸ listed)⟩
  exact ⟨both.1, both.2, both.1.first kept.first⟩

/-- A call that keeps its promise and replaces no first cause. -/
structure Fulfilled (supervisor : RuntimeSupervisor) (call : Call) : Prop where
  promised : supervisor.Promised call
  recorded : supervisor.recorded <+: (supervisor.step call).recorded
  first : ∀ cause, supervisor.firstCause = some cause → (supervisor.step call).firstCause = some cause

theorem step_fulfilled {call : Call} (kept : supervisor.Kept) (meets : supervisor.Meets call) :
    supervisor.Fulfilled call := by
  obtain ⟨grown, -⟩ := step_grows kept meets
  refine ⟨?_, grown.recorded, fun cause first => grown.keeps kept.first first⟩
  cases call with
  | startAll steps => exact startAll_promised meets
  | shutdown deadline steps => exact shutdown_promised meets
  | _ => trivial

/-- A supervisor whose components have come to no end yet. -/
def opened (components : List ManagedComponent) : RuntimeSupervisor :=
  { components := components.map fun component => { component with stoppedCalls := 0 } }

theorem opened_kept (components : List ManagedComponent) : (opened components).Kept := by
  refine ⟨?_, rfl⟩
  intro component listed
  obtain ⟨given, -, rfl⟩ := List.mem_map.mp listed
  exact ⟨Nat.zero_le _, fun _ => rfl⟩

theorem along_fulfilled {calls : List Call} (kept : supervisor.Kept) (meets : Along step Meets supervisor calls) :
    Along step Fulfilled supervisor calls ∧ Throughout step Kept supervisor calls := by
  induction calls generalizing supervisor with
  | nil => exact ⟨trivial, throughout_nil.mpr kept⟩
  | cons call rest ih =>
    obtain ⟨later, throughout⟩ := ih (step_grows kept meets.1).2 meets.2
    exact ⟨⟨step_fulfilled kept meets.1, later⟩, throughout_cons.mpr ⟨kept, throughout⟩⟩

/-- Every call of a run whose exceptions have texts, whose failed starts leave FAILED and whose
    callbacks are come to once does all its cleanup. -/
theorem cleanup_visits_all (components : List ManagedComponent) (calls : List Call)
    (meets : Along step Meets (opened components) calls) :
    Along step Fulfilled (opened components) calls ∧ Throughout step Kept (opened components) calls :=
  along_fulfilled (opened_kept components) meets

theorem FirstFailing.not_began {components before rest : List ManagedComponent} {component : ManagedComponent}
    {raised : Raised} (first : FirstFailing steps components before component rest raised) :
    ¬ ∀ component ∈ components, (startOf steps component).outcome = .ok () := by
  intro began
  have ok := began component (first.order ▸ List.mem_append_right _ List.mem_cons_self)
  rw [first.failed] at ok
  cases ok

end Calls

section Textless

def rayHead : ManagedComponent := { componentId := "ray_head", named := by decide, hasOnStopped := true }

def serveProxy : ManagedComponent := { componentId := "proxy", named := by decide, hasOnStarted := true }

/-- Both children are made; the callback of the second raises an exception without a text. -/
def textless : StartAll where
  starting := fun componentId => {
    popen := .spawned (if componentId = "ray_head" then 4100 else 4200)
    onStarted := .error (.other "RuntimeError" "") }

/-- The recording of the cause raises before the rollback: the head of Ray keeps running and
    nothing is recorded. -/
theorem textless_start_leaks : ¬ Along step Fulfilled (opened [rayHead, serveProxy]) [.startAll textless] := by
  intro fulfilled
  have promised := fulfilled.1.promised
  unfold Promised at promised
  dsimp only at promised
  have raised : (startAll textless (opened [rayHead, serveProxy])).2 =
      .error (valueFault "failure cause detail must be non-empty text") := rfl
  have unrecorded : (startAll textless (opened [rayHead, serveProxy])).1.recorded = [] := rfl
  have running : (startAll textless (opened [rayHead, serveProxy])).1.components.map ManagedComponent.state =
      [.running, .failed] := rfl
  split at promised
  · rename_i after done answered
    rw [answered] at raised
    cases raised
  · rename_i after again answered
    rw [answered] at unrecorded running
    dsimp only at unrecorded running
    rcases promised with ⟨same, -⟩ | ⟨before, component, rest, raised, undone⟩
    · rw [same] at running
      exact absurd running (by decide)
    · obtain ⟨later, recorded⟩ := undone.recorded
      rw [unrecorded] at recorded
      exact absurd recorded.symm (by simp)

def orderly : StartAll where
  starting := fun _ => { popen := .spawned 4100 }

theorem ray_head_cleaned : Along step Fulfilled (opened [rayHead]) [.startAll orderly, .shutdown 30 fun _ => {}] ∧
    Throughout step Kept (opened [rayHead]) [.startAll orderly, .shutdown 30 fun _ => {}] := by
  apply cleanup_visits_all [rayHead] [.startAll orderly, .shutdown 30 fun _ => {}]
  refine ⟨?_, ?_, trivial⟩
  · intro before component rest raised first
    apply absurd _ first.not_began
    intro component listed
    rw [List.mem_singleton.mp listed]
    rfl
  · have left : ((opened [rayHead]).step (.startAll orderly)).components =
        [{ rayHead with process := some 4100, state := .running }] := rfl
    unfold Meets
    dsimp only
    rw [left]
    simp only [List.forall_mem_singleton]
    refine ⟨⟨fun _ => rfl, ?_⟩, fun _ => rfl⟩
    intro raised failed
    cases failed

end Textless

end RuntimeSupervisor

end ExaServe.Control.Supervision
