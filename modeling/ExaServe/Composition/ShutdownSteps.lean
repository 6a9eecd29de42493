import ExaServe.Composition.Shutdown
import ExaServe.Control.Supervision.Cleanup

namespace ExaServe.Composition

open Lib Plan Control Supervision State.Status

theorem append_nonempty {lead : String} (given : lead ≠ "") (rest : String) : lead ++ rest ≠ "" := by
  intro empty
  have size := congrArg String.length empty
  rw [String.length_append] at size
  have none_left : ("").length = 0 := rfl
  exact given (String.length_eq_zero_iff.mp (by omega))

theorem orElse_kept {cause : String} (told : cause ≠ "") (errors : List String) :
    errors.foldl orElse (some cause) = some cause := by
  induction errors with
  | nil => rfl
  | cons error rest ih =>
    have held : orElse (some cause) error = some cause := by simp [orElse, told]
    rw [List.foldl_cons, held, ih]

namespace Progress

/-- The root but for its first cause. -/
def uncaused (progress : Progress) : CompositionRoot := { progress.root with firstCause := none }

/-- What the recording of errors and attempts leaves alone. -/
def rest (progress : Progress) : CompositionRoot × Bool × String :=
  (progress.uncaused, progress.channelClean, progress.terminalPublication)

structure Consistent (cause : Option String) (progress : Progress) : Prop where
  clean : progress.clean = true ↔ progress.errors = []
  told : "" ∉ progress.errors
  cause : progress.root.firstCause = progress.errors.foldl orElse cause

/-- A part of the shutdown that no exception leaves: the steps it attempts, and records that
    only grow. -/
structure Stage (before after : Progress) (steps : List CleanupStep) : Prop where
  aborted : after.aborted = none
  attempted : after.attempted = before.attempted ++ steps
  errors : before.errors <+: after.errors
  consistent : ∀ cause, before.Consistent cause → after.Consistent cause

variable {before middle after : Progress} {first second : List CleanupStep}

theorem Stage.trans (one : Stage before middle first) (two : Stage middle after second) :
    Stage before after (first ++ second) := by
  refine ⟨two.aborted, ?_, one.errors.trans two.errors, fun cause kept => two.consistent cause (one.consistent cause kept)⟩
  rw [two.attempted, one.attempted, List.append_assoc]

theorem Stage.refl (running : before.aborted = none) : Stage before before [] :=
  ⟨running, (List.append_nil _).symm, List.prefix_refl _, fun _ => id⟩

theorem Stage.andThen (one : Stage before middle first) {next : Progress → Progress}
    (two : Stage middle (next middle) second) : Stage before (middle.andThen next) (first ++ second) := by
  unfold Progress.andThen
  rw [one.aborted]
  exact one.trans two

theorem andThen_running (running : before.aborted = none) (next : Progress → Progress) :
    before.andThen next = next before := by
  unfold andThen
  rw [running]
  rfl

theorem Stage.of_same (running : after.aborted = none) (attempted : after.attempted = before.attempted)
    (errors : after.errors = before.errors) (clean : after.clean = before.clean)
    (cause : after.root.firstCause = before.root.firstCause) : Stage before after [] := by
  refine ⟨running, by rw [attempted, List.append_nil], by rw [errors], ?_⟩
  intro _ kept
  exact ⟨by rw [clean, errors]; exact kept.clean, by rw [errors]; exact kept.told,
    by rw [cause, errors]; exact kept.cause⟩

theorem attempting_stage (running : before.aborted = none) (step : CleanupStep) :
    Stage before (before.attempting step) [step] :=
  ⟨running, rfl, List.prefix_refl _, fun _ kept => ⟨kept.clean, kept.told, kept.cause⟩⟩

theorem cleanupFailed_stage (running : before.aborted = none) {detail : String} (told : detail ≠ "") :
    Stage before (before.cleanupFailed detail) [] := by
  refine ⟨running, (List.append_nil _).symm, List.prefix_append _ _, ?_⟩
  intro cause kept
  refine ⟨by simp [cleanupFailed], ?_, ?_⟩
  · intro empty
    rcases List.mem_append.mp empty with earlier | now
    · exact kept.told earlier
    · exact told (List.mem_singleton.mp now).symm
  · dsimp only [cleanupFailed]
    rw [List.foldl_append, ← kept.cause]
    rfl

theorem cleanupFailed_rest (detail : String) : (before.cleanupFailed detail).rest = before.rest := rfl

theorem attempting_rest (step : CleanupStep) : (before.attempting step).rest = before.rest := rfl

section Handlers

variable {exceptions : Exceptions} {handled : List ExceptionClass} {detail : Raised → String}

theorem handling_caught {raised : Raised} (caught : exceptions.caught handled raised = true) :
    before.handling exceptions handled detail raised = before.cleanupFailed (detail raised) := by
  unfold handling
  rw [if_pos caught]

theorem attempt_stage (running : before.aborted = none) (told : ∀ raised, detail raised ≠ "")
    {outcome : Except Raised Unit}
    (caught : ∀ raised, outcome = .error raised → exceptions.caught handled raised = true) :
    Stage before (before.attempt exceptions handled detail outcome) [] ∧
      (before.attempt exceptions handled detail outcome).rest = before.rest := by
  unfold attempt
  split
  · exact ⟨Stage.refl running, rfl⟩
  · rename_i raised
    rw [handling_caught (caught raised rfl)]
    exact ⟨cleanupFailed_stage running (told raised), rfl⟩

theorem attemptStop_stage (running : before.aborted = none) (told : ∀ raised, detail raised ≠ "")
    {unclean : String} (said : unclean ≠ "") {outcome : Except Raised Bool}
    (caught : ∀ raised, outcome = .error raised → exceptions.caught handled raised = true) :
    Stage before (before.attemptStop exceptions handled detail unclean outcome) [] ∧
      (before.attemptStop exceptions handled detail unclean outcome).rest = before.rest := by
  unfold attemptStop
  split
  · exact ⟨Stage.refl running, rfl⟩
  · exact ⟨cleanupFailed_stage running said, rfl⟩
  · rename_i raised
    rw [handling_caught (caught raised rfl)]
    exact ⟨cleanupFailed_stage running (told raised), rfl⟩

end Handlers

/-- What the parts before the reports leave alone. -/
structure Carried (before after : Progress) : Prop where
  status : after.root.status = before.root.status
  draining : after.root.draining = before.root.draining
  cancelling : after.root.cancelling = before.root.cancelling
  reports : after.root.reports = before.root.reports
  publication : after.terminalPublication = before.terminalPublication
  headChannel : after.root.hasHeadChannel = before.root.hasHeadChannel
  started : after.root.startBroadcast = before.root.startBroadcast
  supervisorCause : ∀ cause, before.root.supervisor.firstCause = some cause →
    after.root.supervisor.firstCause = some cause

theorem Carried.refl : Carried before before := ⟨rfl, rfl, rfl, rfl, rfl, rfl, rfl, fun _ => id⟩

theorem Carried.trans (one : Carried before middle) (two : Carried middle after) : Carried before after :=
  ⟨two.status.trans one.status, two.draining.trans one.draining, two.cancelling.trans one.cancelling,
    two.reports.trans one.reports, two.publication.trans one.publication, two.headChannel.trans one.headChannel,
    two.started.trans one.started, fun cause first => two.supervisorCause cause (one.supervisorCause cause first)⟩

theorem Carried.of_rest (same : after.rest = before.rest) : Carried before after := by
  have root : after.uncaused = before.uncaused := congrArg Prod.fst same
  refine ⟨?_, ?_, ?_, ?_, congrArg (fun kept => kept.2.2) same, ?_, ?_, ?_⟩
  · exact (congrArg CompositionRoot.status root :)
  · exact (congrArg CompositionRoot.draining root :)
  · exact (congrArg CompositionRoot.cancelling root :)
  · exact (congrArg CompositionRoot.reports root :)
  · exact (congrArg CompositionRoot.hasHeadChannel root :)
  · exact (congrArg CompositionRoot.startBroadcast root :)
  · have supervisor : after.root.supervisor = before.root.supervisor :=
      (congrArg CompositionRoot.supervisor root :)
    rw [supervisor]
    exact fun _ => id

theorem attempting_carried (step : CleanupStep) : Carried before (before.attempting step) :=
  ⟨rfl, rfl, rfl, rfl, rfl, rfl, rfl, fun _ => id⟩

theorem withoutPortLease_carried : Carried before before.withoutPortLease :=
  ⟨rfl, rfl, rfl, rfl, rfl, rfl, rfl, fun _ => id⟩

theorem withoutListener_carried : Carried before before.withoutListener :=
  ⟨rfl, rfl, rfl, rfl, rfl, rfl, rfl, fun _ => id⟩

/-- The resources of the process itself that are still to be released. -/
def resources (root : CompositionRoot) : Bool × Bool × Bool × Bool :=
  (root.hasPortLease, root.hasListener, root.hasObserver, root.hasIngress)

end Progress

/-- Every exception of a step is of a kind that its handler takes, and the calls without a
    handler return. -/
structure Handled (exceptions : Exceptions) {numNodes : Nat} (steps : Steps numNodes) : Prop where
  drainStatus : ∀ raised, steps.drainStatus = .refused raised ∨ steps.drainStatus = .uncertain raised →
    exceptions.caught [.statusConflict, .osError, .valueError, .runtimeError] raised = true
  gateway : ∀ (component : ManagedComponent) reason raised,
    (component.stop reason steps.gateway).outcome = .error raised →
    exceptions.caught [.osError, .runtimeError, .valueError] raised = true
  deployment : ∀ (component : ManagedComponent) reason raised,
    (component.stop reason steps.deployment).outcome = .error raised →
    exceptions.caught [.osError, .runtimeError, .valueError] raised = true
  broadcast : steps.broadcast.isOk = true
  goodbyes : steps.goodbyes.isOk = true
  stops : ∀ (component : ManagedComponent) raised,
    (component.stop "shutdown" (steps.stops component.componentId)).outcome = .error raised → raised.text ≠ ""
  portLease : ∀ raised, steps.portLease = .error raised →
    exceptions.caught [.osError, .runtimeError] raised = true
  listener : ∀ raised, steps.listener = .error raised → exceptions.caught [.osError] raised = true
  observer : ∀ raised, steps.observer = .error raised →
    exceptions.caught [.osError, .runtimeError] raised = true
  ingress : ∀ raised, steps.ingress = .error raised → exceptions.caught [.osError] raised = true
  channel : ∀ raised, steps.channel = .error raised →
    exceptions.caught [.osError, .runtimeError] raised = true
  firstReport : ∀ raised, steps.firstReport = .failed raised ∨ steps.firstReport = .uncertain raised →
    exceptions.caught [.osError, .runtimeError, .typeError, .valueError] raised = true
  terminal : ∀ raised, steps.terminal = .refused raised ∨ steps.terminal = .uncertain raised →
    exceptions.caught [.statusConflict, .osError, .valueError, .runtimeError] raised = true
  lastReport : ∀ raised, steps.lastReport = .failed raised ∨ steps.lastReport = .uncertain raised →
    exceptions.caught [.osError, .runtimeError, .typeError, .valueError] raised = true

section Parts

variable {exceptions : Exceptions} {numNodes : Nat} {steps : Steps numNodes} {before : Progress}

open Progress

theorem refusal_told (publisher : DeploymentStatusPublisher) (new : DeploymentState) (commit : Commit)
    (handled : ∀ raised, commit = .refused raised ∨ commit = .uncertain raised →
      exceptions.caught [.statusConflict, .osError, .valueError, .runtimeError] raised = true)
    {raised : Raised} (failed : (publisher.advance exceptions new commit).2 = .error raised) :
    exceptions.caught [.publicationError, .runtimeError, .valueError] raised = true := by
  have published : ∀ text, exceptions.caught [.publicationError, .runtimeError, .valueError]
      (publicationError text) = true := by
    intro text
    simp [Exceptions.caught, exceptions.publication text]
  have converted : ∀ given, commit = .refused given ∨ commit = .uncertain given → ∀ refusal text,
      refusal = publicationError text →
      exceptions.caught [.publicationError, .runtimeError, .valueError]
        (if exceptions.caught [.statusConflict, .osError, .valueError] given then refusal else given) = true := by
    intro given asked refusal text named
    split_ifs with listed
    · rw [named]
      exact published text
    · have known := handled given asked
      simp only [Exceptions.caught, List.any_cons, List.any_nil, Bool.or_false, Bool.or_eq_true] at known listed ⊢
      tauto
  unfold DeploymentStatusPublisher.advance at failed
  dsimp only at failed
  by_cases fresh : publisher.initialized = false
  · rw [if_pos fresh] at failed
    cases Except.error.inj failed
    exact published _
  by_cases illegal : new ∉ publisher.state.transitions
  · rw [if_neg fresh, if_pos illegal] at failed
    cases Except.error.inj failed
    exact published _
  by_cases stale : publisher.stored ≠ publisher.state
  · rw [if_neg fresh, if_neg illegal, if_pos stale] at failed
    cases Except.error.inj failed
    exact published _
  rw [if_neg fresh, if_neg illegal, if_neg stale] at failed
  split at failed
  · cases failed
  · cases Except.error.inj failed
    exact converted _ (.inl rfl) _ _ rfl
  · cases Except.error.inj failed
    exact converted _ (.inr rfl) _ _ rfl

theorem beginStatus_stage (handled : Handled exceptions steps) (running : before.aborted = none) :
    Stage before (beginStatus exceptions steps before) [] ∧
      (beginStatus exceptions steps before).root.supervisor = before.root.supervisor ∧
      (beginStatus exceptions steps before).root.reports = before.root.reports ∧
      (beginStatus exceptions steps before).root.hasHeadChannel = before.root.hasHeadChannel ∧
      (beginStatus exceptions steps before).root.startBroadcast = before.root.startBroadcast ∧
      resources (beginStatus exceptions steps before).root = resources before.root ∧
      (beginStatus exceptions steps before).channelClean = before.channelClean ∧
      (beginStatus exceptions steps before).terminalPublication = before.terminalPublication := by
  unfold beginStatus
  split
  · exact ⟨Stage.refl running, rfl, rfl, rfl, rfl, rfl, rfl, rfl⟩
  · rename_i publisher present
    split_ifs
    · cases advanced : publisher.advance exceptions .draining steps.drainStatus with
      | mk after outcome =>
        dsimp only
        cases outcome with
        | ok _ => exact ⟨Stage.of_same running rfl rfl rfl rfl, rfl, rfl, rfl, rfl, rfl, rfl, rfl⟩
        | error raised =>
          dsimp only
          rw [handling_caught (refusal_told publisher .draining _ handled.drainStatus (by rw [advanced]))]
          refine ⟨?_, rfl, rfl, rfl, rfl, rfl, rfl, rfl⟩
          have kept : Stage before (before.withStatus after) [] :=
            Stage.of_same running rfl rfl rfl rfl
          refine kept.trans (cleanupFailed_stage kept.aborted ?_)
          exact append_nonempty (by decide) _
    · exact ⟨Stage.of_same running rfl rfl rfl rfl, rfl, rfl, rfl, rfl, rfl, rfl, rfl⟩
    · exact ⟨Stage.refl running, rfl, rfl, rfl, rfl, rfl, rfl, rfl⟩

theorem stopGlobalComponent_stage {stopping : Stopping} (componentId : Option String) (reason : String)
    (handled : ∀ (component : ManagedComponent) reason raised,
      (component.stop reason stopping).outcome = .error raised →
      exceptions.caught [.osError, .runtimeError, .valueError] raised = true)
    (running : before.aborted = none) :
    Stage before (stopGlobalComponent exceptions componentId reason stopping before) [] ∧
      Carried before (stopGlobalComponent exceptions componentId reason stopping before) ∧
      resources (stopGlobalComponent exceptions componentId reason stopping before).root = resources before.root ∧
      (stopGlobalComponent exceptions componentId reason stopping before).channelClean = before.channelClean := by
  unfold stopGlobalComponent
  split
  · exact ⟨Stage.refl running, Carried.refl, rfl, rfl⟩
  · rename_i component found
    have moved : ∀ components, Stage before
        (before.withSupervisor { before.root.supervisor with components }) [] :=
      fun _ => Stage.of_same running rfl rfl rfl rfl
    have told : ∀ raised, orderedFailure component raised ≠ "" :=
      fun raised => append_nonempty (append_nonempty component.named _) _
    dsimp only
    obtain ⟨stage, same⟩ := attempt_stage (moved _).aborted told (handled component reason)
    refine ⟨(moved _).trans stage, Carried.trans ?_ (Carried.of_rest same), ?_, ?_⟩
    · exact ⟨rfl, rfl, rfl, rfl, rfl, rfl, rfl, fun _ => id⟩
    · exact (congrArg (fun kept => resources kept.1) same :)
    · exact (congrArg (fun kept => kept.2.1) same :)

theorem incomplete_told (acknowledged goodbyes : Nat) : incomplete numNodes acknowledged goodbyes ≠ "" := by
  unfold incomplete
  repeat apply append_nonempty
  decide

theorem drainRanks_stage (unavailable : Bool) (handled : Handled exceptions steps) (running : before.aborted = none) :
    Stage before (drainRanks steps unavailable before) [] ∧
      (drainRanks steps unavailable before).rest = before.rest ∧
      ((drainRanks steps unavailable before).errors = before.errors → unavailable = false →
        ∃ drain, steps.broadcast = .ok drain ∧ drain.acknowledgedCount = numNodes ∧
          drain.goodbyeCount = numNodes) := by
  unfold drainRanks
  cases asked : steps.broadcast with
  | error raised =>
    have returned := handled.broadcast
    rw [asked] at returned
    cases returned
  | ok drain =>
    cases waited : steps.goodbyes with
    | error raised =>
      have returned := handled.goodbyes
      rw [waited] at returned
      cases returned
    | ok _ =>
      dsimp only
      by_cases short : drain.acknowledgedCount ≠ numNodes ∨ drain.goodbyeCount ≠ numNodes
      · rw [if_pos short]
        cases unavailable with
        | true => exact ⟨Stage.refl running, rfl, fun _ required => absurd required (by decide)⟩
        | false =>
          refine ⟨cleanupFailed_stage running ?_, rfl, ?_⟩
          · exact incomplete_told _ _
          · intro unchanged
            exact absurd (congrArg List.length unchanged) (by simp [cleanupFailed])
      · rw [if_neg short]
        rw [not_or, not_not, not_not] at short
        exact ⟨Stage.refl running, rfl, fun _ _ => ⟨drain, rfl, short⟩⟩

theorem drainDeployment_stage (handled : Handled exceptions steps) (running : before.aborted = none) :
    Stage before (drainDeployment exceptions steps before) [] ∧
      Carried before (drainDeployment exceptions steps before) ∧
      resources (drainDeployment exceptions steps before).root = resources before.root ∧
      (drainDeployment exceptions steps before).channelClean = before.channelClean ∧
      ((drainDeployment exceptions steps before).errors = before.errors →
        before.root.hasHeadChannel = true → before.root.startBroadcast = true →
        rankSessionsMayBeUnavailable before.root = false →
        ∃ drain, steps.broadcast = .ok drain ∧ drain.acknowledgedCount = numNodes ∧
          drain.goodbyeCount = numNodes) := by
  unfold drainDeployment
  by_cases broadcast : before.root.hasHeadChannel = true ∧ before.root.startBroadcast = true
  · rw [if_pos broadcast]
    dsimp only
    cases lost : rankSessionsMayBeUnavailable before.root with
    | true =>
      rw [if_pos rfl, andThen_running running]
      obtain ⟨stage, same, -⟩ := drainRanks_stage true handled running
      exact ⟨stage, Carried.of_rest same, (congrArg (fun kept => resources kept.1) same :),
        (congrArg (fun kept => kept.2.1) same :), fun _ _ _ known => absurd known (by decide)⟩
    | false =>
      rw [if_neg Bool.false_ne_true]
      obtain ⟨gateway, carried, kept, channel⟩ := stopGlobalComponent_stage before.root.gatewayComponent
        "revoke ingress before deployment drain" handled.gateway running
      rw [andThen_running gateway.aborted]
      obtain ⟨deployment, onwards, still, later⟩ := stopGlobalComponent_stage
        (stopGlobalComponent exceptions before.root.gatewayComponent "revoke ingress before deployment drain"
          steps.gateway before).root.deploymentComponent
        "drain deployment before rank-local Ray shutdown" handled.deployment gateway.aborted
      rw [andThen_running deployment.aborted]
      obtain ⟨ranks, same, drained⟩ := drainRanks_stage false handled deployment.aborted
      refine ⟨gateway.trans (deployment.trans ranks), carried.trans (onwards.trans (Carried.of_rest same)), ?_, ?_, ?_⟩
      · exact (congrArg (fun kept => resources kept.1) same :).trans (still.trans kept)
      · exact (congrArg (fun kept => kept.2.1) same :).trans (later.trans channel)
      · intro unchanged _ _ _
        apply drained _ rfl
        have first := gateway.errors.length_le
        have second := deployment.errors.length_le
        have third := ranks.errors.length_le
        rw [unchanged] at third ⊢
        exact ((gateway.errors.trans deployment.errors).eq_of_length (by omega))
  · rw [if_neg broadcast]
    exact ⟨Stage.refl running, Carried.refl, rfl, rfl, fun _ head start => absurd ⟨head, start⟩ broadcast⟩

theorem recordCause_keeps {supervisor after : RuntimeSupervisor} {componentId reasonCode detail : String}
    {exitCode : Option Int} (done : supervisor.recordCause componentId reasonCode detail exitCode = .ok after)
    {cause : FirstCause} (first : supervisor.firstCause = some cause) : after.firstCause = some cause := by
  unfold RuntimeSupervisor.recordCause at done
  split at done
  · cases done
  · dsimp only at done
    rw [first] at done
    cases Except.ok.inj done
    rfl

theorem visit_keeps {supervisor : RuntimeSupervisor} {reason reasonCode : String} {detail : Raised → String}
    {deadline : ℚ} {stops : String → Stopping} {components : List ManagedComponent} {cause : FirstCause}
    (first : supervisor.firstCause = some cause) :
    (RuntimeSupervisor.visit reason reasonCode detail deadline stops supervisor components).supervisor.firstCause =
      some cause := by
  induction components generalizing supervisor with
  | nil => exact first
  | cons component rest ih =>
    unfold RuntimeSupervisor.visit
    dsimp only
    split
    · exact ih first
    · split
      · exact first
      · rename_i recorded
        exact ih (recordCause_keeps recorded first)

/-- A supervisor whose causes all have a text returns from its `shutdown`. -/
theorem shutdown_returns {supervisor : RuntimeSupervisor} {deadline : ℚ} {stops : String → Stopping}
    (told : ∀ (component : ManagedComponent) raised,
      (component.stop "shutdown" (stops component.componentId)).outcome = .error raised → raised.text ≠ "") :
    (∃ clean, (supervisor.shutdown deadline stops).2 = .ok clean ∧ (clean = true →
      ∀ component ∈ (supervisor.shutdown deadline stops).1.components, component.state = .stopped)) ∧
      ∀ cause, supervisor.firstCause = some cause →
        (supervisor.shutdown deadline stops).1.firstCause = some cause := by
  obtain ⟨outcome, -, -⟩ := @RuntimeSupervisor.visit_all supervisor "shutdown" _ _ deadline stops
    supervisor.components.reverse (show "CLEANUP_ERROR" ≠ "" by decide) fun component _ => told component
  unfold RuntimeSupervisor.shutdown
  dsimp only
  rw [outcome]
  refine ⟨⟨_, rfl, ?_⟩, fun cause first => visit_keeps first⟩
  intro clean component listed
  have all := (Bool.and_eq_true_iff.mp clean).2
  exact of_decide_eq_true (List.all_eq_true.mp all component listed)

theorem reap_stage (handled : Handled exceptions steps) (running : before.aborted = none) :
    Stage before (reap steps before) [.reap] ∧ Carried before (reap steps before) ∧
      resources (reap steps before).root = resources before.root ∧
      (reap steps before).channelClean = before.channelClean ∧
      ((reap steps before).errors = before.errors →
        ∀ component ∈ (reap steps before).root.supervisor.components, component.state = .stopped) := by
  obtain ⟨⟨clean, answered, stopped⟩, kept⟩ := @shutdown_returns before.root.supervisor steps.cleanupDeadline
    steps.stops handled.stops
  have moved : Stage before ((before.attempting .reap).withSupervisor
      (before.root.supervisor.shutdown steps.cleanupDeadline steps.stops).1) [.reap] :=
    (attempting_stage running .reap).trans (Stage.of_same running rfl rfl rfl rfl)
  have carried : Carried before ((before.attempting .reap).withSupervisor
      (before.root.supervisor.shutdown steps.cleanupDeadline steps.stops).1) :=
    ⟨rfl, rfl, rfl, rfl, rfl, rfl, rfl, kept⟩
  have reaped : reap steps before =
      if clean then (before.attempting .reap).withSupervisor
        (before.root.supervisor.shutdown steps.cleanupDeadline steps.stops).1
      else ((before.attempting .reap).withSupervisor
        (before.root.supervisor.shutdown steps.cleanupDeadline steps.stops).1).cleanupFailed
          "one or more owned process groups survived cleanup" := by
    unfold reap
    have same : (before.attempting .reap).root.supervisor = before.root.supervisor := rfl
    dsimp only
    rw [same, answered]
    cases clean <;> rfl
  rw [reaped]
  cases clean with
  | true => exact ⟨moved, carried, rfl, rfl, fun _ => stopped rfl⟩
  | false =>
    refine ⟨?_, carried.trans (Carried.of_rest rfl), rfl, rfl, ?_⟩
    · exact moved.trans (cleanupFailed_stage moved.aborted (by decide))
    · intro unchanged
      exact absurd (congrArg List.length unchanged) (by simp [cleanupFailed, withSupervisor, attempting])

/-- What is attempted of the local resources. -/
def releaseSteps (root : CompositionRoot) : List CleanupStep :=
  (if root.hasPortLease then [CleanupStep.portLease] else []) ++
    (if root.hasListener then [CleanupStep.listener] else []) ++
    (if root.hasObserver then [CleanupStep.observer] else []) ++
    if root.hasIngress then [CleanupStep.ingress] else []

theorem releaseSteps_congr {one other : CompositionRoot} (same : resources one = resources other) :
    releaseSteps one = releaseSteps other := by
  have lease : one.hasPortLease = other.hasPortLease := congrArg Prod.fst same
  have listener : one.hasListener = other.hasListener := congrArg (fun left => left.2.1) same
  have observer : one.hasObserver = other.hasObserver := congrArg (fun left => left.2.2.1) same
  have ingress : one.hasIngress = other.hasIngress := congrArg (fun left => left.2.2.2) same
  rw [releaseSteps, releaseSteps, lease, listener, observer, ingress]

theorem releasePortLease_stage (handled : Handled exceptions steps) (running : before.aborted = none) :
    Stage before (releasePortLease exceptions steps before)
        (if before.root.hasPortLease then [.portLease] else []) ∧
      Carried before (releasePortLease exceptions steps before) ∧
      (releasePortLease exceptions steps before).root.supervisor = before.root.supervisor ∧
      (releasePortLease exceptions steps before).channelClean = before.channelClean ∧
      (resources (releasePortLease exceptions steps before).root).2 = (resources before.root).2 := by
  unfold releasePortLease
  cases present : before.root.hasPortLease with
  | false => exact ⟨Stage.refl running, Carried.refl, rfl, rfl, rfl⟩
  | true =>
    rw [if_pos rfl, if_pos rfl]
    obtain ⟨stage, same⟩ := attempt_stage (attempting_stage running .portLease).aborted
      (fun raised => append_nonempty (show toString "gateway port lease cleanup failed: " ≠ "" by decide)
        (toString raised.text)) handled.portLease
    rw [andThen_running stage.aborted]
    have released := (attempting_stage running .portLease).trans stage
    refine ⟨released.trans (Stage.of_same released.aborted rfl rfl rfl rfl),
      (attempting_carried _).trans ((Carried.of_rest same).trans withoutPortLease_carried), ?_, ?_, ?_⟩
    · exact (congrArg (fun kept => kept.1.supervisor) same :)
    · exact (congrArg (fun kept => kept.2.1) same :)
    · exact (congrArg (fun kept => (resources kept.1).2) same :)

theorem closeListener_stage (handled : Handled exceptions steps) (running : before.aborted = none) :
    Stage before (closeListener exceptions steps before) (if before.root.hasListener then [.listener] else []) ∧
      Carried before (closeListener exceptions steps before) ∧
      (closeListener exceptions steps before).root.supervisor = before.root.supervisor ∧
      (closeListener exceptions steps before).channelClean = before.channelClean ∧
      (resources (closeListener exceptions steps before).root).2.2 = (resources before.root).2.2 := by
  unfold closeListener
  cases present : before.root.hasListener with
  | false => exact ⟨Stage.refl running, Carried.refl, rfl, rfl, rfl⟩
  | true =>
    rw [if_pos rfl, if_pos rfl]
    obtain ⟨stage, same⟩ := attempt_stage (attempting_stage running .listener).aborted
      (fun raised => append_nonempty (show toString "gateway listener cleanup failed: " ≠ "" by decide)
        (toString raised.text)) handled.listener
    rw [andThen_running stage.aborted]
    have closed := (attempting_stage running .listener).trans stage
    refine ⟨closed.trans (Stage.of_same closed.aborted rfl rfl rfl rfl),
      (attempting_carried _).trans ((Carried.of_rest same).trans withoutListener_carried), ?_, ?_, ?_⟩
    · exact (congrArg (fun kept => kept.1.supervisor) same :)
    · exact (congrArg (fun kept => kept.2.1) same :)
    · exact (congrArg (fun kept => (resources kept.1).2.2) same :)

theorem stopObserver_stage (handled : Handled exceptions steps) (running : before.aborted = none) :
    Stage before (stopObserver exceptions steps before) (if before.root.hasObserver then [.observer] else []) ∧
      (stopObserver exceptions steps before).rest = before.rest := by
  unfold stopObserver
  cases present : before.root.hasObserver with
  | false => exact ⟨Stage.refl running, rfl⟩
  | true =>
    rw [if_pos rfl, if_pos rfl]
    obtain ⟨stage, same⟩ := attemptStop_stage (attempting_stage running .observer).aborted
      (fun raised => append_nonempty (show toString "deployment observer cleanup failed: " ≠ "" by decide)
        (toString raised.text)) (show "deployment observer thread did not stop" ≠ "" by decide) handled.observer
    exact ⟨(attempting_stage running .observer).trans stage, same⟩

theorem stopIngress_stage (handled : Handled exceptions steps) (running : before.aborted = none) :
    Stage before (stopIngress exceptions steps before) (if before.root.hasIngress then [.ingress] else []) ∧
      (stopIngress exceptions steps before).rest = before.rest := by
  unfold stopIngress
  cases present : before.root.hasIngress with
  | false => exact ⟨Stage.refl running, rfl⟩
  | true =>
    rw [if_pos rfl, if_pos rfl]
    obtain ⟨stage, same⟩ := attemptStop_stage (attempting_stage running .ingress).aborted
      (fun raised => append_nonempty (show toString "deployment ingress cleanup failed: " ≠ "" by decide)
        (toString raised.text)) (show "deployment ingress thread did not stop" ≠ "" by decide) handled.ingress
    exact ⟨(attempting_stage running .ingress).trans stage, same⟩

theorem releaseLocal_stage (handled : Handled exceptions steps) (running : before.aborted = none) :
    Stage before (releaseLocal exceptions steps before) (releaseSteps before.root) ∧
      Carried before (releaseLocal exceptions steps before) ∧
      (releaseLocal exceptions steps before).root.supervisor = before.root.supervisor ∧
      (releaseLocal exceptions steps before).channelClean = before.channelClean := by
  obtain ⟨lease, leaseCarried, leaseSupervisor, leaseChannel, leaseLeft⟩ := releasePortLease_stage handled running
  obtain ⟨listener, listenerCarried, listenerSupervisor, listenerChannel, listenerLeft⟩ :=
    closeListener_stage handled lease.aborted
  obtain ⟨observer, observerRest⟩ := stopObserver_stage handled listener.aborted
  obtain ⟨ingress, ingressRest⟩ := stopIngress_stage handled observer.aborted
  have listening : (releasePortLease exceptions steps before).root.hasListener = before.root.hasListener :=
    congrArg Prod.fst leaseLeft
  have left := listenerLeft.trans (congrArg Prod.snd leaseLeft)
  have observing := congrArg Prod.fst left
  have entering := (congrArg (fun kept => kept.1.hasIngress) observerRest).trans (congrArg Prod.snd left)
  have all := ((lease.trans listener).trans observer).trans ingress
  unfold releaseLocal
  dsimp only
  rw [andThen_running lease.aborted, andThen_running listener.aborted, andThen_running observer.aborted]
  refine ⟨?_, ?_, ?_, ?_⟩
  · unfold releaseSteps
    rw [← listening, ← (show _ = before.root.hasObserver from observing),
      ← (show _ = before.root.hasIngress from entering)]
    exact all
  · exact leaseCarried.trans (listenerCarried.trans ((Carried.of_rest observerRest).trans (Carried.of_rest ingressRest)))
  · exact ((congrArg (fun kept => kept.1.supervisor) (ingressRest.trans observerRest) :).trans
      listenerSupervisor).trans leaseSupervisor
  · exact ((congrArg (fun kept => kept.2.1) (ingressRest.trans observerRest) :).trans listenerChannel).trans
      leaseChannel

theorem stopChannel_stage (handled : Handled exceptions steps) (running : before.aborted = none) :
    Stage before (stopChannel exceptions steps before)
        (if before.root.hasHeadChannel then [.channel] else []) ∧
      Carried before (stopChannel exceptions steps before) ∧
      (stopChannel exceptions steps before).root.supervisor = before.root.supervisor ∧
      ((stopChannel exceptions steps before).errors = before.errors →
        (stopChannel exceptions steps before).channelClean = before.channelClean ∧
        (before.root.hasHeadChannel = true → steps.channel = .ok true)) := by
  unfold stopChannel
  cases present : before.root.hasHeadChannel with
  | false => exact ⟨Stage.refl running, Carried.refl, rfl, fun _ => ⟨rfl, fun given => absurd given (by decide)⟩⟩
  | true =>
    rw [if_pos rfl, if_pos rfl]
    have unclean : Stage before { before.attempting .channel with channelClean := false } [.channel] :=
      (attempting_stage running .channel).trans (Stage.of_same running rfl rfl rfl rfl)
    have said : channelIncomplete ≠ "" := by decide
    cases asked : steps.channel with
    | ok clean =>
      cases clean with
      | true =>
        exact ⟨attempting_stage running .channel, Carried.of_rest rfl, rfl, fun _ => ⟨rfl, fun _ => rfl⟩⟩
      | false =>
        refine ⟨unclean.trans (cleanupFailed_stage unclean.aborted said), ?_, rfl, ?_⟩
        · exact ⟨rfl, rfl, rfl, rfl, rfl, rfl, rfl, fun _ => id⟩
        · intro unchanged
          exact absurd (congrArg List.length unchanged) (by simp [cleanupFailed, attempting])
    | error raised =>
      dsimp only
      rw [handling_caught (handled.channel raised asked)]
      have told : s!"control listener cleanup failed: {raised.text}" ≠ "" := append_nonempty (by decide) _
      have failed := unclean.trans (cleanupFailed_stage unclean.aborted told)
      rw [andThen_running failed.aborted]
      refine ⟨failed.trans (cleanupFailed_stage failed.aborted said), ?_, rfl, ?_⟩
      · exact ⟨rfl, rfl, rfl, rfl, rfl, rfl, rfl, fun _ => id⟩
      · intro unchanged
        exact absurd (congrArg List.length unchanged) (by simp [cleanupFailed, attempting])

end Parts

end ExaServe.Composition
