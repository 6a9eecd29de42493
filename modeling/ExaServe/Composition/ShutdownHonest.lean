import ExaServe.Composition.ShutdownSteps

namespace ExaServe.Composition

open Lib Plan Control Supervision State.Status

section Statement

variable (exceptions : Exceptions) {numNodes : Nat} (steps : Steps numNodes) (root : CompositionRoot)

/-- The shutdown after its first report, before it publishes a terminal state. -/
def reported : Progress := (cleanUp exceptions steps root).andThen (firstReport exceptions steps)

/-- DRAIN was sent to the ranks, and each planned one acknowledged it and said GOODBYE. -/
def Drained : Prop :=
  root.hasHeadChannel = true ∧ root.startBroadcast = true ∧
    ∃ drain, steps.broadcast = .ok drain ∧ drain.acknowledged = Finset.univ ∧ drain.goodbye = Finset.univ

/-- What a shutdown that calls itself clean has done. -/
structure CleanShutdown (required : Prop) : Prop where
  components : ∀ component ∈ (shutdown exceptions steps root).root.supervisor.components,
    component.state = .stopped
  channel : root.hasHeadChannel = true → steps.channel = .ok true
  errors : (reported exceptions steps root).errors = []
  drained : required → rankSessionsMayBeUnavailable root = false → Drained steps root

/-- Every step that is due, in its order. -/
def dueSteps : List CleanupStep :=
  [CleanupStep.reap] ++ releaseSteps root ++ (if root.hasHeadChannel then [CleanupStep.channel] else []) ++
    [CleanupStep.report] ++ (if terminalRequested (cleanUp exceptions steps root) then [CleanupStep.terminal] else []) ++
    [CleanupStep.report]

/-- A shutdown that attempts all it has to and claims no more than it has done, the ranks
    having to be drained under the given condition. -/
structure NeverOverclaims (required : Prop) : Prop where
  attempted : (shutdown exceptions steps root).attempted = dueSteps exceptions steps root
  published : ∀ publisher, root.status = some publisher →
    ∃ after, (shutdown exceptions steps root).root.status = some after ∧
      ∃ new, after.published = publisher.published ++ new ∧
        ∀ state ∈ new, state = .stopped ∨ state = .cancelled → CleanShutdown exceptions steps root required
  reported : steps.lastReport = .landed → ∃ report,
    (shutdown exceptions steps root).root.reports.getLast? = some report ∧ (report.clean = true →
      CleanShutdown exceptions steps root required ∧ (shutdown exceptions steps root).errors = [] ∧
      (terminalRequested (cleanUp exceptions steps root) = true → ∃ publisher state,
        (shutdown exceptions steps root).root.status = some publisher ∧
          publisher.published.getLast? = some state ∧ report.observedTerminalState = some state))
  cause : ∀ cause, root.firstCause = some cause → cause ≠ "" →
    (shutdown exceptions steps root).root.firstCause = some cause
  firstError : root.firstCause = none →
    (shutdown exceptions steps root).root.firstCause = (shutdown exceptions steps root).errors.head?
  supervisorCause : ∀ cause, root.supervisor.firstCause = some cause →
    (shutdown exceptions steps root).root.supervisor.firstCause = some cause

end Statement

section Proof

variable {exceptions : Exceptions} {numNodes : Nat} {steps : Steps numNodes} {root : CompositionRoot}

open Progress

theorem nil_of_stage {before after : Progress} {attempts : List CleanupStep} (stage : Stage before after attempts)
    (empty : after.errors = []) : before.errors = [] :=
  List.prefix_nil.mp (empty ▸ stage.errors)

theorem drained_of_counts {drain : Drain numNodes} (acknowledged : drain.acknowledgedCount = numNodes)
    (goodbyes : drain.goodbyeCount = numNodes) :
    drain.acknowledged = Finset.univ ∧ drain.goodbye = Finset.univ := by
  unfold Drain.goodbyeCount at goodbyes
  have both : drain.expected ∩ drain.goodbye = Finset.univ :=
    Finset.eq_univ_of_card _ (by rw [goodbyes, Fintype.card_fin])
  have expected : drain.expected = Finset.univ :=
    Finset.univ_subset_iff.mp (both ▸ Finset.inter_subset_left)
  refine ⟨?_, Finset.univ_subset_iff.mp (both ▸ Finset.inter_subset_right)⟩
  unfold Drain.acknowledgedCount at acknowledged
  unfold Drain.expected at expected
  split_ifs at acknowledged expected with failed
  · have none_planned : numNodes = 0 := acknowledged.symm
    subst none_planned
    exact Subsingleton.elim _ _
  · exact expected

/-- The parts before the reports, put together. -/
theorem cleanUp_facts (handled : Handled exceptions steps) :
    Stage { root } (cleanUp exceptions steps root)
        ([CleanupStep.reap] ++ releaseSteps root ++ if root.hasHeadChannel then [CleanupStep.channel] else []) ∧
      Carried (beginStatus exceptions steps { root }) (cleanUp exceptions steps root) ∧
      ((cleanUp exceptions steps root).errors = [] →
        (∀ component ∈ (cleanUp exceptions steps root).root.supervisor.components, component.state = .stopped) ∧
        (cleanUp exceptions steps root).channelClean = true ∧
        (root.hasHeadChannel = true → steps.channel = .ok true) ∧
        (root.hasHeadChannel = true ∧ root.startBroadcast = true →
          rankSessionsMayBeUnavailable root = false → Drained steps root)) := by
  obtain ⟨begun, supervisor, -, head, start, left, channel, -⟩ :=
    @beginStatus_stage exceptions numNodes steps { root } handled rfl
  obtain ⟨drained, drainCarried, drainLeft, drainChannel, drainFact⟩ := drainDeployment_stage handled begun.aborted
  obtain ⟨reaped, reapCarried, reapLeft, reapChannel, reapFact⟩ := reap_stage handled drained.aborted
  obtain ⟨released, releaseCarried, releaseSupervisor, releaseChannel⟩ := releaseLocal_stage handled reaped.aborted
  obtain ⟨stopped, stopCarried, stopSupervisor, stopFact⟩ := stopChannel_stage handled released.aborted
  have same : cleanUp exceptions steps root =
      stopChannel exceptions steps (releaseLocal exceptions steps (reap steps
        (drainDeployment exceptions steps (beginStatus exceptions steps { root })))) := by
    unfold cleanUp
    dsimp only
    rw [andThen_running begun.aborted, andThen_running drained.aborted, andThen_running reaped.aborted,
      andThen_running released.aborted]
  have attempts := begun.trans (drained.trans (reaped.trans (released.trans stopped)))
  have carried := drainCarried.trans (reapCarried.trans (releaseCarried.trans stopCarried))
  have headSame := (releaseCarried.headChannel.trans (reapCarried.headChannel.trans drainCarried.headChannel)).trans
    head
  rw [releaseSteps_congr (reapLeft.trans (drainLeft.trans left)), headSame] at attempts
  rw [same]
  refine ⟨attempts, carried, ?_⟩
  intro clean
  have releasedEmpty := nil_of_stage stopped clean
  have reapedEmpty := nil_of_stage released releasedEmpty
  have drainedEmpty := nil_of_stage reaped reapedEmpty
  have begunEmpty := nil_of_stage drained drainedEmpty
  obtain ⟨channelSame, channelStopped⟩ := stopFact (clean.trans releasedEmpty.symm)
  refine ⟨?_, ?_, ?_, ?_⟩
  · rw [stopSupervisor, releaseSupervisor]
    exact reapFact (reapedEmpty.trans drainedEmpty.symm)
  · rw [channelSame, releaseChannel, reapChannel, drainChannel, channel]
  · rw [headSame] at channelStopped
    exact channelStopped
  · rintro ⟨present, sent⟩ available
    have known : rankSessionsMayBeUnavailable (beginStatus exceptions steps { root }).root = false := by
      unfold rankSessionsMayBeUnavailable at available ⊢
      rw [supervisor]
      exact available
    obtain ⟨drain, asked, acknowledged, goodbyes⟩ :=
      drainFact (drainedEmpty.trans begunEmpty.symm) (head.trans present) (start.trans sent) known
    exact ⟨present, sent, drain, asked, drained_of_counts acknowledged goodbyes⟩

theorem writeReport_stage {before : Progress} (running : before.aborted = none) {exhausted : Bool} {write : Write}
    {detail : Raised → String} (told : ∀ raised, detail raised ≠ "")
    (caught : ∀ raised, write = .failed raised ∨ write = .uncertain raised →
      exceptions.caught [.osError, .runtimeError, .typeError, .valueError] raised = true) :
    Stage before (writeReport exceptions steps exhausted write detail before) [.report] ∧
      (writeReport exceptions steps exhausted write detail before).root.supervisor = before.root.supervisor ∧
      (writeReport exceptions steps exhausted write detail before).root.status = before.root.status ∧
      (writeReport exceptions steps exhausted write detail before).root.draining = before.root.draining ∧
      (writeReport exceptions steps exhausted write detail before).root.cancelling = before.root.cancelling ∧
      (writeReport exceptions steps exhausted write detail before).channelClean = before.channelClean := by
  have stored : Stage before (before.withReport (shutdownPayload steps exhausted before)) [] :=
    Stage.of_same running rfl rfl rfl rfl
  have written := stored.trans (attempting_stage stored.aborted .report)
  have attempted := attempting_stage running .report
  unfold writeReport
  cases write with
  | landed => exact ⟨written, rfl, rfl, rfl, rfl, rfl⟩
  | failed raised =>
    dsimp only
    rw [handling_caught (caught raised (.inl rfl))]
    exact ⟨attempted.trans (cleanupFailed_stage attempted.aborted (told raised)), rfl, rfl, rfl, rfl, rfl⟩
  | uncertain raised =>
    dsimp only
    rw [handling_caught (caught raised (.inr rfl))]
    exact ⟨written.trans (cleanupFailed_stage written.aborted (told raised)), rfl, rfl, rfl, rfl, rfl⟩

theorem firstReport_stage {before : Progress} (handled : Handled exceptions steps) (running : before.aborted = none) :
    Stage before (firstReport exceptions steps before) [.report] ∧
      (firstReport exceptions steps before).root.supervisor = before.root.supervisor ∧
      (firstReport exceptions steps before).root.status = before.root.status ∧
      (firstReport exceptions steps before).root.draining = before.root.draining ∧
      (firstReport exceptions steps before).root.cancelling = before.root.cancelling ∧
      (firstReport exceptions steps before).channelClean = before.channelClean := by
  have told : ∀ raised : Raised, s!"shutdown report publication failed: {raised.text}" ≠ "" :=
    fun raised => append_nonempty (by decide) _
  unfold firstReport
  dsimp only
  split
  · have pending : Stage before { before with terminalPublication := "pending" } [] :=
      Stage.of_same running rfl rfl rfl rfl
    obtain ⟨stage, others⟩ := writeReport_stage pending.aborted told handled.firstReport
    exact ⟨pending.trans stage, others⟩
  · exact writeReport_stage running told handled.firstReport

theorem advance_published (publisher : DeploymentStatusPublisher) (new : DeploymentState) (commit : Commit) :
    ∃ added, (publisher.advance exceptions new commit).1.published = publisher.published ++ added ∧
      (∀ state ∈ added, state = new) ∧ ((publisher.advance exceptions new commit).2 = .ok () →
        added = [new] ∧ (publisher.advance exceptions new commit).1.state = new) := by
  have unpublished : ∀ raised : Raised, ∃ added, publisher.published = publisher.published ++ added ∧
      (∀ state ∈ added, state = new) ∧ ((.error raised : Except Raised Unit) = .ok () →
        added = [new] ∧ publisher.state = new) :=
    fun raised => ⟨[], (List.append_nil _).symm, fun _ listed => absurd listed List.not_mem_nil,
      fun ok => by cases ok⟩
  unfold DeploymentStatusPublisher.advance
  dsimp only
  by_cases fresh : publisher.initialized = false
  · rw [if_pos fresh]
    exact unpublished _
  by_cases illegal : new ∉ publisher.state.transitions
  · rw [if_neg fresh, if_pos illegal]
    exact unpublished _
  by_cases stale : publisher.stored ≠ publisher.state
  · rw [if_neg fresh, if_neg illegal, if_pos stale]
    exact unpublished _
  rw [if_neg fresh, if_neg illegal, if_neg stale]
  cases commit with
  | stored => exact ⟨[new], rfl, fun _ listed => List.mem_singleton.mp listed, fun _ => ⟨rfl, rfl⟩⟩
  | refused raised => exact unpublished _
  | uncertain raised => exact ⟨[new], rfl, fun _ listed => List.mem_singleton.mp listed, fun ok => by cases ok⟩

theorem terminalState_clean {before : Progress} (ended : terminalState before = .stopped ∨
    terminalState before = .cancelled) : before.clean = true ∧ before.channelClean = true := by
  unfold terminalState at ended
  by_cases clean : before.clean = true ∧ before.channelClean = true
  · exact clean
  · rw [if_neg clean] at ended
    rcases ended with wrong | wrong <;> cases wrong

theorem publishTerminal_stage {before : Progress} (handled : Handled exceptions steps)
    (running : before.aborted = none) :
    Stage before (publishTerminal exceptions steps before)
        (if terminalRequested before then [.terminal] else []) ∧
      (publishTerminal exceptions steps before).root.supervisor = before.root.supervisor ∧
      (∀ publisher, before.root.status = some publisher →
        ∃ after, (publishTerminal exceptions steps before).root.status = some after ∧
          ∃ new, after.published = publisher.published ++ new ∧ ∀ state ∈ new,
            state = .stopped ∨ state = .cancelled → before.clean = true ∧ before.channelClean = true) ∧
      ((publishTerminal exceptions steps before).errors = before.errors → terminalRequested before = true →
        ∃ publisher state, (publishTerminal exceptions steps before).root.status = some publisher ∧
          publisher.published.getLast? = some state ∧ publisher.state = state) := by
  unfold publishTerminal
  cases requested : terminalRequested before with
  | false =>
    rw [if_neg Bool.false_ne_true]
    refine ⟨Stage.refl running, rfl, ?_, fun _ given => absurd given (by decide)⟩
    intro publisher present
    exact ⟨publisher, present, [], (List.append_nil _).symm, fun _ listed => absurd listed List.not_mem_nil⟩
  | true =>
    rw [if_pos rfl, if_pos rfl]
    cases present : before.root.status with
    | none =>
      unfold terminalRequested at requested
      rw [present] at requested
      cases requested
    | some publisher =>
      dsimp only
      obtain ⟨added, extended, only, committed⟩ :=
        @advance_published exceptions publisher (terminalState before) steps.terminal
      have told : ∀ raised, ((publisher.advance exceptions (terminalState before) steps.terminal).2 = .error raised) →
          exceptions.caught [.publicationError, .runtimeError, .valueError] raised = true :=
        fun raised failed => refusal_told publisher _ _ handled.terminal failed
      have moved : Stage before ((before.attempting .terminal).withStatus
          (publisher.advance exceptions (terminalState before) steps.terminal).1) [.terminal] :=
        (attempting_stage running .terminal).trans (Stage.of_same running rfl rfl rfl rfl)
      have listed : ∀ given, some publisher = some given → ∃ after,
          some (publisher.advance exceptions (terminalState before) steps.terminal).1 = some after ∧
            ∃ new, after.published = given.published ++ new ∧ ∀ state ∈ new,
              state = .stopped ∨ state = .cancelled → before.clean = true ∧ before.channelClean = true := by
        intro given same
        cases Option.some.inj same
        refine ⟨_, rfl, added, extended, ?_⟩
        intro state within ended
        rw [only state within] at ended
        exact terminalState_clean ended
      cases outcome : (publisher.advance exceptions (terminalState before) steps.terminal).2 with
      | ok done =>
        refine ⟨moved.trans (Stage.of_same moved.aborted rfl rfl rfl rfl), rfl, listed, fun _ _ => ?_⟩
        obtain ⟨one, state⟩ := committed outcome
        refine ⟨_, terminalState before, rfl, ?_, state⟩
        rw [extended, one, List.getLast?_append_cons, List.getLast?_singleton]
      | error raised =>
        dsimp only
        rw [handling_caught (told raised outcome)]
        have failed : s!"terminal status publication failed: {raised.text}" ≠ "" := append_nonempty (by decide) _
        have named : Stage before { (before.attempting .terminal).withStatus
            (publisher.advance exceptions (terminalState before) steps.terminal).1 with
              terminalPublication := s!"failed: {raised.described}" } [.terminal] :=
          moved.trans (Stage.of_same moved.aborted rfl rfl rfl rfl)
        refine ⟨named.trans (cleanupFailed_stage named.aborted failed), rfl, listed, ?_⟩
        intro unchanged
        exact absurd (congrArg List.length unchanged) (by simp [cleanupFailed, attempting, withStatus])

theorem beginStatus_published (handled : Handled exceptions steps) {before : Progress}
    {publisher : DeploymentStatusPublisher} (present : before.root.status = some publisher) :
    ∃ after, (beginStatus exceptions steps before).root.status = some after ∧
      ∃ added, after.published = publisher.published ++ added ∧ ∀ state ∈ added, state = .draining := by
  have unmoved : ∃ added, publisher.published = publisher.published ++ added ∧
      ∀ state ∈ added, state = DeploymentState.draining :=
    ⟨[], (List.append_nil _).symm, fun _ listed => absurd listed List.not_mem_nil⟩
  unfold beginStatus
  rw [present]
  dsimp only
  split_ifs
  · obtain ⟨added, extended, only, -⟩ := @advance_published exceptions publisher .draining steps.drainStatus
    refine ⟨(publisher.advance exceptions .draining steps.drainStatus).1, ?_, added, extended, only⟩
    cases outcome : (publisher.advance exceptions .draining steps.drainStatus).2 with
    | ok done => rfl
    | error raised =>
      dsimp only
      rw [handling_caught (refusal_told publisher .draining _ handled.drainStatus outcome)]
      rfl
  · exact ⟨publisher, present, unmoved⟩
  · exact ⟨publisher, present, unmoved⟩

theorem foldl_orElse_none {errors : List String} (told : "" ∉ errors) :
    errors.foldl orElse none = errors.head? := by
  cases errors with
  | nil => rfl
  | cons error rest =>
    have nonempty : error ≠ "" := fun empty => told (empty ▸ List.mem_cons_self)
    exact orElse_kept nonempty rest

end Proof

section Cancelled

/-- The classes of the exceptions named here. -/
def namedExceptions : Exceptions where
  isInstance := fun raised kind => match raised, kind with
    | .other "StatusPublicationError" _, .publicationError => true
    | .other "StatusPublicationError" _, .runtimeError => true
    | .other "SupervisorError" _, .runtimeError => true
    | .other "OSError" _, .osError => true
    | _, _ => false
  publication := fun _ => rfl

/-- A shutdown asked for before any process was started. -/
def planned : CompositionRoot where
  supervisor := { components := [] }
  status := some { state := .planned, stored := .planned }

def undisturbed : Steps 2 where
  broadcast := .ok { acknowledged := ∅, goodbye := ∅ }

theorem stop_undisturbed (component : ManagedComponent) (reason : String) :
    (component.stop reason {}).outcome = .ok () := by
  have drained : (component.signalling true).drainResult {} = .ok () := by
    unfold ManagedComponent.drainResult
    split_ifs <;> first | rfl | contradiction
  unfold ManagedComponent.stop
  by_cases absent : component.process = none
  · rw [if_pos absent]
  · rw [if_neg absent]
    dsimp only
    rw [if_pos rfl, ManagedComponent.stopEmptied, drained]
    dsimp only
    split_ifs <;> rfl

/-- A deployment that serves, with its head of Ray. -/
def serving : CompositionRoot where
  supervisor := { components := [{ RuntimeSupervisor.rayHead with process := some 4100, state := .running }] }
  status := some { state := .ready, stored := .ready }
  hasHeadChannel := true
  startBroadcast := true
  hasIngress := true

def orderly : Steps 2 where
  broadcast := .ok { acknowledged := Finset.univ, goodbye := Finset.univ }

end Cancelled

end ExaServe.Composition
