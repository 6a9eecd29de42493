import ExaServe.Control.Supervision.Component

namespace ExaServe.Control.Supervision

open Lib Plan

namespace ManagedComponent

variable (component : ManagedComponent)

/-- The stop comes to the point where it calls `on_stopped`. -/
def notifies (steps : Stopping) : Bool :=
  component.process.isSome && component.hasOnStopped && steps.alive.isOk && steps.signalled.isOk &&
    steps.groupEmpty && (component.drainResult steps).isOk

/-- `on_stopped` is not called after it has been. -/
def NotifiedOnce (steps : Stopping) : Prop := component.notifies steps = true → component.stoppedCalls = 0

instance (steps : Stopping) : Decidable (component.NotifiedOnce steps) :=
  inferInstanceAs (Decidable (_ → _))

def Stopped.Ended (stopped : Stopped) : Prop :=
  stopped.component.state = .stopped ∧ stopped.seenEmpty = true

/-- What every end of a `stop` has in common. -/
structure StopsTo (steps : Stopping) (stopped : Stopped) : Prop where
  componentId : stopped.component.componentId = component.componentId
  process : stopped.component.process = component.process
  calls : stopped.component.stoppedCalls = component.stoppedCalls + if component.notifies steps then 1 else 0
  ended : stopped.outcome.isOk = true → stopped.Ended

variable {component} {reason : String} {steps : Stopping}

theorem StopsTo.unnotified {stopped : Stopped} (componentId : stopped.component.componentId = component.componentId)
    (process : stopped.component.process = component.process)
    (calls : stopped.component.stoppedCalls = component.stoppedCalls)
    (silent : component.notifies steps = false)
    (ended : stopped.outcome.isOk = true → stopped.Ended) : component.StopsTo steps stopped :=
  ⟨componentId, process, by rw [calls, silent]; rfl, ended⟩

theorem stopEmptied_stops {alive : Bool} (present : component.process ≠ none) (looked : steps.alive = .ok alive)
    (signalled : steps.signalled = .ok ()) (empty : steps.groupEmpty = true) :
    component.StopsTo steps ((component.signalling alive).stopEmptied steps) := by
  have ran : component.process.isSome = true := Option.isSome_iff_ne_none.mpr present
  have same : (component.signalling alive).drainResult steps = component.drainResult steps := rfl
  unfold stopEmptied
  rw [same]
  cases drained : component.drainResult steps with
  | error raised =>
    apply StopsTo.unnotified
    · rfl
    · rfl
    · rfl
    · simp [notifies, drained, Except.isOk, Except.toBool]
    · intro ok
      cases ok
  | ok _ =>
    cases called : component.hasOnStopped with
    | false =>
      dsimp only
      rw [signalling_hasOnStopped, called, if_neg Bool.false_ne_true]
      apply StopsTo.unnotified
      · rfl
      · rfl
      · rfl
      · simp [notifies, called]
      · exact fun _ => ⟨rfl, rfl⟩
    | true =>
      dsimp only
      rw [signalling_hasOnStopped, called, if_pos rfl]
      have notified : component.notifies steps = true := by
        simp [notifies, ran, called, looked, signalled, empty, drained, Except.isOk, Except.toBool]
      refine ⟨rfl, rfl, ?_, fun _ => ⟨rfl, rfl⟩⟩
      rw [notified, if_pos rfl]
      rfl

theorem stop_stops : component.StopsTo steps (component.stop reason steps) := by
  unfold stop
  by_cases absent : component.process = none
  · rw [if_pos absent]
    apply StopsTo.unnotified
    · rfl
    · rfl
    · rfl
    · simp [notifies, absent]
    · exact fun _ => ⟨rfl, rfl⟩
  · rw [if_neg absent]
    split
    · rename_i raised looked
      apply StopsTo.unnotified
      · rfl
      · rfl
      · rfl
      · simp [notifies, looked, Except.isOk, Except.toBool]
      · intro ok
        cases ok
    · rename_i alive looked
      dsimp only
      split
      · rename_i raised signalled
        apply StopsTo.unnotified
        · rfl
        · rfl
        · rfl
        · simp [notifies, signalled, Except.isOk, Except.toBool]
        · intro ok
          cases ok
      · rename_i signalled
        split_ifs with empty
        · exact stopEmptied_stops absent looked signalled empty
        · apply StopsTo.unnotified
          · rfl
          · rfl
          · rfl
          · simp [notifies, empty]
          · intro ok
            cases ok

/-- `on_stopped` has run at most once, and not without a process. -/
structure Once (component : ManagedComponent) : Prop where
  calls : component.stoppedCalls ≤ 1
  processless : component.process = none → component.stoppedCalls = 0

theorem Once.stop (once : component.Once) (allowed : component.NotifiedOnce steps) :
    (component.stop reason steps).component.Once := by
  have stops : component.StopsTo steps (component.stop reason steps) := stop_stops
  constructor
  · rw [stops.calls]
    cases notified : component.notifies steps with
    | false => simpa using once.calls
    | true => simp [allowed notified]
  · rw [stops.process, stops.calls]
    intro absent
    simp [notifies, absent, once.processless absent]

theorem Once.inState (once : component.Once) (state : ComponentState) : (component.inState state).Once :=
  ⟨once.calls, once.processless⟩

theorem Once.observe (once : component.Once) (seen : Observing) : (component.observe seen).1.Once := by
  unfold ManagedComponent.observe
  repeat' split
  all_goals first | exact once | exact once.inState _

/-- What a `start` leaves: a component that runs where it returns. -/
structure StartsTo (component : ManagedComponent) (started : Started) : Prop where
  componentId : started.component.componentId = component.componentId
  once : component.Once → started.component.Once
  returned : started.outcome.isOk = true →
    component.process = none ∧ started.component.state = .running ∧ started.rolledBack = false ∧
      started.component.stoppedCalls = component.stoppedCalls

theorem startSpawned_starts {steps : Starting} {before : ManagedComponent} (pid : Nat)
    (fresh : before.process = none) :
    before.StartsTo ({ before with process := some pid, state := .starting }.startSpawned steps) := by
  unfold startSpawned
  dsimp only
  split
  · exact ⟨rfl, fun once => ⟨once.calls, fun absent => absurd absent (by simp)⟩, fun _ => ⟨fresh, rfl, rfl, rfl⟩⟩
  · refine ⟨stop_stops.componentId, ?_, fun ok => by cases ok⟩
    intro once
    apply Once.inState
    apply Once.stop
    · exact ⟨once.calls, fun absent => absurd absent (by simp)⟩
    · exact fun _ => once.processless fresh

theorem start_starts {steps : Starting} : component.StartsTo (component.start steps) := by
  have failing : ∀ (state : ComponentState) (raised : Raised), component.StartsTo
      { component := component.inState state, outcome := .error raised } :=
    fun state raised => ⟨rfl, fun once => once.inState state, fun ok => by cases ok⟩
  unfold start
  split
  · exact ⟨rfl, id, fun ok => by cases ok⟩
  · by_cases fresh : component.process = none
    · rw [if_neg (not_not.mpr fresh)]
      split_ifs
      · exact failing _ _
      · split
        · exact failing _ _
        · split
          · exact failing _ _
          · exact failing _ _
          · exact startSpawned_starts _ fresh
      · split
        · exact failing _ _
        · split
          · exact failing _ _
          · exact failing _ _
          · exact startSpawned_starts _ fresh
    · rw [if_pos fresh]
      exact ⟨rfl, id, fun ok => by cases ok⟩

end ManagedComponent

end ExaServe.Control.Supervision
