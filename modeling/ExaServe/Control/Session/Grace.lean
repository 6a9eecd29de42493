import ExaServe.Control.Session.Steps

namespace ExaServe.Control

open Lib Plan

namespace Coordinator

variable (allocation : Allocation)

/-- The loss a call reports for a rank: an EOF at its own time, a silent loss at
    the last heartbeat plus the lease. -/
def reportedLoss (c : Coordinator) (call : SessionCall) (rank : Int) : Option Time :=
  match call.op with
  | .onDisconnect target false now => if target = rank then some (call.at now) else none
  | .pollLeases _ =>
    ((c.sessions.get? rank).bind RankSession.lastHeartbeatAt).map (· + allocation.limits.leaseTimeoutS)
  | _ => none

/-- The step after which this holds for a rank keeps its coverage. -/
def keepsGraceAt (c : Coordinator) (call : SessionCall) (rank : Int) (session : RankSession) : Prop :=
  match call.op with
  | .register target nodeId instanceId =>
    target = rank → c.startedAt = none ∨ wrongNode allocation rank nodeId = true ∨
      (session.state = .established ∧ instanceId = session.instanceId)
  | .onRegister target nodeId instanceId =>
    target = rank →
      if session.state = .lost then
        allocation.binding.isBoundNode rank nodeId = false ∨ graceOver allocation call.clock session = true
      else c.startedAt = none ∨ wrongNode allocation rank nodeId = true ∨
        (session.state = .established ∧ instanceId = session.instanceId)
  | .reconnect target nodeId _ now =>
    target = rank → allocation.binding.isBoundNode rank nodeId = false ∨ session.state = .terminal ∨
      graceOver allocation (call.at now) session = true
  | .beginSnapshot target _ totalChunks _ =>
    target = rank → ¬ begins allocation c rank totalChunks session
  | .completeSnapshot target verifyHash supervisorReceipt =>
    target = rank → ∀ assembly, c.assemblies.get? rank = some assembly →
      verified verifyHash assembly = true →
      (supervisorReceipt || session.supervisorReceiptAccepted) = false
  | .onDisconnect target expected _ =>
    target = rank → expected = true ∨ session.isEstablished = true
  | _ => True

def KeepsGrace (c : Coordinator) (call : SessionCall) : Prop :=
  ∀ rank session, c.sessions.get? rank = some session → keepsGraceAt allocation c call rank session

end Coordinator

/-- A coordinator with the time of the loss that last took each rank out of
    ESTABLISHED. -/
structure Watched where
  coordinator : Coordinator
  lossOf : Int → Option Time

namespace Watched

open Coordinator

variable (allocation : Allocation)

def started (c : Coordinator) : Watched := { coordinator := (start c).1, lossOf := fun _ => none }

def step (w : Watched) (call : SessionCall) : Watched :=
  let next := Coordinator.step allocation w.coordinator call
  { coordinator := next
    lossOf := fun rank =>
      if holdsEstablished w.coordinator rank && !holdsEstablished next rank then
        reportedLoss allocation w.coordinator call rank
      else w.lossOf rank }

/-- Every session that is neither ESTABLISHED nor TERMINAL carries the time of its
    loss, and a grace check past its grace makes the generation terminal. -/
def GraceCovered (w : Watched) : Prop :=
  ∀ rank session, w.coordinator.sessions.get? rank = some session →
    session.state ≠ .established → session.state ≠ .terminal →
    ∃ loss, w.lossOf rank = some loss ∧ session.lossTime = some loss ∧
      ∀ now, loss + allocation.limits.reconnectGraceS < now →
        (checkGraceDeadlines allocation now w.coordinator).1.generationState = .terminal

/-- The same, where the check expires this very rank and not only some other one. -/
def RankCovered (w : Watched) : Prop :=
  ∀ rank session, w.coordinator.sessions.get? rank = some session →
    session.state ≠ .established → session.state ≠ .terminal →
    ∃ loss, w.lossOf rank = some loss ∧ session.lossTime = some loss ∧
      ∀ now, loss + allocation.limits.reconnectGraceS < now →
        ((checkGraceDeadlines allocation now w.coordinator).1.sessions.get? rank).map
            RankSession.state = some .terminal ∧
          (checkGraceDeadlines allocation now w.coordinator).1.generationState = .terminal

def Covers (loss : Option Time) (session : RankSession) : Prop :=
  session.state = .established ∨ session.state = .terminal ∨
    (session.state = .lost ∧ session.lossTime = loss ∧ loss.isSome)

end Watched

namespace Coordinator

variable {allocation : Allocation}

theorem checkGraceDeadlines_terminal {c : Coordinator} {now : Time} {rank : Int} {session : RankSession}
    (found : c.sessions.get? rank = some session) (exceeded : graceExpired allocation now session = true) :
    (checkGraceDeadlines allocation now c).1.generationState = .terminal := by
  have member : session ∈ c.sessions.values := (Dict.mem_values_iff _ _).mpr ⟨rank, found⟩
  have nonempty : (c.sessions.values.filter (graceExpired allocation now)).map RankSession.rank ≠ [] := by
    intro empty
    have filtered := List.map_eq_nil_iff.mp empty
    have kept := List.mem_filter.mpr ⟨member, exceeded⟩
    rw [filtered] at kept
    cases kept
  simp only [checkGraceDeadlines, nonempty, if_false]
  exact fatal_generation _ _

/-- Without a LOST session the grace check does nothing to the generation. -/
theorem checkGraceDeadlines_idle {c : Coordinator} (now : Time)
    (none_lost : ∀ entry ∈ c.sessions.entries, entry.2.state ≠ .lost) :
    (checkGraceDeadlines allocation now c).1.generationState = c.generationState := by
  have empty : (c.sessions.values.filter (graceExpired allocation now)).map RankSession.rank = [] := by
    rw [List.map_eq_nil_iff, List.filter_eq_nil_iff]
    intro session member
    obtain ⟨entry, present, rfl⟩ := List.mem_map.mp member
    simp [graceExpired, none_lost entry present]
  simp only [checkGraceDeadlines, empty, if_true]

end Coordinator

namespace Watched

open Coordinator

variable {allocation : Allocation}

theorem rankCovered_iff (w : Watched) :
    RankCovered allocation w ↔ ∀ rank session, w.coordinator.sessions.get? rank = some session →
      Covers (w.lossOf rank) session := by
  constructor
  · intro covered rank session found
    by_cases established : session.state = .established
    · exact .inl established
    · by_cases terminal : session.state = .terminal
      · exact .inr (.inl terminal)
      · obtain ⟨loss, recorded, carried, expires⟩ := covered rank session found established terminal
        have late : loss + allocation.limits.reconnectGraceS <
            loss + allocation.limits.reconnectGraceS + 1 := lt_add_one _
        have expired := (expires _ late).1
        rw [checkGraceDeadlines_sessions, Dict.get?_mapValues, found] at expired
        simp only [Option.map_some, Option.some.injEq, expireGrace] at expired
        split at expired
        · rename_i exceeded
          simp only [graceExpired, Bool.and_eq_true, decide_eq_true_eq] at exceeded
          exact .inr (.inr ⟨exceeded.1, carried.trans recorded.symm, by rw [recorded]; rfl⟩)
        · exact absurd expired terminal
  · intro covers rank session found established terminal
    rcases covers rank session found with est | term | ⟨lost, carried, known⟩
    · exact absurd est established
    · exact absurd term terminal
    · obtain ⟨loss, recorded⟩ := Option.isSome_iff_exists.mp known
      refine ⟨loss, recorded, carried.trans recorded, ?_⟩
      intro now late
      have exceeded : graceExpired allocation now session = true := by
        simp [graceExpired, graceOver, lost, carried, recorded, late]
      refine ⟨?_, checkGraceDeadlines_terminal found exceeded⟩
      rw [checkGraceDeadlines_sessions, Dict.get?_mapValues, found]
      simp [expireGrace, exceeded]

theorem RankCovered.graceCovered {w : Watched} (covered : RankCovered allocation w) :
    GraceCovered allocation w := by
  intro rank session found established terminal
  obtain ⟨loss, recorded, carried, expires⟩ := covered rank session found established terminal
  exact ⟨loss, recorded, carried, fun now late => (expires now late).2⟩

theorem lossOf_step {w : Watched} {call : SessionCall} {rank : Int} {session : RankSession}
    (found : w.coordinator.sessions.get? rank = some session) :
    (step allocation w call).lossOf rank =
      if session.isEstablished && !(effect allocation w.coordinator call rank session).isEstablished then
        reportedLoss allocation w.coordinator call rank
      else w.lossOf rank := by
  simp only [step, holdsEstablished, step_session, found, Option.map_some, Option.any_some]

theorem Covers.keep {loss next : Option Time} {session after : RankSession}
    (covers : Covers loss session) (state : after.state = session.state)
    (lossTime : after.lossTime = session.lossTime) (same : session.state = .lost → next = loss) :
    Covers next after := by
  rcases covers with established | terminal | ⟨lost, carried, known⟩
  · exact .inl (state.trans established)
  · exact .inr (.inl (state.trans terminal))
  · rw [← same lost] at carried known
    exact .inr (.inr ⟨state.trans lost, lossTime.trans carried, known⟩)

theorem not_covers {loss : Option Time} {session : RankSession}
    (recovering : session.state = .authenticated ∨ session.state = .snapshotPending ∨
      session.state = .snapshotAckPending ∨ session.state = .expected) : ¬ Covers loss session := by
  rintro (established | terminal | ⟨lost, _⟩) <;> rcases recovering with h | h | h | h <;> simp_all

section Step

variable {w : Watched} {clock : Time} {rank : Int} {session : RankSession}

theorem covers_register_iff (covers : Covers (w.lossOf rank) session) (target : Int) (nodeId instanceId : String)
    (next : Option Time) (same : session.state = .lost → next = w.lossOf rank) :
    Covers next (registerEffect allocation w.coordinator clock target nodeId instanceId session) ↔
      w.coordinator.startedAt = none ∨ wrongNode allocation target nodeId = true ∨
        (session.state = .established ∧ instanceId = session.instanceId) := by
  unfold registerEffect
  split
  · rename_i early
    simp only [early, true_or, iff_true]
    exact covers.keep rfl rfl same
  · rename_i begun
    split
    · rename_i wrong
      simp only [wrong, true_or, or_true, iff_true]
      exact .inr (.inl rfl)
    · rename_i bound
      split
      · rename_i again
        simp only [again, and_self, or_true, iff_true]
        exact covers.keep rfl rfl same
      · rename_i fresh
        simp only [begun, bound, fresh, Bool.false_eq_true, or_self, iff_false]
        exact not_covers (.inl rfl)

theorem covers_reconnect_iff (target : Int) (nodeId instanceId : String) (now : Time)
    (next : Option Time) :
    Covers next (reconnectEffect allocation now target nodeId instanceId session) ↔
      allocation.binding.isBoundNode target nodeId = false ∨ session.state = .terminal ∨
        graceOver allocation now session = true := by
  unfold reconnectEffect
  cases bound : allocation.binding.isBoundNode target nodeId with
  | false =>
    simp only [Bool.not_false, if_true, true_or, iff_true]
    exact .inr (.inl rfl)
  | true =>
    simp only [Bool.not_true, Bool.false_eq_true, if_false, Bool.true_eq_false, false_or]
    split
    · rename_i terminal
      simp only [terminal, true_or, iff_true]
      exact .inr (.inl terminal)
    · rename_i alive
      split
      · rename_i exceeded
        simp only [exceeded, or_true, iff_true]
        exact .inr (.inl rfl)
      · rename_i within
        simp only [alive, within, Bool.false_eq_true, or_self, iff_false]
        exact not_covers (.inl rfl)

theorem covers_complete_iff (covers : Covers (w.lossOf rank) session) (target : Int)
    (verifyHash : Option String) (supervisorReceipt : Bool) (next : Option Time)
    (same : session.state = .lost → next = w.lossOf rank) :
    Covers next (completeEffect w.coordinator clock target verifyHash supervisorReceipt session) ↔
      ∀ assembly, w.coordinator.assemblies.get? target = some assembly →
        verified verifyHash assembly = true →
        (supervisorReceipt || session.supervisorReceiptAccepted) = false := by
  unfold completeEffect
  split
  · rename_i idle
    simp only [idle, reduceCtorEq, false_implies, implies_true, iff_true]
    exact covers.keep rfl rfl same
  · rename_i assembly inFlight
    simp only [inFlight, Option.some.injEq, forall_eq']
    split
    · rename_i good
      cases receipt : supervisorReceipt || session.supervisorReceiptAccepted with
      | false =>
        simp only [Bool.false_eq_true, if_false, implies_true, iff_true]
        exact covers.keep rfl rfl same
      | true =>
        simp only [if_true, good, Bool.true_eq_false, imp_false, not_true, iff_false]
        exact not_covers (.inr (.inr (.inl rfl)))
    · rename_i bad
      simp only [bad, Bool.false_eq_true, false_implies, iff_true]
      exact covers.keep rfl rfl same

theorem covers_disconnect_iff (now : Time) (expected : Bool)
    (next : Option Time)
    (reported : session.isEstablished = true → expected = false → next = some now) :
    Covers next (disconnectEffect now expected session) ↔
      expected = true ∨ session.isEstablished = true := by
  unfold disconnectEffect
  cases expected with
  | true =>
    simp only [if_true, true_or, iff_true]
    exact .inr (.inl rfl)
  | false =>
    cases established : session.isEstablished with
    | false =>
      simp only [Bool.false_eq_true, if_false, Bool.not_false, if_true, or_self, iff_false]
      exact not_covers (.inr (.inr (.inr rfl)))
    | true =>
      simp only [Bool.false_eq_true, if_false, Bool.not_true, or_true, iff_true]
      rw [reported established rfl]
      exact .inr (.inr ⟨rfl, rfl, rfl⟩)

theorem covers_expireLease (found : w.coordinator.sessions.get? rank = some session)
    (covers : Covers (w.lossOf rank) session) (now : Option Time) :
    Covers ((step allocation w ⟨clock, .pollLeases now⟩).lossOf rank)
      (expireLease allocation (now.getD clock) session) := by
  rw [lossOf_step found]
  simp only [effect, SessionCall.at]
  cases expired : leaseExpired allocation (now.getD clock) session with
  | false =>
    simp only [expireLease, expired, Bool.false_eq_true, if_false, Bool.and_not_self]
    exact covers
  | true =>
    have cause := expired
    simp only [leaseExpired, Bool.and_eq_true] at cause
    obtain ⟨last, heard⟩ : ∃ last, session.lastHeartbeatAt = some last := by
      cases seen : session.lastHeartbeatAt with
      | none => simp [seen] at cause
      | some last => exact ⟨last, rfl⟩
    have left : (expireLease allocation (now.getD clock) session).isEstablished = false := by
      simp [expireLease, expired, RankSession.isEstablished]
    simp only [cause.1, left, Bool.not_false, Bool.and_self, if_true, reportedLoss, found,
      Option.bind_some, heard, Option.map_some]
    simp only [expireLease, expired, if_true, heard]
    exact .inr (.inr ⟨rfl, rfl, rfl⟩)

theorem covers_expireGrace (covers : Covers (w.lossOf rank) session) (now : Time) (next : Option Time)
    (same : session.state = .lost → next = w.lossOf rank) :
    Covers next (expireGrace allocation now session) := by
  unfold expireGrace
  split
  · exact .inr (.inl rfl)
  · exact covers.keep rfl rfl same

end Step

/-- One step keeps the coverage of a rank exactly when it is of the listed kind. -/
theorem covers_step_iff {w : Watched} (call : SessionCall) {rank : Int} {session : RankSession}
    (found : w.coordinator.sessions.get? rank = some session)
    (covers : Covers (w.lossOf rank) session) :
    Covers ((step allocation w call).lossOf rank) (effect allocation w.coordinator call rank session) ↔
      keepsGraceAt allocation w.coordinator call rank session := by
  have same : session.state = .lost → (step allocation w call).lossOf rank = w.lossOf rank := by
    intro lost
    rw [lossOf_step found]
    simp [RankSession.isEstablished, lost]
  obtain ⟨clock, op⟩ := call
  cases op with
  | register target nodeId instanceId =>
    simp only [effect, keepsGraceAt]
    by_cases here : target = rank
    · subst here
      simp only [if_true, true_implies]
      exact covers_register_iff covers target nodeId instanceId _ same
    · simp only [here, if_false, false_implies, iff_true]
      exact covers.keep rfl rfl same
  | onRegister target nodeId instanceId =>
    simp only [effect, keepsGraceAt]
    by_cases here : target = rank
    · subst here
      simp only [if_true, true_implies]
      by_cases lost : session.state = .lost
      · simp only [lost, if_true]
        have exact_step := @covers_reconnect_iff allocation session target nodeId instanceId clock
          ((step allocation w ⟨clock, .onRegister target nodeId instanceId⟩).lossOf target)
        simpa only [lost, reduceCtorEq, false_or] using exact_step
      · simp only [lost, if_false]
        exact covers_register_iff covers target nodeId instanceId _ same
    · simp only [here, if_false, false_implies, iff_true]
      exact covers.keep rfl rfl same
  | beginSnapshot target snapshotId totalChunks completeHash =>
    simp only [effect, keepsGraceAt]
    by_cases here : target = rank
    · subst here
      simp only [if_true, true_implies]
      split
      · rename_i fresh
        simp only [fresh, not_true, iff_false]
        exact not_covers (.inr (.inl rfl))
      · rename_i refused
        simp only [refused, not_false_iff, iff_true]
        exact covers.keep rfl rfl same
    · simp only [here, if_false, false_implies, iff_true]
      exact covers.keep rfl rfl same
  | completeSnapshot target verifyHash supervisorReceipt =>
    simp only [effect, keepsGraceAt]
    by_cases here : target = rank
    · subst here
      simp only [if_true, true_implies]
      exact covers_complete_iff covers target verifyHash supervisorReceipt _ same
    · simp only [here, if_false, false_implies, iff_true]
      exact covers.keep rfl rfl same
  | acknowledgeSnapshot target commandId snapshotId completeSetHash succeeded =>
    have unpending : session.state ≠ .snapshotAckPending := by
      rcases covers with h | h | ⟨h, _⟩ <;> rw [h] <;> decide
    simp only [effect, keepsGraceAt, acknowledgeEffect, unpending, false_and, if_false, ite_self,
      iff_true]
    exact covers.keep rfl rfl same
  | onDisconnect target expected now =>
    simp only [effect, keepsGraceAt]
    by_cases here : target = rank
    · subst here
      simp only [if_true, true_implies]
      apply covers_disconnect_iff
      intro established unexpected
      rw [lossOf_step found]
      subst unexpected
      have left : (disconnectEffect (SessionCall.at ⟨clock, .onDisconnect target false now⟩ now) false
          session).isEstablished = false := by
        simp only [disconnectEffect, established, Bool.false_eq_true, if_false, Bool.not_true]
        rfl
      simp only [established, effect, if_true, left, Bool.not_false, Bool.and_self, reportedLoss]
    · simp only [here, if_false, false_implies, iff_true]
      exact covers.keep rfl rfl same
  | onHeartbeat target now =>
    simp only [effect, keepsGraceAt, iff_true, heartbeatEffect]
    split
    · split
      · exact covers.keep rfl rfl same
      · exact covers.keep rfl rfl same
    · exact covers.keep rfl rfl same
  | pollLeases now =>
    simp only [keepsGraceAt, iff_true]
    exact covers_expireLease found covers now
  | reconnect target nodeId instanceId now =>
    simp only [effect, keepsGraceAt]
    by_cases here : target = rank
    · subst here
      simp only [if_true, true_implies]
      exact covers_reconnect_iff target nodeId instanceId _ _
    · simp only [here, if_false, false_implies, iff_true]
      exact covers.keep rfl rfl same
  | protocolViolation target reason =>
    simp only [effect, keepsGraceAt, iff_true]
    split
    · exact .inr (.inl rfl)
    · exact covers.keep rfl rfl same
  | checkGraceDeadlines now =>
    simp only [effect, keepsGraceAt, iff_true]
    exact covers_expireGrace covers _ _ same
  | beginRegistration | addSnapshotChunk | start | checkRegistrationDeadline | requestDrain =>
    simp only [effect, keepsGraceAt, iff_true]
    exact covers.keep rfl rfl same

theorem rankCovered_step_iff (w : Watched) (call : SessionCall) (covered : RankCovered allocation w) :
    RankCovered allocation (step allocation w call) ↔ KeepsGrace allocation w.coordinator call := by
  rw [rankCovered_iff] at covered ⊢
  constructor
  · intro after rank session found
    rw [← covers_step_iff call found (covered rank session found)]
    exact after rank _ (by simp [step, step_session, found])
  · intro keeps rank after found
    simp only [step, step_session, Option.map_eq_some_iff] at found
    obtain ⟨session, here, rfl⟩ := found
    exact (covers_step_iff call here (covered rank session here)).mpr (keeps rank session here)

theorem rankCovered_started {c : Coordinator} (ready : c.mayStart.1 = true) :
    RankCovered allocation (started c) := by
  rw [rankCovered_iff]
  intro rank session found
  have registered : c.allRegistered = true := by
    unfold mayStart at ready
    split at ready
    · cases ready
    · split at ready
      · cases ready
      · rename_i all
        simpa using all
  simp only [started, start_sessions] at found
  have each := List.all_eq_true.mp registered session ((Dict.mem_values_iff _ _).mpr ⟨rank, found⟩)
  simp only [Coordinator.ready, Bool.and_eq_true, RankSession.isEstablished, decide_eq_true_eq] at each
  exact .inl each.1.1

/-- After START a run keeps every rank under its grace deadline exactly when no
    step starts a recovery (an accepted REGISTER of a new instance, an accepted
    reconnect, a snapshot begun or completed) and every unexpected disconnect is
    reported for a session that is still ESTABLISHED. -/
theorem started_run_covered (allocation : Allocation) (before after : List SessionCall)
    (ready : (run (Coordinator.step allocation) (create allocation) before).mayStart.1 = true) :
    let w := started (run (Coordinator.step allocation) (create allocation) before)
    let keeps := Along (step allocation) (fun w call => KeepsGrace allocation w.coordinator call) w after
    (keeps → Throughout (step allocation) (GraceCovered allocation) w after) ∧
      (Throughout (step allocation) (RankCovered allocation) w after ↔ keeps) := by
  dsimp only
  have exactly : Throughout (step allocation) (RankCovered allocation) _ after ↔ _ :=
    throughout_iff_along (fun w call covered => rankCovered_step_iff w call covered)
      (rankCovered_started ready) after
  refine ⟨?_, exactly⟩
  intro keeps taken within
  exact (exactly.mpr keeps taken within).graceCovered

theorem solo_silent_loss_covered :
    (run (Coordinator.step soloAllocation) (create soloAllocation) soloRegistration).mayStart.1 = true ∧
      Throughout (step soloAllocation) (GraceCovered soloAllocation)
        (started (run (Coordinator.step soloAllocation) (create soloAllocation) soloRegistration))
        [⟨31, .pollLeases none⟩, ⟨80, .onHeartbeat 0 none⟩, ⟨91, .checkGraceDeadlines none⟩] := by
  have ready : (run (Coordinator.step soloAllocation) (create soloAllocation)
      soloRegistration).mayStart.1 = true := by decide +kernel
  refine ⟨ready, (started_run_covered soloAllocation soloRegistration _ ready).1 ?_⟩
  exact ⟨fun _ _ _ => trivial, fun _ _ _ => trivial, fun _ _ _ => trivial, trivial⟩

/-- A lease expires silently at 30 s, the poll at 31 s records the loss, and the
    EOF of the dead connection at 32 s erases it again. -/
def soloLeaseThenEof : Watched :=
  run (step soloAllocation)
    (started (run (Coordinator.step soloAllocation) (create soloAllocation) soloRegistration))
    [⟨31, .pollLeases none⟩, ⟨32, .onDisconnect 0 false none⟩]

theorem lease_expiry_then_eof_escapes_grace :
    (run (Coordinator.step soloAllocation) (create soloAllocation) soloRegistration).mayStart.1 = true ∧
      soloLeaseThenEof.coordinator.generationState = .started ∧
      ¬ GraceCovered soloAllocation soloLeaseThenEof ∧
      ∀ now, (checkGraceDeadlines soloAllocation now soloLeaseThenEof.coordinator).1.generationState =
        .started := by
  have generation : soloLeaseThenEof.coordinator.generationState = .started := by decide +kernel
  have forgotten : (soloLeaseThenEof.coordinator.sessions.get? 0).map
      (fun session => (session.state, session.lossTime)) = some (.expected, none) := by decide +kernel
  refine ⟨by decide +kernel, generation, ?_, ?_⟩
  · intro covered
    obtain ⟨session, found, fields⟩ := Option.map_eq_some_iff.mp forgotten
    have state : session.state = .expected := congrArg Prod.fst fields
    obtain ⟨loss, _, carried, _⟩ := covered 0 session found (by rw [state]; decide) (by rw [state]; decide)
    have lossTime : session.lossTime = none := congrArg Prod.snd fields
    rw [lossTime] at carried
    cases carried
  · intro now
    rw [← generation]
    exact checkGraceDeadlines_idle now (by decide +kernel)

end Watched

end ExaServe.Control
