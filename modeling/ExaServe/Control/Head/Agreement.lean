import ExaServe.Control.Head.Channel
import ExaServe.Control.Session.Lowering
import ExaServe.Control.Transport.Turns

namespace ExaServe.Control

open Lib Plan

namespace HeadChannel

/-- The head's coordinator only lowers. -/
def Lowers (before after : HeadChannel) : Prop := Coordinator.Lowers before.coordinator after.coordinator

variable (config : HeadConfig)

theorem lowers_same {before after : HeadChannel} (same : after.coordinator = before.coordinator) :
    Lowers before after := by
  unfold Lowers
  rw [same]
  exact .refl _

@[simp] theorem addFailure_coordinator (h : HeadChannel) (failure : String) :
    (h.addFailure failure).coordinator = h.coordinator := rfl

@[simp] theorem addRejection_coordinator (h : HeadChannel) (rejection : String) :
    (h.addRejection rejection).coordinator = h.coordinator := rfl

theorem submitDurable_coordinator {h queued : HeadChannel} {job : DurableJob}
    (submitted : h.submitDurable config job = .ok queued) : queued.coordinator = h.coordinator := by
  unfold submitDurable at submitted
  split_ifs at submitted
  cases submitted
  rfl

@[simp] theorem submitted_coordinator (h : HeadChannel) (job : DurableJob) :
    (h.submitted config job).1.coordinator = h.coordinator := by
  unfold submitted
  split
  · rfl
  · rename_i queued accepted
    exact submitDurable_coordinator config accepted

@[simp] theorem recordObservationFailure_coordinator (h : HeadChannel) (rank : Int)
    (obs : ComponentObservation) : (h.recordObservationFailure rank obs).coordinator = h.coordinator := by
  unfold recordObservationFailure
  split <;> rfl

theorem recordFailures_coordinator (rank : Int) (observations : List ComponentObservation) (h : HeadChannel) :
    (observations.foldl (fun recorded obs => recorded.recordObservationFailure rank obs) h).coordinator =
      h.coordinator := by
  induction observations generalizing h with
  | nil => rfl
  | cons obs rest ih => rw [List.foldl_cons, ih, recordObservationFailure_coordinator]

@[simp] theorem publishSnapshot_coordinator (clock : Time) (h : HeadChannel) (rank : Int)
    (snapshot : PendingSnapshot) : (h.publishSnapshot clock rank snapshot).coordinator = h.coordinator := by
  unfold publishSnapshot
  exact recordFailures_coordinator rank _ _

theorem onReceipt_coordinator (h : HeadChannel) (rank : Int) (payload : List (String × Json)) :
    (h.onReceipt config rank payload).1.coordinator = h.coordinator := by
  unfold onReceipt
  dsimp only
  split
  · rfl
  · split
    · rfl
    · split
      · rfl
      · exact submitted_coordinator config _ _

theorem onObservation_coordinator (clock : Time) (h : HeadChannel) (rank : Int) (obs : ComponentObservation) :
    (h.onObservation clock rank obs).1.coordinator = h.coordinator := by
  unfold onObservation
  split
  · rfl
  · exact recordObservationFailure_coordinator _ _ _

theorem snapshotArrived_coordinator (h : HeadChannel) (rank : Int) (snapshot : PendingSnapshot) :
    (h.snapshotArrived config rank snapshot).1.coordinator = h.coordinator := by
  unfold snapshotArrived
  split
  · rfl
  · split
    · rfl
    · split
      · rfl
      · rename_i queued accepted
        exact submitDurable_coordinator config accepted

theorem lowers_projectSnapshot (clock : Time) (c : Coordinator) (rank : Int) (snapshot : PendingSnapshot) :
    Coordinator.Lowers c (projectSnapshot config clock c rank snapshot).1 := by
  have beginning := Coordinator.step_lowers config.allocation c
    ⟨clock, .beginSnapshot rank snapshot.snapshotId 1 snapshot.hash⟩ rfl
  unfold projectSnapshot
  split
  · rename_i begun detail answered
    simp only [Coordinator.step, answered] at beginning
    exact beginning
  · rename_i begun detail answered
    simp only [Coordinator.step, answered] at beginning
    have adding := Coordinator.step_lowers config.allocation begun
      ⟨clock, .addSnapshotChunk rank 0 (snapshot.items.map SnapshotItem.toJson)⟩ rfl
    split
    · rename_i added reason chunked
      simp only [Coordinator.step, chunked] at adding
      exact beginning.trans adding
    · rename_i added reason chunked
      simp only [Coordinator.step, chunked] at adding
      have completing := Coordinator.step_lowers config.allocation added
        ⟨clock, .completeSnapshot rank (some snapshot.hash) true⟩ rfl
      exact (beginning.trans adding).trans completing

theorem lowers_snapshotStaged (clock : Time) (h : HeadChannel) (rank : Int) (snapshot : PendingSnapshot)
    (outcome : StageOutcome) : Lowers h (h.snapshotStaged config clock rank snapshot outcome).1 := by
  have projecting := lowers_projectSnapshot config clock h.coordinator rank snapshot
  unfold snapshotStaged
  split
  · exact lowers_same rfl
  · exact lowers_same rfl
  · split
    · rename_i coordinator detail answered
      rw [answered] at projecting
      exact projecting
    · rename_i coordinator detail answered
      rw [answered] at projecting
      dsimp only
      split
      · split
        · exact projecting
        · rename_i queued accepted
          have same := submitDurable_coordinator config accepted
          unfold Lowers
          rw [same]
          exact projecting
      · unfold Lowers
        rw [publishSnapshot_coordinator]
        exact projecting

theorem snapshotCommitted_coordinator (clock : Time) (h : HeadChannel) (rank : Int) (snapshot : PendingSnapshot)
    (outcome : Except Raised Unit) :
    (h.snapshotCommitted clock rank snapshot outcome).1.coordinator = h.coordinator := by
  unfold snapshotCommitted
  split
  · rfl
  · exact publishSnapshot_coordinator _ _ _ _

theorem onSnapshotAck_refused {clock : Time} {h : HeadChannel} {rank : Int} {result : CommandResult}
    (refused : ∀ detail, (h.onSnapshotAck clock rank result).2 ≠ .ok (true, detail)) :
    (h.onSnapshotAck clock rank result).1.coordinator = h.coordinator := by
  unfold onSnapshotAck at refused ⊢
  split
  · rfl
  · rename_i snapshotId completeSetHash named
    simp only [named] at refused
    refine Coordinator.acknowledgeSnapshot_refused ?_
    rw [Bool.eq_false_iff]
    intro accepted
    refine refused (Coordinator.acknowledgeSnapshot clock h.coordinator rank result.commandId snapshotId
      completeSetHash result.ok).2.2 ?_
    rw [← accepted]

/-- A disconnect leaves the coordinator's `onDisconnect`, whatever it raises. -/
theorem onSessionChange_lost (clock : Time) (h : HeadChannel) (rank : Int) (expected : Bool) :
    (h.onSessionChange config clock rank false expected).1.coordinator =
      (h.coordinator.onDisconnect clock rank expected).1 := by
  unfold onSessionChange
  simp only [Bool.false_eq_true, if_false]
  have dropping : ∀ before : HeadChannel,
      (before.dropEvidence config rank expected).1.coordinator = before.coordinator := by
    intro before
    unfold dropEvidence
    split
    · exact submitted_coordinator config _ _
    · rfl
  split
  · rename_i kept error answered
    have same := dropping { h with coordinator := (h.coordinator.onDisconnect clock rank expected).1 }
    rw [answered] at same
    exact same
  · rename_i dropped answered
    have same := dropping { h with coordinator := (h.coordinator.onDisconnect clock rank expected).1 }
    rw [answered] at same
    split <;> exact same

theorem lowers_act (clock : Time) (transportFailure : Option String) (h : HeadChannel) (action : HeadAction) :
    Lowers h (h.act config clock transportFailure action) := by
  have reporting : ∀ failure, Lowers h (h.addNewFailure failure) := by
    intro failure
    refine lowers_same ?_
    unfold addNewFailure
    split
    · split <;> rfl
    · rfl
  cases action with
  | beginRegistration => exact Coordinator.step_lowers config.allocation h.coordinator ⟨clock, .beginRegistration⟩ rfl
  | start => exact Coordinator.step_lowers config.allocation h.coordinator ⟨clock, .start⟩ rfl
  | requestDrain rank => exact Coordinator.step_lowers config.allocation h.coordinator ⟨clock, .requestDrain rank⟩ rfl
  | reportTransport => exact reporting transportFailure
  | pollLeases => exact Coordinator.step_lowers config.allocation h.coordinator ⟨clock, .pollLeases none⟩ rfl
  | checkRegistrationDeadline =>
    exact Coordinator.step_lowers config.allocation h.coordinator ⟨clock, .checkRegistrationDeadline⟩ rfl
  | checkGraceDeadlines =>
    exact Coordinator.step_lowers config.allocation h.coordinator ⟨clock, .checkGraceDeadlines none⟩ rfl
  | reportTerminal => exact reporting _
  | durableDone => exact lowers_same rfl
  | closeDurable => exact lowers_same rfl

/-- Of all the head's callbacks only an accepted acknowledgment raises a rank. -/
theorem callbacks_lower : (callbacks config).Within Lowers where
  refl h := .refl h.coordinator
  trans := .trans
  onRegister clock h rank nodeId instanceId :=
    Coordinator.step_lowers config.allocation h.coordinator ⟨clock, .onRegister rank nodeId instanceId⟩ rfl
  onObservation clock h rank obs := lowers_same (onObservation_coordinator clock h rank obs)
  onReceipt _ h rank payload := lowers_same (onReceipt_coordinator config h rank payload)
  arrived callback clock h rank snapshot given := by
    cases given
    exact lowers_same (snapshotArrived_coordinator config h rank snapshot)
  staged callback clock h rank snapshot outcome given := by
    cases given
    exact lowers_snapshotStaged config clock h rank snapshot outcome
  committed callback clock h rank snapshot outcome given := by
    cases given
    exact lowers_same (snapshotCommitted_coordinator clock h rank snapshot outcome)
  onSnapshotAck clock h rank result refused := lowers_same (onSnapshotAck_refused refused)
  onProtocolViolation clock h rank reason :=
    Coordinator.step_lowers config.allocation h.coordinator ⟨clock, .protocolViolation rank reason⟩ rfl
  onHeartbeat clock h rank :=
    Coordinator.step_lowers config.allocation h.coordinator ⟨clock, .onHeartbeat rank none⟩ rfl
  onSessionChange clock h rank connected expected := by
    cases connected with
    | true => exact lowers_same rfl
    | false =>
      unfold Lowers
      dsimp only [callbacks]
      rw [onSessionChange_lost]
      exact Coordinator.step_lowers config.allocation h.coordinator ⟨clock, .onDisconnect rank expected none⟩ rfl
  act clock failure h action := lowers_act config clock failure h action

end HeadChannel

namespace Head

open Listener

/-- The connection is alive and its session, authenticated for the rank, has crossed
    the barrier with the snapshot the coordinator holds. -/
structure Backs (head : Head) (rank : Int) (session : RankSession) (c : Nat) : Prop where
  live : (head.connections c).phase.live = true
  info : ∃ info, head.session c = some info ∧ info.rank = rank ∧ info.registered = true ∧
    info.established = true
  acked : (head.connections c).acked = some (session.snapshotId, session.completeSetHash)

/-- A registered session is alive and is the one entered for its rank; a rank the
    coordinator holds ESTABLISHED is backed by the session entered for it. -/
structure Agreed (head : Head) : Prop where
  entered : ∀ c info, head.session c = some info → info.registered = true →
    (head.connections c).phase.live = true ∧ head.sessions.get? info.rank = some c
  backed : ∀ rank session, head.owner.coordinator.sessions.get? rank = some session →
    session.state = .established → ∃ c, head.sessions.get? rank = some c ∧ head.Backs rank session c

/-- What the agreement sees of a session. -/
def standing (info : SessionInfo) : Int × Bool × Bool := (info.rank, info.registered, info.established)

theorem standing_eq {info later : SessionInfo} (same : standing later = standing info) :
    later.rank = info.rank ∧ later.registered = info.registered ∧ later.established = info.established := by
  simpa [standing] using same

/-- The agreement survives changes of what it does not see. -/
theorem Agreed.kept {before after : Head} (agreed : before.Agreed)
    (lowers : HeadChannel.Lowers before.owner after.owner) (sessions : after.sessions = before.sessions)
    (live : ∀ d, (before.connections d).phase.live = true → (after.connections d).phase.live = true)
    (acked : ∀ d, (after.connections d).acked = (before.connections d).acked)
    (standings : ∀ d, (after.session d).map standing = (before.session d).map standing) : after.Agreed := by
  refine ⟨?_, ?_⟩
  · intro c now held registered
    have same := standings c
    rw [held, Option.map_some] at same
    obtain ⟨info, info_held, info_same⟩ := Option.map_eq_some_iff.mp same.symm
    obtain ⟨rank_same, registered_same, -⟩ := standing_eq info_same
    obtain ⟨alive, listed⟩ := agreed.entered c info info_held (registered_same.trans registered)
    exact ⟨live c alive, by rw [sessions, ← rank_same, listed]⟩
  · intro rank session found state
    obtain ⟨earlier, earlier_found, earlier_state, id_same, hash_same⟩ :=
      lowers.established rank session found state
    obtain ⟨c, listed, backs⟩ := agreed.backed rank earlier earlier_found earlier_state
    obtain ⟨info, held, info_rank, registered, established⟩ := backs.info
    refine ⟨c, by rw [sessions, listed], live c backs.live, ?_, ?_⟩
    · have same := standings c
      rw [held, Option.map_some] at same
      obtain ⟨now, now_held, now_same⟩ := Option.map_eq_some_iff.mp same
      obtain ⟨rank_same, registered_same, established_same⟩ := standing_eq now_same
      exact ⟨now, now_held, rank_same.trans info_rank, registered_same.trans registered,
        established_same.trans established⟩
    · rw [acked, backs.acked, id_same, hash_same]

theorem Agreed.setConnection {head : Head} (agreed : head.Agreed) {c : Nat} {connection : Connection}
    {info later : SessionInfo} (held : head.session c = some info) (now : connection.session = some later)
    (phase : connection.phase = (head.connections c).phase) (acked : connection.acked = (head.connections c).acked)
    (same : standing later = standing info) : Agreed (head.setConnection c connection) := by
  refine agreed.kept (.refl _) rfl ?_ ?_ ?_
  · intro d alive
    by_cases here : d = c
    · subst here
      rw [setConnection_self, phase]
      exact alive
    · rw [setConnection_ne _ _ here]
      exact alive
  · intro d
    by_cases here : d = c
    · subst here
      rw [setConnection_self, acked]
    · rw [setConnection_ne _ _ here]
  · intro d
    unfold session at held ⊢
    by_cases here : d = c
    · subst here
      rw [setConnection_self, now, held, Option.map_some, Option.map_some, same]
    · rw [setConnection_ne _ _ here]

theorem agreed_quiet {before after : Head} (agreed : before.Agreed)
    (quiet : Quiet HeadChannel.Lowers before after) : after.Agreed := by
  have parts : ∀ d, (after.connections d).phase = (before.connections d).phase ∧
      (after.session d).map SessionInfo.core = (before.session d).map SessionInfo.core ∧
      (after.connections d).acked = (before.connections d).acked := by
    intro d
    have same := quiet.connections d
    simp only [Connection.core, Connection.mk.injEq] at same
    exact ⟨same.1, same.2.1, same.2.2.1⟩
  refine agreed.kept quiet.owner quiet.sessions ?_ (fun d => (parts d).2.2) ?_
  · intro d alive
    rw [(parts d).1]
    exact alive
  · intro d
    have core_standing : ∀ info : SessionInfo, standing info.core = standing info := fun _ => rfl
    have same := congrArg (Option.map standing) (parts d).2.1
    simpa [Option.map_map, Function.comp_def, core_standing] using same

theorem agreed_moved {head : Head} (agreed : head.Agreed) (c : Nat) {phase : Phase} (live : phase.live = true) :
    Agreed (head.setPhase c phase) := by
  refine agreed.kept (.refl _) rfl ?_ ?_ ?_
  · intro d alive
    by_cases here : d = c
    · subst here
      rw [setPhase, setConnection_self]
      exact live
    · rw [setPhase, setConnection_ne _ _ here]
      exact alive
  · intro d
    by_cases here : d = c
    · subst here
      rw [setPhase, setConnection_self]
    · rw [setPhase, setConnection_ne _ _ here]
  · intro d
    rw [session_setPhase]

/-- A connection that no ESTABLISHED rank rests on. -/
theorem backs_elsewhere {head : Head} (agreed : head.Agreed) {c : Nat}
    (idle : ∀ info, head.session c = some info → info.registered = true → info.established = false)
    {rank : Int} {session : RankSession} (found : head.owner.coordinator.sessions.get? rank = some session)
    (state : session.state = .established) :
    ∃ d, d ≠ c ∧ head.sessions.get? rank = some d ∧ head.Backs rank session d := by
  obtain ⟨d, listed, backs⟩ := agreed.backed rank session found state
  refine ⟨d, ?_, listed, backs⟩
  rintro rfl
  obtain ⟨info, held, -, registered, established⟩ := backs.info
  rw [idle info held registered] at established
  cases established

/-- Other connections are as before. -/
theorem Backs.elsewhere {before after : Head} {rank : Int} {session : RankSession} {c d : Nat}
    (backs : before.Backs rank session d) (other : d ≠ c)
    (same : ∀ e, e ≠ c → after.connections e = before.connections e) : after.Backs rank session d := by
  have equal := same d other
  obtain ⟨info, held, rest⟩ := backs.info
  refine ⟨by rw [equal]; exact backs.live, ⟨info, ?_, rest⟩, by rw [equal]; exact backs.acked⟩
  unfold Listener.session at held ⊢
  rw [equal]
  exact held

theorem session_elsewhere {before after : Head} {c d : Nat} (other : d ≠ c)
    (same : ∀ e, e ≠ c → after.connections e = before.connections e) : after.session d = before.session d := by
  unfold Listener.session
  rw [same d other]

theorem agreed_entered {config : HeadConfig} {head : Head} (agreed : head.Agreed) {c : Nat} {env : Envelope}
    {clock : Time} (live : (head.connections c).phase.live = true)
    (free : (head.session c).any SessionInfo.registered = false)
    (allowed : head.registerRefusal config.listener env = none) :
    Agreed (head.register config.listener clock c env) := by
  have unregistered : head.registeredNow env.senderRank = false := by
    unfold registerRefusal at allowed
    split_ifs at allowed with malformed range sequence node taken
    simpa using taken
  have same : ∀ d, d ≠ c →
      (head.register config.listener clock c env).connections d = head.connections d :=
    fun d other => setConnection_ne head _ other
  have here : (head.register config.listener clock c env).session c = some (registeredSession clock env) := by
    unfold register session
    simp
  have sessions : (head.register config.listener clock c env).sessions =
      head.sessions.insert env.senderRank c := rfl
  have vacant : ∀ d info, head.sessions.get? env.senderRank = some d → head.session d = some info →
      info.registered = false := by
    intro d info listed held
    unfold registeredNow current at unregistered
    rw [listed, Option.bind_some, held] at unregistered
    exact unregistered
  refine ⟨?_, ?_⟩
  · intro d info held registered
    by_cases other : d = c
    · subst other
      rw [here] at held
      cases held
      refine ⟨?_, by rw [sessions]; exact Dict.get?_insert_self _ _ _⟩
      unfold register
      simpa using live
    · rw [session_elsewhere other same] at held
      obtain ⟨alive, listed⟩ := agreed.entered d info held registered
      rw [same d other, sessions]
      refine ⟨alive, ?_⟩
      have apart : env.senderRank ≠ info.rank := by
        intro equal
        rw [← equal] at listed
        rw [vacant d info listed held] at registered
        cases registered
      rw [Dict.get?_insert_ne _ _ apart, listed]
  · intro rank session found state
    have idle : ∀ info, head.session c = some info → info.registered = true → info.established = false := by
      intro info held registered
      rw [held] at free
      simp [registered] at free
    obtain ⟨d, other, listed, backs⟩ := backs_elsewhere agreed idle found state
    refine ⟨d, ?_, backs.elsewhere other same⟩
    have apart : env.senderRank ≠ rank := by
      rintro rfl
      obtain ⟨info, held, -, registered, -⟩ := backs.info
      rw [vacant d info listed held] at registered
      cases registered
    rw [sessions, Dict.get?_insert_ne _ _ apart, listed]

/-- A connection leaves: its session is not registered any more and no rank rests on it. -/
theorem agreed_retired {before after : Head} (agreed : before.Agreed) {c : Nat}
    (sessions : after.sessions = before.sessions)
    (same : ∀ e, e ≠ c → after.connections e = before.connections e)
    (retired : ∀ info, after.session c = some info → info.registered = false)
    (elsewhere : ∀ rank session, after.owner.coordinator.sessions.get? rank = some session →
      session.state = .established →
        ∃ d, d ≠ c ∧ before.sessions.get? rank = some d ∧ before.Backs rank session d) : after.Agreed := by
  refine ⟨?_, ?_⟩
  · intro d info held registered
    have other : d ≠ c := by
      rintro rfl
      rw [retired info held] at registered
      cases registered
    rw [session_elsewhere other same] at held
    rw [same d other, sessions]
    exact agreed.entered d info held registered
  · intro rank session found state
    obtain ⟨d, other, listed, backs⟩ := elsewhere rank session found state
    exact ⟨d, by rw [sessions, listed], backs.elsewhere other same⟩

theorem onDisconnect_not_established {c after : Coordinator} {now : Time} {rank : Int} {expected : Bool}
    (lost : after = (Coordinator.onDisconnect now c rank expected).1) {session : RankSession}
    (found : after.sessions.get? rank = some session) : session.state ≠ .established := by
  rw [lost, Coordinator.onDisconnect_session, Option.map_eq_some_iff] at found
  obtain ⟨earlier, -, rfl⟩ := found
  simp only [if_true]
  unfold Coordinator.disconnectEffect
  split_ifs <;> simp

theorem agreed_revoked {config : HeadConfig} {head : Head} (agreed : head.Agreed) {c : Nat} {info : SessionInfo}
    {clock : Time} {expected : Bool} (held : head.session c = some info) :
    Agreed { head.setConnection c { head.connections c with
        phase := .closed
        session := some { info with registered := false, established := false } } with
      owner := (head.owner.onSessionChange config clock info.rank false expected).1 } := by
  have lost := HeadChannel.onSessionChange_lost config clock head.owner info.rank expected
  have lowers : HeadChannel.Lowers head.owner
      (head.owner.onSessionChange config clock info.rank false expected).1 :=
    (HeadChannel.callbacks_lower config).onSessionChange clock head.owner info.rank false expected
  refine agreed_retired agreed (c := c) rfl (fun e other => setConnection_ne head _ other) ?_ ?_
  · intro now now_held
    simp only [Listener.session, setConnection_self, Option.some.injEq] at now_held
    rw [← now_held]
  · intro rank session found state
    dsimp only at found
    have apart : rank ≠ info.rank := by
      rintro rfl
      exact onDisconnect_not_established lost found state
    obtain ⟨earlier, earlier_found, earlier_state, id_same, hash_same⟩ :=
      lowers.established rank session found state
    obtain ⟨d, listed, backs⟩ := agreed.backed rank earlier earlier_found earlier_state
    refine ⟨d, ?_, listed, backs.live, backs.info, by rw [backs.acked, id_same, hash_same]⟩
    rintro rfl
    obtain ⟨other, other_held, other_rank, -, -⟩ := backs.info
    rw [held] at other_held
    cases other_held
    exact apart other_rank.symm

theorem agreed_acknowledged {head : Head} (agreed : head.Agreed) {c : Nat} {info : SessionInfo} {clock : Time}
    {result : CommandResult} {owner : HeadChannel} {detail : String} (held : head.session c = some info)
    (registered : info.registered = true)
    (answer : head.owner.onSnapshotAck clock info.rank result = (owner, .ok (true, detail))) :
    Agreed ({ head with owner }.setConnection c { head.connections c with
      session := some { info with established := true, pendingSnapshotCommandId := "" }
      acked := result.snapshot }) := by
  obtain ⟨alive, listed⟩ := agreed.entered c info held registered
  obtain ⟨snapshotId, completeSetHash, named, held_session, held_found, id_same, hash_same, inserted⟩ :
      ∃ snapshotId completeSetHash, result.snapshot = some (snapshotId, completeSetHash) ∧
        ∃ session, head.owner.coordinator.sessions.get? info.rank = some session ∧
          session.snapshotId = snapshotId ∧ session.completeSetHash = completeSetHash ∧
          owner.coordinator.sessions = head.owner.coordinator.sessions.insert info.rank { session with
            snapshotAccepted := true, state := .established, lastHeartbeatAt := some clock } := by
    unfold HeadChannel.onSnapshotAck at answer
    split at answer
    · cases answer
    · rename_i snapshotId completeSetHash named
      simp only [Prod.mk.injEq, Except.ok.injEq] at answer
      obtain ⟨owner_same, verdict⟩ := answer
      have accepted := Coordinator.acknowledgeSnapshot_accepted (congrArg Prod.fst verdict)
      obtain ⟨session, found, ids, hashes, sessions⟩ := accepted
      exact ⟨snapshotId, completeSetHash, named, session, found, ids, hashes, by rw [← owner_same, ← sessions]⟩
  have same : ∀ d, d ≠ c → ({ head with owner }.setConnection c { head.connections c with
      session := some { info with established := true, pendingSnapshotCommandId := "" }
      acked := result.snapshot }).connections d = head.connections d :=
    fun d other => setConnection_ne _ _ other
  refine ⟨?_, ?_⟩
  · intro d now now_held now_registered
    by_cases here : d = c
    · subst here
      simp only [Listener.session, setConnection_self, Option.some.injEq] at now_held
      subst now_held
      rw [setConnection_self]
      exact ⟨alive, listed⟩
    · rw [session_elsewhere here same] at now_held
      rw [same d here]
      exact agreed.entered d now now_held now_registered
  · intro rank session found state
    have found_in : owner.coordinator.sessions.get? rank = some session := found
    by_cases here : rank = info.rank
    · subst here
      rw [inserted, Dict.get?_insert_self, Option.some.injEq] at found_in
      subst found_in
      refine ⟨c, listed, ?_, ?_, ?_⟩
      · rw [setConnection_self]
        exact alive
      · refine ⟨{ info with established := true, pendingSnapshotCommandId := "" }, ?_, rfl, registered, rfl⟩
        simp [Listener.session]
      · rw [setConnection_self, named, id_same, hash_same]
    · rw [inserted, Dict.get?_insert_ne _ _ (fun equal => here equal.symm)] at found_in
      obtain ⟨d, d_listed, backs⟩ := agreed.backed rank session found_in state
      refine ⟨d, d_listed, backs.elsewhere ?_ same⟩
      rintro rfl
      obtain ⟨other, other_held, other_rank, -, -⟩ := backs.info
      rw [held] at other_held
      cases other_held
      exact here other_rank.symm

theorem standing_remembered {info remembered : SessionInfo} {snapshot : PendingSnapshot}
    (memory : rememberAll (withSnapshot info snapshot) snapshot.observations = .ok remembered) :
    standing remembered = standing info := by
  have unseen : ∀ obs ∈ snapshot.observations, (withSnapshot info snapshot).seenObs.get? obs.dedupKey = none :=
    fun _ _ => rfl
  obtain ⟨seenObs, -, result⟩ := rememberAll_ok snapshot.distinct unseen (Nat.zero_le _)
  rw [memory] at result
  cases result
  rfl

theorem standing_pinned {info pinned : SessionInfo} {obs : ComponentObservation}
    (checked : pinInstance info obs = .pinned pinned) : standing pinned = standing info := by
  unfold pinInstance at checked
  split at checked <;> split at checked <;> cases checked <;> rfl

theorem standing_remember {info later : SessionInfo} {key : DedupKey} {fingerprint : String} {novel : Bool}
    (kept : info.remember key fingerprint = .ok (later, novel)) : standing later = standing info := by
  unfold SessionInfo.remember at kept
  split at kept
  · split at kept <;> cases kept
    rfl
  · cases kept
    unfold standing
    rfl

theorem agreed_effect {config : HeadConfig} {origin : Head} {timed : Time × HeadEvent HeadAction} (head after : Head)
    (effect : Effect config.listener (HeadChannel.callbacks config) HeadChannel.Lowers origin timed head after)
    (agreed : head.Agreed) : after.Agreed := by
  cases effect with
  | quiet same => exact agreed_quiet agreed same
  | moved c phase live => exact agreed_moved agreed c live
  | entered c env live free allowed => exact agreed_entered agreed live free allowed
  | @withdrawn c info held waiting =>
    refine agreed_retired agreed (c := c) rfl (fun e other => setConnection_ne head _ other) ?_ ?_
    · intro now now_held
      rw [session_setSession] at now_held
      cases now_held
      rfl
    · intro rank session found state
      refine backs_elsewhere agreed ?_ found state
      intro now now_held _
      rw [held] at now_held
      cases now_held
      exact waiting
  | replaced snapshot held memory =>
    have same := standing_remembered memory
    exact agreed.setConnection held rfl rfl rfl same
  | issued rank body novel => exact agreed.kept (.refl _) rfl (fun _ alive => alive) (fun _ => rfl) fun _ => rfl
  | commanded writer seq named asked same =>
    exact agreed.kept (.refl _) rfl (fun _ alive => alive) (fun _ => rfl) fun _ => rfl
  | pinned obs held checked => exact agreed.setConnection held rfl rfl rfl (standing_pinned checked)
  | remembered obs held kept => exact agreed.setConnection held rfl rfl rfl (standing_remember kept)
  | delivered obs held instance_ ahead => exact agreed.setConnection held rfl rfl rfl rfl
  | stored since arrived kind held registered sender parsed asked agrees opened single =>
    exact agreed.kept (.refl _) rfl (fun _ alive => alive) (fun _ => rfl) fun _ => rfl
  | acknowledged held registered named answer => exact agreed_acknowledged agreed held registered answer
  | revoked expected held registered => exact agreed_revoked agreed held
  | closed c idle =>
    refine agreed_retired agreed (c := c) rfl (fun e other => setConnection_ne head _ other) ?_ ?_
    · intro info held
      rw [session_setPhase] at held
      rw [held] at idle
      exact idle
    · intro rank session found state
      refine backs_elsewhere agreed ?_ found state
      intro info held registered
      rw [held] at idle
      simp [registered] at idle

theorem agreed_create (config : HeadConfig) : (create config).Agreed := by
  refine ⟨?_, ?_⟩
  · intro c info held
    cases held
  intro rank session found state
  have fresh : session.state = .expected := by
    simp only [create, HeadChannel.create, Coordinator.create, Dict.get?_ofKeys] at found
    split at found
    · cases found
      rfl
    · cases found
  rw [fresh] at state
  cases state

theorem run_agreed (config : HeadConfig) (events : List (Time × HeadEvent HeadAction)) :
    Agreed (run (step config) (create config) events) :=
  run_turns (HeadChannel.callbacks_lower config) (fun _ _ => agreed_effect) (agreed_create config) events

theorem onSnapshotAck_planned (clock : Time) (h : HeadChannel) (target : Int) (result : CommandResult) (rank : Int) :
    ((h.onSnapshotAck clock target result).1.coordinator.sessions.get? rank).isSome =
      (h.coordinator.sessions.get? rank).isSome := by
  unfold HeadChannel.onSnapshotAck
  split
  · rfl
  · dsimp only
    rw [Coordinator.acknowledgeSnapshot_session, Option.isSome_map]

/-- The coordinator has a session for exactly the planned ranks. -/
def Planned (config : HeadConfig) (head : Head) : Prop :=
  ∀ rank, (head.owner.coordinator.sessions.get? rank).isSome = decide (rank ∈ config.allocation.binding.ranks)

theorem planned_effect {config : HeadConfig} {origin : Head} {timed : Time × HeadEvent HeadAction}
    (head after : Head)
    (effect : Effect config.listener (HeadChannel.callbacks config) HeadChannel.Lowers origin timed head after)
    (planned : head.Planned config) : after.Planned config := by
  intro rank
  rcases effect_owner (HeadChannel.callbacks_lower config) effect with lowers | ⟨target, result, detail, answer⟩
  · rw [← planned rank]
    exact lowers.planned rank
  · have kept := onSnapshotAck_planned timed.1 head.owner target result rank
    have owner : (head.owner.onSnapshotAck timed.1 target result).1 = after.owner := congrArg Prod.fst answer
    rw [owner, planned rank] at kept
    exact kept

theorem run_planned (config : HeadConfig) (events : List (Time × HeadEvent HeadAction)) :
    Planned config (run (step config) (create config) events) := by
  have initial : (create config).Planned config := by
    intro rank
    simp only [create, HeadChannel.create, Coordinator.create, Dict.get?_ofKeys]
    split <;> simp [*]
  exact run_turns (HeadChannel.callbacks_lower config) (fun _ _ => planned_effect) initial events

/-- Whatever happens to a head, a rank its coordinator holds ESTABLISHED has exactly
    one live authenticated connection, which has crossed the barrier with the snapshot
    the coordinator holds; so when START is allowed every planned rank has one. -/
theorem established_ranks_backed (config : HeadConfig) (events : List (Time × HeadEvent HeadAction)) :
    let head := run (step config) (create config) events
    (∀ rank session, head.owner.coordinator.sessions.get? rank = some session → session.state = .established →
      ∃ c, head.Backs rank session c ∧
        ∀ d info, (head.connections d).phase.live = true → head.session d = some info →
          info.registered = true → info.rank = rank → d = c) ∧
      (head.owner.coordinator.mayStart.1 = true → ∀ rank ∈ config.allocation.binding.ranks,
        ∃ session c, head.owner.coordinator.sessions.get? rank = some session ∧ head.Backs rank session c) := by
  intro head
  have agreed : head.Agreed := run_agreed config events
  refine ⟨?_, ?_⟩
  · intro rank session found state
    obtain ⟨c, listed, backs⟩ := agreed.backed rank session found state
    refine ⟨c, backs, ?_⟩
    rintro d info - held registered rfl
    have entered := (agreed.entered d info held registered).2
    rw [listed] at entered
    cases entered
    rfl
  · intro may rank planned
    have present := run_planned config events rank
    rw [decide_eq_true planned, Option.isSome_iff_exists] at present
    obtain ⟨session, found⟩ := present
    have ready : Coordinator.ready session = true := by
      unfold Coordinator.mayStart at may
      split_ifs at may with terminal pending
      simp only [Bool.not_eq_true', Bool.not_eq_false] at pending
      exact List.all_eq_true.mp pending session ((Dict.mem_values_iff _ _).mpr ⟨rank, found⟩)
    have state : session.state = .established := by
      simp only [Coordinator.ready, RankSession.isEstablished, Bool.and_eq_true, decide_eq_true_eq] at ready
      exact ready.1.1
    obtain ⟨c, -, backs⟩ := agreed.backed rank session found state
    exact ⟨session, c, found, backs⟩

end Head

end ExaServe.Control
