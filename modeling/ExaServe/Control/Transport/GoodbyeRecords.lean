import ExaServe.Control.Transport.Turns

namespace ExaServe.Control.Listener

open Lib Plan

variable {σ α : Type} (config : ListenerConfig) (callbacks : Callbacks σ α) (clock : Time)

/-- What has been issued, and who said GOODBYE. -/
def records (l : Listener σ) : Dict String (Int × List (String × Json)) × List Int :=
  (l.issuedCommands, l.receivedGoodbyes)

section Untouched

theorem records_same {before after : Listener σ} (issued : after.issuedCommands = before.issuedCommands)
    (goodbyes : after.receivedGoodbyes = before.receivedGoodbyes) : after.records = before.records :=
  Prod.ext issued goodbyes

@[simp] theorem records_setConnection (l : Listener σ) (c : Nat) (connection : Connection) :
    (l.setConnection c connection).records = l.records := rfl

@[simp] theorem records_setSession (l : Listener σ) (c : Nat) (info : SessionInfo) :
    (l.setSession c info).records = l.records := rfl

theorem records_recorded (l : Listener σ) (audits : List AuditRecord) (handlerFailures : List String) :
    ({ l with audits, handlerFailures } : Listener σ).records = l.records := rfl

@[simp] theorem records_audit (l : Listener σ) (record : AuditRecord) : (l.audit record).records = l.records := by
  unfold audit
  exact records_recorded l _ l.handlerFailures

@[simp] theorem records_recordFailure (l : Listener σ) (c : Nat) (error : Raised) :
    (l.recordFailure c error).records = l.records := by
  unfold recordFailure audit
  exact records_recorded l _ _

@[simp] theorem records_protocolViolation (l : Listener σ) (c : Nat) (reason detail : String) :
    (l.protocolViolation callbacks clock c reason detail).1.records = l.records := by
  unfold protocolViolation
  extract_lets session audited
  have recorded : audited.records = l.records := records_audit l _
  clear_value session audited
  rw [← recorded]
  cases session with
  | none => rfl
  | some info =>
    dsimp only
    split
    · rfl
    · split
      · exact records_same rfl rfl
      · exact records_same rfl rfl

@[simp] theorem records_violation (l : Listener σ) (c : Nat) (reason : RejectReason) (detail : String) :
    (l.violation callbacks clock c reason detail).1.records = l.records :=
  records_protocolViolation callbacks clock l c reason.value detail

@[simp] theorem records_refuse (l : Listener σ) (c : Nat) (error : Raised) (label : String) :
    (l.refuse callbacks clock c error label).1.records = l.records := by
  unfold refuse
  split
  · exact records_violation callbacks clock l c _ _
  · exact records_same rfl rfl

@[simp] theorem records_writeSession (l : Listener σ) (c : Nat) (rank : Int) (kind : EnvelopeKind)
    (payload : List (String × Json)) (on : Suspension) :
    (l.writeSession config c rank kind payload on).1.records = l.records := by
  unfold writeSession
  dsimp only
  split <;> exact records_same rfl rfl

@[simp] theorem records_handleReceipt (l : Listener σ) (c : Nat) (info : SessionInfo) (env : Envelope) :
    (l.handleReceipt callbacks clock c info env).1.records = l.records := by
  unfold handleReceipt sinkReceipt
  split
  · exact records_violation callbacks clock l c _ _
  split
  · exact records_violation callbacks clock l c _ _
  split
  · exact records_refuse callbacks clock l c _ _
  · split
    · rename_i answered
      rw [← (congrArg Prod.fst answered :)]
      exact records_same rfl rfl
    · rename_i answered
      rw [← (congrArg Prod.fst answered :)]
      exact records_same rfl rfl

@[simp] theorem records_handleHeartbeat (l : Listener σ) (c : Nat) (info : SessionInfo) (env : Envelope) :
    (l.handleHeartbeat config callbacks clock c info env).1.records = l.records := by
  unfold handleHeartbeat
  split
  · exact records_violation callbacks clock l c _ _
  split
  · exact records_violation callbacks clock l c _ _
  · dsimp only
    split
    · exact records_same rfl rfl
    · rw [records_writeSession]
      exact records_same rfl rfl

@[simp] theorem records_ackDrained (l : Listener σ) (c : Nat) :
    (l.ackDrained callbacks clock c).1.records = l.records := by
  unfold ackDrained
  split
  · exact records_same rfl rfl
  · dsimp only
    split <;> exact records_same rfl rfl

@[simp] theorem records_deliver (l : Listener σ) (c : Nat) (info : SessionInfo) (obs : ComponentObservation) :
    (l.deliver callbacks clock c info obs).1.records = l.records := by
  unfold deliver
  dsimp only
  split
  · exact records_same rfl rfl
  · rw [records_violation]
    exact records_same rfl rfl
  · exact records_same rfl rfl

@[simp] theorem records_sequenceObservation (l : Listener σ) (c : Nat) (info : SessionInfo)
    (obs : ComponentObservation) : (l.sequenceObservation callbacks clock c info obs).1.records = l.records := by
  unfold sequenceObservation
  dsimp only
  split
  · rw [records_violation]
    exact records_same rfl rfl
  split
  · rw [records_refuse]
    exact records_same rfl rfl
  split
  · exact records_same rfl rfl
  split
  · rw [records_violation]
    exact records_same rfl rfl
  · rw [records_deliver]
    exact records_same rfl rfl

@[simp] theorem records_applyObservation (l : Listener σ) (c : Nat) (info : SessionInfo) (item : Json) :
    (l.applyObservation config callbacks clock c info item).1.records = l.records := by
  unfold applyObservation
  split
  · exact records_protocolViolation callbacks clock l c _ _
  · exact records_same rfl rfl
  · split
    · exact records_violation callbacks clock l c _ _
    split
    · exact records_violation callbacks clock l c _ _
    split
    · exact records_violation callbacks clock l c _ _
    split
    · exact records_violation callbacks clock l c _ _
    split
    · exact records_violation callbacks clock l c _ _
    · exact records_violation callbacks clock l c _ _
    · exact records_sequenceObservation callbacks clock l c _ _

@[simp] theorem records_handleObservation (l : Listener σ) (c : Nat) (info : SessionInfo) (env : Envelope) :
    (l.handleObservation config callbacks clock c info env).1.records = l.records := by
  unfold handleObservation sinkReceipt
  split
  · exact records_violation callbacks clock l c _ _
  split
  · exact records_violation callbacks clock l c _ _
  dsimp only
  split
  · exact records_applyObservation config callbacks clock l c _ _
  split
  · exact records_refuse callbacks clock l c _ _
  split
  · rename_i answered
    rw [← (congrArg Prod.fst answered :)]
    exact records_same rfl rfl
  · rename_i sunk answered
    have sinking : sunk.records = l.records := by
      rw [Prod.mk.injEq] at answered
      rw [← answered.1]
      exact records_same rfl rfl
    exact (records_applyObservation config callbacks clock sunk c _ _).trans sinking

@[simp] theorem records_acknowledge (l : Listener σ) (c : Nat) (info : SessionInfo) (result : CommandResult) :
    (l.acknowledge config callbacks clock c info result).1.records = l.records := by
  unfold acknowledge
  dsimp only
  split
  · exact records_violation callbacks clock l c _ _
  split
  · exact records_same rfl rfl
  · rw [records_violation]
    exact records_same rfl rfl
  · exact records_same rfl rfl

@[simp] theorem records_handleRegister (l : Listener σ) (c : Nat) (env : Envelope) :
    (l.handleRegister config callbacks clock c env).1.records = l.records := by
  unfold handleRegister
  split
  · exact records_violation callbacks clock l c _ _
  split
  · exact records_audit l _
  · extract_lets entered info
    have entering : entered.records = l.records := records_same rfl rfl
    clear_value entered info
    rw [← entering]
    dsimp only
    split
    · exact records_same rfl rfl
    · rw [records_setSession, records_audit]
      exact records_same rfl rfl
    · rw [records_writeSession]
      exact records_same rfl rfl

@[simp] theorem records_finish (l : Listener σ) (c : Nat) :
    (l.finish callbacks clock c).records = l.records := by
  unfold finish
  split
  · exact records_same rfl rfl
  split
  · exact records_same rfl rfl
  · dsimp only
    split <;> exact records_same rfl rfl

@[simp] theorem records_settle (c : Nat) (turn : Listener σ × Flow) :
    (settle callbacks clock c turn).records = turn.1.records := by
  unfold settle
  split
  · exact records_same rfl rfl
  · exact records_same rfl rfl
  · exact records_finish callbacks clock turn.1 c
  · split
    · exact records_finish callbacks clock turn.1 c
    · rw [records_finish, records_recordFailure]

end Untouched

/-- The session entered for the rank is established and not yet allowed to leave. -/
def awaitsAuthority (l : Listener σ) (rank : Int) : Bool :=
  (l.current rank).any fun info => info.established && !info.expectedGoodbye

/-- The frame is the rank's successful answer to a DRAIN or STOP issued to it, in a
    session that is not yet allowed to leave. -/
def reauthorizes (l : Listener σ) (event : HeadEvent α) (rank : Int) : Bool :=
  match event with
  | .frame c env =>
    env.kind = .commandResult && ((l.session c).any fun info => info.registered && info.rank = rank) &&
      (match validateCommandResultPayload env.payload with
        | .ok result => (result.operation = .drain || result.operation = .stop) && result.ok &&
            (l.issuedCommands.get? result.commandId).any fun issued => issued.1 = rank
        | .error _ => false) &&
      l.awaitsAuthority rank
  | _ => false

/-- The operations of the commands that the event lets out. -/
def issues (event : HeadEvent α) (operation : String) : Prop :=
  operation = Operation.snapshotAccepted.value ∨
    match event with
    | .sendCommand _ _ sent _ => operation = sent
    | .broadcastCommand _ _ sent _ => operation = sent
    | _ => False

/-- What is issued in a turn, and which GOODBYEs outlast it. -/
structure Keeps (allowed : String → Prop) (forgets : Int → Prop) (before after : Listener σ) : Prop where
  issued : ∀ commandId request, after.issuedCommands.get? commandId = some request →
    before.issuedCommands.get? commandId = some request ∨
      ∃ operation, allowed operation ∧ Json.lookup "operation" request.2 = some (.str operation)
  goodbyes : ∀ rank ∈ before.receivedGoodbyes, ¬forgets rank → rank ∈ after.receivedGoodbyes

variable {allowed : String → Prop} {forgets : Int → Prop}

theorem Keeps.same {before after : Listener σ} (unchanged : after.records = before.records) :
    Keeps allowed forgets before after := by
  obtain ⟨issued, goodbyes⟩ := Prod.mk.injEq .. ▸ unchanged
  constructor
  · intro commandId request found
    rw [issued] at found
    exact .inl found
  · intro rank said _
    rw [goodbyes]
    exact said

theorem Keeps.trans {first second third : Listener σ} (early : Keeps allowed forgets first second)
    (late : Keeps allowed forgets second third) : Keeps allowed forgets first third where
  issued commandId request found := by
    rcases late.issued commandId request found with known | novel
    · exact early.issued commandId request known
    · exact .inr novel
  goodbyes rank said spared := late.goodbyes rank (early.goodbyes rank said spared) spared

theorem Keeps.after {first second third : Listener σ} (unchanged : second.records = first.records)
    (late : Keeps allowed forgets second third) : Keeps allowed forgets first third :=
  (Keeps.same unchanged).trans late

theorem Keeps.next {first second third : Listener σ} (early : Keeps allowed forgets first second)
    (unchanged : third.records = second.records) : Keeps allowed forgets first third :=
  early.trans (.same unchanged)

variable {config callbacks clock}

theorem commandBody_operation (commandId operation : String) (payload : List (String × Json)) :
    Json.lookup "operation" (commandBody commandId operation payload) = some (.str operation) := by
  simp [commandBody, Json.lookup]

theorem keeps_sendCommand (l : Listener σ) (rank : Int) (commandId : String) {operation : String}
    (permitted : allowed operation) (payload : List (String × Json)) :
    Keeps allowed forgets l (l.sendCommand config rank commandId operation payload).1 := by
  unfold sendCommand
  split
  · exact .same rfl
  split
  · exact .same rfl
  rename_i writer opened
  extract_lets body
  have recording : ∀ issued, l.rememberIssued commandId rank body = .ok issued → Keeps allowed forgets l issued := by
    intro issued recorded
    unfold rememberIssued at recorded
    split at recorded
    · split at recorded
      · cases recorded
      · cases recorded
        exact .same rfl
    · split at recorded
      · cases recorded
      · cases recorded
        refine ⟨fun other request found => ?_, fun other said _ => said⟩
        dsimp only at found
        rw [Dict.get?_insert] at found
        split at found
        · cases found
          exact .inr ⟨operation, permitted, commandBody_operation commandId operation payload⟩
        · exact .inl found
  clear_value body
  split
  · exact .same rfl
  · rename_i issued recorded
    dsimp only
    split
    · exact (recording issued recorded).next rfl
    · exact (recording issued recorded).next rfl

theorem keeps_snapshotAccepted (permitted : allowed Operation.snapshotAccepted.value) (l : Listener σ) (c : Nat)
    (info : SessionInfo) (snapshot : PendingSnapshot) :
    Keeps allowed forgets l (l.snapshotAccepted config c info snapshot).1 := by
  unfold snapshotAccepted
  split
  · exact .same rfl
  · have announcing : ∀ connection commandId payload, Keeps allowed forgets l
        ((l.setConnection c connection).sendCommand config info.rank commandId
          Operation.snapshotAccepted.value payload).1 :=
      fun connection commandId payload =>
        .after (records_setConnection l c connection) (keeps_sendCommand _ _ _ permitted _)
    dsimp only
    split
    · exact announcing _ _ _
    · exact announcing _ _ _
    · exact announcing _ _ _

theorem keeps_snapshotAnswered (permitted : allowed Operation.snapshotAccepted.value) (l : Listener σ) (c : Nat)
    (info : SessionInfo) (snapshot : PendingSnapshot) (answer : σ × SnapshotAnswer) :
    Keeps allowed forgets l (l.snapshotAnswered config callbacks clock c info snapshot answer).1 := by
  unfold snapshotAnswered
  extract_lets answered
  have told : answered.records = l.records := rfl
  clear_value answered
  split
  · exact .same ((records_violation callbacks clock answered c _ _).trans told)
  · exact .same told
  · exact .same told
  · exact .same told
  · exact .after told (keeps_snapshotAccepted permitted answered c info snapshot)

theorem keeps_handleSnapshot (permitted : allowed Operation.snapshotAccepted.value) (l : Listener σ) (c : Nat)
    (info : SessionInfo) (env : Envelope) :
    Keeps allowed forgets l (l.handleSnapshot config callbacks clock c info env).1 := by
  unfold handleSnapshot
  extract_lets assembled buffered
  have buffering : buffered.records = l.records := rfl
  clear_value buffered
  split
  · exact .same ((records_violation callbacks clock buffered c _ _).trans buffering)
  · exact .same buffering
  · split
    · exact .same ((records_refuse callbacks clock buffered c _ _).trans buffering)
    · exact .after buffering (keeps_snapshotAnswered permitted buffered c info _ _)

theorem keeps_handleGoodbye (l : Listener σ) (c : Nat) (info : SessionInfo) (env : Envelope) :
    Keeps allowed forgets l (l.handleGoodbye callbacks clock c info env).1 := by
  unfold handleGoodbye
  split
  · exact .same (records_violation callbacks clock l c _ _)
  split
  · exact .same (records_violation callbacks clock l c _ _)
  · refine ⟨fun commandId request found => .inl found, ?_⟩
    intro rank said _
    by_cases same : rank = info.rank
    · exact List.mem_cons.mpr (.inl same)
    · exact List.mem_cons_of_mem _ (List.mem_filter.mpr ⟨said, decide_eq_true same⟩)

/-- Only an authority given anew forgets a GOODBYE. -/
theorem keeps_expectGoodbye {l expecting : Listener σ} {rank : Int} (expected : l.expectGoodbye rank = .ok expecting)
    (forgotten : l.awaitsAuthority rank = true → forgets rank) : Keeps allowed forgets l expecting := by
  unfold expectGoodbye at expected
  split at expected
  · cases expected
  · rename_i c entered
    split at expected
    · cases expected
    · rename_i info held
      split at expected
      · cases expected
        exact .same rfl
      · rename_i unexpected
        split at expected
        · cases expected
        · rename_i established
          cases expected
          refine ⟨fun commandId request found => .inl found, ?_⟩
          intro other said spared
          have waiting : l.awaitsAuthority rank = true := by
            unfold awaitsAuthority current
            rw [entered, Option.bind_some, held, Option.any_some]
            simpa [unexpected] using established
          refine List.mem_filter.mpr ⟨said, decide_eq_true ?_⟩
          rintro rfl
          exact spared (forgotten waiting)

theorem keeps_acceptResult (l : Listener σ) (c : Nat) (info : SessionInfo) (senderRank : Int)
    {result : CommandResult} (forgotten : (result.operation = .drain ∨ result.operation = .stop) → result.ok = true →
      l.awaitsAuthority info.rank = true → forgets info.rank) :
    Keeps allowed forgets l (l.acceptResult config callbacks clock c info senderRank result).1 := by
  unfold acceptResult
  split
  · exact .same (records_violation callbacks clock l c _ _)
  · unfold storeResult
    extract_lets stored
    have storing : stored.records = l.records := rfl
    have waiting : stored.awaitsAuthority info.rank = l.awaitsAuthority info.rank := rfl
    clear_value stored
    by_cases leaving : (result.operation = .drain ∨ result.operation = .stop) ∧ result.ok = true
    · rw [if_pos leaving]
      rcases expected : stored.expectGoodbye info.rank with error | expecting
      · exact .same storing
      · have authorizing : Keeps allowed forgets l expecting := by
          refine .after storing (keeps_expectGoodbye expected fun awaiting => ?_)
          exact forgotten leaving.1 leaving.2 (waiting ▸ awaiting)
        dsimp only
        split
        · exact authorizing.next (records_acknowledge config callbacks clock expecting c _ _)
        · exact authorizing
    · rw [if_neg leaving]
      dsimp only
      split
      · exact .same ((records_acknowledge config callbacks clock stored c _ _).trans storing)
      · exact .same storing

theorem awaitsAuthority_advanced {l : Listener σ} {c : Nat} {info : SessionInfo} (held : l.session c = some info)
    (seq : Int) (rank : Int) :
    (l.setSession c { info with lastSeq := seq }).awaitsAuthority rank = l.awaitsAuthority rank := by
  unfold awaitsAuthority current
  change Option.any _ ((l.sessions.get? rank).bind _) = _
  rcases l.sessions.get? rank with _ | d
  · rfl
  · rw [Option.bind_some, Option.bind_some]
    by_cases same : d = c
    · rw [same, session_setSession, held]
      rfl
    · unfold session setSession
      rw [setConnection_ne _ _ same]

theorem keeps_handleSession {l : Listener σ} {c : Nat} {info : SessionInfo} {env : Envelope} {event : HeadEvent α}
    (permitted : allowed Operation.snapshotAccepted.value) (arrived : event = .frame c env)
    (held : l.session c = some info) (registered : info.registered = true)
    (forgotten : ∀ rank, l.reauthorizes event rank = true → forgets rank) :
    Keeps allowed forgets l (l.handleSession config callbacks clock c info env).1 := by
  unfold handleSession
  split
  · exact .same (records_violation callbacks clock l c _ _)
  split
  · exact .same (records_violation callbacks clock l c _ _)
  · extract_lets advanced
    have awaiting := fun rank => awaitsAuthority_advanced held env.seq rank
    have advancing : (l.setSession c advanced).records = l.records := rfl
    refine .after advancing ?_
    have issued : (l.setSession c advanced).issuedCommands = l.issuedCommands := rfl
    change ∀ rank, (l.setSession c advanced).awaitsAuthority rank = l.awaitsAuthority rank at awaiting
    generalize l.setSession c advanced = current at awaiting issued
    unfold handleKind
    split
    · exact keeps_handleSnapshot permitted current c advanced env
    · exact .same (records_handleObservation config callbacks clock current c advanced env)
    · exact .same (records_handleHeartbeat config callbacks clock current c advanced env)
    · exact .same (records_handleReceipt callbacks clock current c advanced env)
    · rename_i kind
      unfold handleCommandResult
      split
      · exact .same (records_refuse callbacks clock current c _ _)
      rename_i result parsed
      split
      · exact .same (records_violation callbacks clock current c _ _)
      rename_i issuedRank body asked
      split
      · exact .same (records_violation callbacks clock current c _ _)
      rename_i own
      split
      · exact .same (records_violation callbacks clock current c _ _)
      split
      · exact .same (records_violation callbacks clock current c _ _)
      refine keeps_acceptResult current c advanced env.senderRank fun leaving succeeded waiting => ?_
      apply forgotten
      rw [awaiting] at waiting
      rw [issued] at asked
      unfold reauthorizes
      rw [arrived]
      dsimp only
      rw [parsed, held, waiting]
      dsimp only
      rw [asked]
      simpa [kind, registered, succeeded, leaving, advanced] using not_not.mp own
    · exact keeps_handleGoodbye current c advanced env
    · exact .same rfl
    · exact .same rfl

theorem keeps_resumeSnapshot (permitted : allowed Operation.snapshotAccepted.value) (l : Listener σ) (c : Nat)
    (snapshot : PendingSnapshot) (answer : SnapshotCallback σ → Int → σ × SnapshotAnswer) :
    Keeps allowed forgets l (l.resumeSnapshot config callbacks clock c snapshot answer) := by
  unfold resumeSnapshot
  split
  · rename_i info callback held given
    exact (keeps_snapshotAnswered permitted l c info snapshot _).next (records_settle callbacks clock c _)
  · exact .same rfl

theorem keeps_handleFrame {l : Listener σ} {c : Nat} {env : Envelope} {event : HeadEvent α}
    (permitted : allowed Operation.snapshotAccepted.value) (arrived : event = .frame c env)
    (forgotten : ∀ rank, l.reauthorizes event rank = true → forgets rank) :
    Keeps allowed forgets l (l.handleFrame config callbacks clock c env).1 := by
  unfold handleFrame
  split
  · exact .same (records_audit l _)
  split
  · exact .same (records_handleRegister config callbacks clock l c env)
  split
  · rename_i info held
    split
    · rename_i registered
      exact keeps_handleSession permitted arrived held registered forgotten
    · exact .same (records_audit l _)
  · exact .same (records_audit l _)

/-- A step issues what its event lets out and, unless it is the head's own
    authority, forgets only the GOODBYE of a rank it authorizes anew. -/
theorem keeps_step (l : Listener σ) (clock : Time) (event : HeadEvent α)
    (foreign : ∀ rank, event ≠ .expectGoodbye rank) :
    Keeps (issues event) (fun rank => l.reauthorizes event rank = true) l
      (l.step config callbacks (clock, event)) := by
  have permitted : issues event Operation.snapshotAccepted.value := .inl rfl
  have settled := fun c turn => records_settle (σ := σ) callbacks clock c turn
  have finished := fun (before : Listener σ) c => records_finish callbacks clock before c
  cases event with
  | accept c =>
    unfold step
    dsimp only
    split <;> exact .same rfl
  | frame c env =>
    unfold step
    dsimp only
    split
    · exact (keeps_handleFrame permitted rfl fun _ authorized => authorized).next (settled c _)
    · exact .same rfl
  | badFrame c reason =>
    unfold step
    dsimp only
    split
    · exact .same ((finished _ c).trans (records_audit l _))
    · exact .same rfl
  | eof c =>
    unfold step
    dsimp only
    split
    · exact .same (finished l c)
    · exact .same rfl
  | readFailed c error =>
    unfold step
    dsimp only
    split
    · exact .same (settled c _)
    · exact .same rfl
  | drained c ok =>
    unfold step
    dsimp only
    split
    · refine .same ((settled c _).trans ?_)
      split
      · exact records_ackDrained callbacks clock l c
      · rfl
    · exact .same (settled c _)
    · exact .same (settled c _)
    · exact .same rfl
  | staged c outcome =>
    unfold step
    dsimp only
    split
    · exact keeps_resumeSnapshot permitted l c _ _
    · exact .same rfl
  | committed c outcome =>
    unfold step
    dsimp only
    split
    · exact keeps_resumeSnapshot permitted l c _ _
    · exact .same rfl
  | cancel c =>
    unfold step
    dsimp only
    split
    · exact .same rfl
    · exact .same rfl
    · exact keeps_resumeSnapshot permitted l c _ _
    · exact keeps_resumeSnapshot permitted l c _ _
    · exact .same (finished l c)
  | sendCommand rank commandId operation payload =>
    unfold step
    dsimp only
    split
    · exact .same rfl
    split
    · exact .same rfl
    · exact keeps_sendCommand l rank commandId (.inr rfl) payload
  | broadcastCommand rank commandId operation payload =>
    unfold step
    dsimp only
    split
    · exact .same rfl
    split
    · exact .same rfl
    · exact keeps_sendCommand l rank _ (.inr rfl) payload
  | expectGoodbye rank => exact absurd rfl (foreign rank)
  | act action => exact .same rfl

end ExaServe.Control.Listener
