import ExaServe.Control.Transport.Effects
import ExaServe.Lib.Run

namespace ExaServe.Control

open Lib Plan Relation

namespace Listener

variable {σ α : Type} (config : ListenerConfig) (callbacks : Callbacks σ α) (moves : σ → σ → Prop)

/-- What one turn of the event loop is made of; `origin` is the state the turn
    started from. -/
inductive Effect (origin : Listener σ) (timed : Time × HeadEvent α) : Listener σ → Listener σ → Prop where
  | quiet {before after : Listener σ} (same : Quiet moves before after) :
      Effect origin timed before after
  | moved {l : Listener σ} (c : Nat) (phase : Phase) (live : phase.live = true) :
      Effect origin timed l (l.setPhase c phase)
  | entered {l : Listener σ} (c : Nat) (env : Envelope) (live : (l.connections c).phase.live = true)
      (free : (l.session c).any SessionInfo.registered = false)
      (allowed : l.registerRefusal config env = none) :
      Effect origin timed l (l.register config timed.1 c env)
  | withdrawn {l : Listener σ} {c : Nat} {info : SessionInfo} (held : l.session c = some info)
      (waiting : info.established = false) :
      Effect origin timed l (l.setSession c { info with registered := false })
  | replaced {l : Listener σ} {c : Nat} {info remembered : SessionInfo} (snapshot : PendingSnapshot)
      (held : l.session c = some info)
      (memory : rememberAll (withSnapshot info snapshot) snapshot.observations = .ok remembered) :
      Effect origin timed l (l.setConnection c { l.connections c with
        session := some { remembered with
          pendingSnapshotId := snapshot.snapshotId
          pendingSnapshotHash := snapshot.hash
          pendingSnapshotCommandId := snapshotCommandId info.rank snapshot.snapshotId }
        baseline := snapshot.observations
        delivered := [] })
  | issued {l : Listener σ} {commandId : String} (rank : Int) (body : List (String × Json))
      (novel : l.issuedCommands.get? commandId = none) :
      Effect origin timed l { l with issuedCommands := l.issuedCommands.insert commandId (rank, body) }
  | commanded {l : Listener σ} {commandId : String} {rank : Int} {body prior : List (String × Json)}
      (writer : Nat) (seq : Int) (named : Json.lookup "command_id" body = some (.str commandId))
      (asked : l.issuedCommands.get? commandId = some (rank, prior))
      (same : prior = body ∨ Json.pyEq (.obj prior) (.obj body) = true) :
      Effect origin timed l (l.recordSent rank writer (config.headEnvelope .command seq body))
  | pinned {l : Listener σ} {c : Nat} {info later : SessionInfo} (obs : ComponentObservation)
      (held : l.session c = some info) (checked : pinInstance info obs = .pinned later) :
      Effect origin timed l (l.setSession c later)
  | remembered {l : Listener σ} {c : Nat} {info later : SessionInfo} {novel : Bool}
      (obs : ComponentObservation) (held : l.session c = some info)
      (kept : info.remember obs.dedupKey (observationFingerprint obs) = .ok (later, novel)) :
      Effect origin timed l (l.setSession c later)
  | delivered {l : Listener σ} {c : Nat} {info : SessionInfo} (obs : ComponentObservation)
      (held : l.session c = some info)
      (instance_ : info.componentInstances.get? obs.componentId = some obs.instanceId)
      (ahead : lastSequence info obs < obs.sequence) :
      Effect origin timed l (l.setConnection c { l.connections c with
        session := some { info with
          lastComponentSeq := info.lastComponentSeq.insert (obs.componentId, obs.instanceId) obs.sequence }
        delivered := (l.connections c).delivered ++ [obs] })
  | stored {l : Listener σ} {c : Nat} {info : SessionInfo} {env : Envelope} {result : CommandResult}
      {body : List (String × Json)} (since : Quiet moves origin l) (arrived : timed.2 = .frame c env)
      (kind : env.kind = .commandResult)
      (held : l.session c = some info) (registered : info.registered = true)
      (sender : env.senderRank = info.rank)
      (parsed : validateCommandResultPayload env.payload = .ok result)
      (asked : l.issuedCommands.get? result.commandId = some (info.rank, body))
      (agrees : resultDisagrees result body = false)
      (opened : info.established = true ∨ result.commandId = info.pendingSnapshotCommandId)
      (single : ∀ prior, l.commandResults.get? result.commandId = some prior →
        prior = (env.senderRank, result)) :
      Effect origin timed l { l with
        commandResults := l.commandResults.insert result.commandId (env.senderRank, result) }
  | acknowledged {l : Listener σ} {c : Nat} {info : SessionInfo} {result : CommandResult} {owner : σ}
      {detail : String} (held : l.session c = some info) (registered : info.registered = true)
      (named : result.snapshot = some (info.pendingSnapshotId, info.pendingSnapshotHash))
      (answer : callbacks.onSnapshotAck timed.1 l.owner info.rank result = (owner, .ok (true, detail))) :
      Effect origin timed l ({ l with owner }.setConnection c { l.connections c with
        session := some { info with established := true, pendingSnapshotCommandId := "" }
        acked := result.snapshot })
  | revoked {l : Listener σ} {c : Nat} {info : SessionInfo} (expected : Bool)
      (held : l.session c = some info) (registered : info.registered = true) :
      Effect origin timed l { l.setConnection c { l.connections c with
          phase := .closed
          session := some { info with registered := false, established := false } } with
        owner := (callbacks.onSessionChange timed.1 l.owner info.rank false expected).1 }
  | closed {l : Listener σ} (c : Nat) (idle : (l.session c).any SessionInfo.registered = false) :
      Effect origin timed l (l.setPhase c .closed)

/-- A turn is a sequence of effects. -/
def Turn (origin : Listener σ) (timed : Time × HeadEvent α) : Listener σ → Listener σ → Prop :=
  ReflTransGen (Effect config callbacks moves origin timed)

variable {config callbacks moves} (within : callbacks.Within moves) {origin : Listener σ}
  {timed : Time × HeadEvent α}

theorem Turn.quiet {before after : Listener σ} (same : Quiet moves before after) :
    Turn config callbacks moves origin timed before after := .single (.quiet same)

theorem Turn.andThen {first second third : Listener σ}
    (early : Turn config callbacks moves origin timed first second)
    (late : Turn config callbacks moves origin timed second third) :
    Turn config callbacks moves origin timed first third := ReflTransGen.trans early late

theorem Turn.first {first second third : Listener σ}
    (effect : Effect config callbacks moves origin timed first second)
    (late : Turn config callbacks moves origin timed second third) :
    Turn config callbacks moves origin timed first third := ReflTransGen.head effect late

theorem Turn.invariant {holds : Listener σ → Prop} {before after : Listener σ}
    (turn : Turn config callbacks moves origin timed before after)
    (preserved : ∀ l l', Effect config callbacks moves origin timed l l' → holds l → holds l')
    (initial : holds before) : holds after := by
  induction turn with
  | refl => exact initial
  | tail _ effect ih => exact preserved _ _ effect ih

theorem turn_rememberIssued {l issued : Listener σ} {commandId : String} {rank : Int}
    {body : List (String × Json)} (recorded : l.rememberIssued commandId rank body = .ok issued) :
    Turn config callbacks moves origin timed l issued ∧
      ∃ prior, issued.issuedCommands.get? commandId = some (rank, prior) ∧
        (prior = body ∨ Json.pyEq (.obj prior) (.obj body) = true) := by
  unfold rememberIssued at recorded
  split at recorded
  · rename_i prior found
    split at recorded
    · cases recorded
    · rename_i same
      cases recorded
      simp only [Bool.or_eq_true, decide_eq_true_eq, Bool.not_eq_true', not_or, ne_eq, not_not,
        Bool.not_eq_false] at same
      refine ⟨.refl, prior.2, ?_, .inr same.2⟩
      rw [found, ← same.1]
  · rename_i novel
    split at recorded
    · cases recorded
    · cases recorded
      exact ⟨.single (.issued rank body novel), body, Dict.get?_insert_self _ _ _, .inl rfl⟩

theorem commandBody_named (commandId operation : String) (payload : List (String × Json)) :
    Json.lookup "command_id" (commandBody commandId operation payload) = some (.str commandId) := by
  simp [commandBody, Json.lookup]

include within

theorem turn_sendCommand (l : Listener σ) (rank : Int) (commandId operation : String)
    (payload : List (String × Json)) :
    Turn config callbacks moves origin timed l
      (l.sendCommand config rank commandId operation payload).1 := by
  unfold sendCommand
  split
  · exact .refl
  split
  · exact .refl
  · rename_i writer open_
    extract_lets body
    split
    · exact .refl
    · rename_i issued recorded
      obtain ⟨recording, prior, asked, same⟩ := turn_rememberIssued recorded
      have numbering : Quiet moves issued (issued.nextOutSeq rank).1 :=
        ⟨within.refl _, fun _ => rfl, rfl, rfl, rfl, rfl, rfl⟩
      dsimp only
      split
      · exact recording.andThen (.quiet numbering)
      · exact (recording.andThen (.quiet numbering)).tail
          (.commanded writer _ (commandBody_named commandId operation payload) asked same)

omit within in
theorem rememberAll_ok {info : SessionInfo} {observations : List ComponentObservation}
    (distinct : (observations.map ComponentObservation.componentId).Nodup)
    (fresh : ∀ obs ∈ observations, info.seenObs.get? obs.dedupKey = none)
    (room : info.seenObs.size ≤ maxDedupKeys) :
    ∃ seenObs : Dict DedupKey String, seenObs.size ≤ maxDedupKeys ∧
      rememberAll info observations = .ok { info with seenObs } := by
  induction observations generalizing info with
  | nil => exact ⟨info.seenObs, room, rfl⟩
  | cons obs rest ih =>
    rw [List.map_cons, List.nodup_cons] at distinct
    have unseen : info.seenObs.get? obs.dedupKey = none := fresh obs List.mem_cons_self
    have recorded : info.remember obs.dedupKey (observationFingerprint obs) = .ok ({ info with
        seenObs := (info.seenObs.insert obs.dedupKey (observationFingerprint obs)).dropOldest maxDedupKeys },
        true) := by
      unfold SessionInfo.remember
      rw [unseen]
    have later_fresh : ∀ other ∈ rest,
        ((info.seenObs.insert obs.dedupKey (observationFingerprint obs)).dropOldest maxDedupKeys).get?
          other.dedupKey = none := by
      intro other member
      rw [Option.eq_none_iff_forall_ne_some]
      intro value found
      have inserted := Dict.get?_of_dropOldest found
      have apart : obs.dedupKey ≠ other.dedupKey := by
        intro same
        have component := congrArg (fun key : DedupKey => key.2.2.1) same
        exact distinct.1 (List.mem_map.mpr ⟨other, member, component.symm⟩)
      rw [Dict.get?_insert_ne _ _ apart, fresh other (List.mem_cons_of_mem _ member)] at inserted
      cases inserted
    unfold rememberAll
    rw [recorded]
    exact ih distinct.2 later_fresh (Dict.size_dropOldest_le _ _)

theorem turn_snapshotAccepted {l : Listener σ} {c : Nat} {info : SessionInfo}
    (held : l.session c = some info) (snapshot : PendingSnapshot) :
    Turn config callbacks moves origin timed l (l.snapshotAccepted config c info snapshot).1 := by
  have unseen : ∀ obs ∈ snapshot.observations, (withSnapshot info snapshot).seenObs.get? obs.dedupKey = none :=
    fun _ _ => rfl
  obtain ⟨seenObs, -, memory⟩ := rememberAll_ok snapshot.distinct unseen (Nat.zero_le _)
  have replacing : Effect config callbacks moves origin timed l _ := .replaced snapshot held memory
  unfold snapshotAccepted
  rw [memory]
  dsimp only at replacing ⊢
  revert replacing
  generalize l.setConnection c _ = replaced
  intro replacing
  have announcing : Turn config callbacks moves origin timed replaced (replaced.sendCommand config info.rank
      (snapshotCommandId info.rank snapshot.snapshotId) Operation.snapshotAccepted.value
      [("snapshot_id", .str snapshot.snapshotId), ("complete_set_hash", .str snapshot.hash)]).1 :=
    turn_sendCommand within replaced _ _ _ _
  split
  · exact .first replacing announcing
  · exact .first replacing announcing
  · exact .first replacing announcing

theorem turn_snapshotAnswered {l : Listener σ} {c : Nat} {info : SessionInfo}
    (held : l.session c = some info) (snapshot : PendingSnapshot) {answer : σ × SnapshotAnswer}
    (moved : moves l.owner answer.1) :
    Turn config callbacks moves origin timed l
      (l.snapshotAnswered config callbacks timed.1 c info snapshot answer).1 := by
  unfold snapshotAnswered
  extract_lets answered
  have told : Quiet moves l answered := .told moved
  have still : answered.session c = some info := held
  clear_value answered
  split
  · exact .quiet (told.trans within (quiet_violation within timed.1 _ c _ _))
  · exact .quiet told
  · exact .quiet told
  · exact .quiet told
  · exact (Turn.quiet told).andThen (turn_snapshotAccepted within still snapshot)

theorem turn_handleSnapshot {l : Listener σ} {c : Nat} {info : SessionInfo}
    (held : l.session c = some info) (env : Envelope) :
    Turn config callbacks moves origin timed l
      (l.handleSnapshot config callbacks timed.1 c info env).1 := by
  unfold handleSnapshot
  extract_lets assembled buffered
  have buffering : Quiet moves l buffered := ⟨within.refl _, fun _ => rfl, rfl, rfl, rfl, rfl, rfl⟩
  have still : buffered.session c = some info := held
  clear_value buffered
  split
  · exact .quiet (buffering.trans within (quiet_violation within timed.1 _ c _ _))
  · exact .quiet buffering
  · split
    · exact .quiet (buffering.trans within (quiet_refuse within timed.1 _ c _ _))
    · rename_i checked validated
      extract_lets snapshot answer
      have moved : moves buffered.owner answer.1 := by
        unfold answer
        split
        · exact moves_plainSinks within timed.1 buffered.owner info.rank snapshot
        · rename_i callback given
          exact within.arrived callback timed.1 buffered.owner info.rank snapshot given
      exact (Turn.quiet buffering).andThen (turn_snapshotAnswered within still snapshot moved)

omit within in
theorem remember_kept {info later : SessionInfo} {key : DedupKey} {fingerprint : String} {novel : Bool}
    (kept : info.remember key fingerprint = .ok (later, novel)) :
    later.componentInstances = info.componentInstances ∧ later.lastComponentSeq = info.lastComponentSeq ∧
      (info.seenObs.size ≤ maxDedupKeys → later.seenObs.size ≤ maxDedupKeys) := by
  unfold SessionInfo.remember at kept
  split at kept
  · split at kept
    · cases kept
    · cases kept
      exact ⟨rfl, rfl, id⟩
  · cases kept
    exact ⟨rfl, rfl, fun _ => Dict.size_dropOldest_le _ _⟩

theorem turn_deliver {l : Listener σ} {c : Nat} {info : SessionInfo} {obs : ComponentObservation}
    (held : l.session c = some info)
    (instance_ : info.componentInstances.get? obs.componentId = some obs.instanceId)
    (ahead : lastSequence info obs < obs.sequence) :
    Turn config callbacks moves origin timed l (l.deliver callbacks timed.1 c info obs).1 := by
  have delivering : Effect config callbacks moves origin timed l _ := .delivered obs held instance_ ahead
  unfold deliver
  dsimp only
  revert delivering
  generalize l.setConnection c _ = handed
  intro delivering
  have told : Turn config callbacks moves origin timed l
      { handed with owner := (callbacks.onObservation timed.1 handed.owner info.rank obs).1 } :=
    .first delivering (.quiet (.told (within.onObservation timed.1 handed.owner info.rank obs)))
  split
  · exact told
  · exact told.andThen (.quiet (quiet_violation within timed.1 _ c _ _))
  · exact told

theorem turn_sequenceObservation {l : Listener σ} {c : Nat} {info : SessionInfo}
    {obs : ComponentObservation}
    (instance_ : info.componentInstances.get? obs.componentId = some obs.instanceId) :
    Turn config callbacks moves origin timed (l.setSession c info)
      (l.sequenceObservation callbacks timed.1 c info obs).1 := by
  unfold sequenceObservation
  extract_lets last pinned
  have still : pinned.session c = some info := session_setSession l
  change Turn config callbacks moves origin timed pinned _
  clear_value pinned
  split
  · exact .quiet (quiet_violation within timed.1 _ c _ _)
  · rename_i reached
    split
    · exact .quiet (quiet_refuse within timed.1 _ c _ _)
    · rename_i remembered novel kept
      have keeping : Effect config callbacks moves origin timed pinned (pinned.setSession c remembered) :=
        .remembered obs still kept
      obtain ⟨instances, sequences, -⟩ := remember_kept kept
      extract_lets after
      have now : after.session c = some remembered := session_setSession pinned
      change Effect config callbacks moves origin timed pinned after at keeping
      clear_value after
      split
      · exact .single keeping
      split
      · exact .first keeping (.quiet (quiet_violation within timed.1 _ c _ _))
      · rename_i unequal
        have ahead : lastSequence remembered obs < obs.sequence := by
          unfold last lastSequence at reached unequal
          unfold lastSequence
          rw [sequences]
          omega
        exact .first keeping (turn_deliver within now (instances ▸ instance_) ahead)

omit within in
theorem pinInstance_pinned {info pinned : SessionInfo} {obs : ComponentObservation}
    (checked : pinInstance info obs = .pinned pinned) :
    pinned.componentInstances.get? obs.componentId = some obs.instanceId := by
  unfold pinInstance at checked
  split at checked
  · split at checked
    · cases checked
    · cases checked
      exact Dict.get?_insert_self _ _ _
  · rename_i active found
    split at checked
    · cases checked
    · rename_i same
      cases checked
      rw [found, not_not.mp same]

theorem turn_applyObservation {l : Listener σ} {c : Nat} {info : SessionInfo}
    (held : l.session c = some info) (item : Json) :
    Turn config callbacks moves origin timed l
      (l.applyObservation config callbacks timed.1 c info item).1 := by
  have violating : ∀ reason detail, Turn config callbacks moves origin timed l
      (l.violation callbacks timed.1 c reason detail).1 :=
    fun reason detail => .quiet (quiet_violation within timed.1 l c reason detail)
  unfold applyObservation
  split
  · exact .quiet (quiet_protocolViolation within timed.1 l c _ _)
  · exact .refl
  · rename_i obs validated
    split
    · exact violating _ _
    split
    · exact violating _ _
    split
    · exact violating _ _
    split
    · exact violating _ _
    split
    · exact violating _ _
    · exact violating _ _
    · rename_i pinned checked
      have pinning : Effect config callbacks moves origin timed l (l.setSession c pinned) :=
        .pinned obs held checked
      exact .first pinning (turn_sequenceObservation within (pinInstance_pinned checked))

theorem turn_handleObservation {l : Listener σ} {c : Nat} {info : SessionInfo}
    (held : l.session c = some info) (env : Envelope) :
    Turn config callbacks moves origin timed l
      (l.handleObservation config callbacks timed.1 c info env).1 := by
  unfold handleObservation
  split
  · exact .quiet (quiet_violation within timed.1 l c _ _)
  split
  · exact .quiet (quiet_violation within timed.1 l c _ _)
  · extract_lets item
    split
    · exact turn_applyObservation within held item
    split
    · exact .quiet (quiet_refuse within timed.1 l c _ _)
    · rename_i receipt checked
      have sinking := quiet_sinkReceipt within timed.1 l info receipt
      have still : (l.sinkReceipt callbacks timed.1 info receipt).1.session c = some info := held
      split
      · rename_i answered
        rw [answered] at sinking
        exact .quiet sinking
      · rename_i sunk answered
        rw [answered] at sinking still
        exact (Turn.quiet sinking).andThen (turn_applyObservation within still item)

omit within in
theorem snapshotMismatch_nil {info : SessionInfo} {result : CommandResult}
    (matched : snapshotMismatch info result = []) :
    result.snapshot = some (info.pendingSnapshotId, info.pendingSnapshotHash) := by
  unfold snapshotMismatch at matched
  simp only [List.append_eq_nil_iff, ite_eq_left_iff, List.cons_ne_nil, imp_false, not_not] at matched
  obtain ⟨⟨⟨-, id_same⟩, hash_same⟩, -⟩ := matched
  rcases named : result.snapshot with _ | ⟨id, hash⟩
  · rw [named] at id_same
    cases id_same
  · rw [named] at id_same hash_same
    cases id_same
    cases hash_same
    rfl

theorem turn_acknowledge {l : Listener σ} {c : Nat} {info : SessionInfo} {result : CommandResult}
    (held : l.session c = some info) (registered : info.registered = true) :
    Turn config callbacks moves origin timed l
      (l.acknowledge config callbacks timed.1 c info result).1 := by
  unfold acknowledge
  extract_lets mismatch
  split
  · exact .quiet (quiet_violation within timed.1 l c _ _)
  · rename_i matched
    have refused := within.onSnapshotAck timed.1 l.owner info.rank result
    rcases answer : callbacks.onSnapshotAck timed.1 l.owner info.rank result with ⟨owner, verdict⟩
    rw [answer] at refused
    dsimp only
    split
    · exact .quiet (.told (refused (fun _ accepted => by cases accepted)))
    · have told : Quiet moves l { l with owner } := .told (refused (fun _ accepted => by cases accepted))
      exact .quiet (told.trans within (quiet_violation within timed.1 _ c _ _))
    · rename_i detail
      have opening : Effect config callbacks moves origin timed l _ :=
        .acknowledged held registered (snapshotMismatch_nil (not_not.mp matched)) answer
      refine .first opening (.quiet ?_)
      exact ⟨within.refl _, fun _ => rfl, rfl, rfl, rfl, rfl, rfl⟩

theorem turn_acceptResult {l : Listener σ} {c : Nat} {info : SessionInfo} {senderRank : Int}
    {result : CommandResult} (held : l.session c = some info) (registered : info.registered = true)
    (storing : (∀ prior, l.commandResults.get? result.commandId = some prior → prior = (senderRank, result)) →
      Effect config callbacks moves origin timed l
        { l with commandResults := l.commandResults.insert result.commandId (senderRank, result) }) :
    Turn config callbacks moves origin timed l
      (l.acceptResult config callbacks timed.1 c info senderRank result).1 := by
  unfold acceptResult
  split
  · exact .quiet (quiet_violation within timed.1 l c _ _)
  · rename_i unchanged
    have single : ∀ prior, l.commandResults.get? result.commandId = some prior →
        prior = (senderRank, result) := by
      intro prior found
      rw [found] at unchanged
      simpa using unchanged
    have stored := storing single
    unfold storeResult
    dsimp only
    revert stored
    have kept : ({ l with commandResults :=
        l.commandResults.insert result.commandId (senderRank, result) }).session c = some info := held
    revert kept
    generalize ({ l with commandResults :=
        l.commandResults.insert result.commandId (senderRank, result) } : Listener σ) = after
    intro kept stored
    by_cases leaving : (result.operation = .drain ∨ result.operation = .stop) ∧ result.ok = true
    · rw [if_pos leaving]
      rcases expected : after.expectGoodbye info.rank with error | expecting
      · exact .first stored .refl
      · have allowing := quiet_expectGoodbye within expected
        obtain ⟨later, now, same⟩ := allowing.session_of kept
        have still : later.registered = true := (SessionInfo.alike same).registered.trans registered
        dsimp only
        split
        · rw [now, Option.getD_some]
          exact .first stored ((Turn.quiet allowing).andThen (turn_acknowledge within now still))
        · exact .first stored (.quiet allowing)
    · rw [if_neg leaving]
      dsimp only
      split
      · rw [kept, Option.getD_some]
        exact .first stored (turn_acknowledge within kept registered)
      · exact .first stored .refl

theorem turn_handleCommandResult {l : Listener σ} {c : Nat} {info : SessionInfo} {env : Envelope}
    (since : Quiet moves origin l) (arrived : timed.2 = .frame c env) (kind : env.kind = .commandResult)
    (held : l.session c = some info) (registered : info.registered = true)
    (sender : env.senderRank = info.rank) :
    Turn config callbacks moves origin timed l
      (l.handleCommandResult config callbacks timed.1 c info env).1 := by
  unfold handleCommandResult
  split
  · exact .quiet (quiet_refuse within timed.1 l c _ _)
  · rename_i result parsed
    split
    · exact .quiet (quiet_violation within timed.1 l c _ _)
    · rename_i issuedRank body asked
      split
      · exact .quiet (quiet_violation within timed.1 l c _ _)
      · rename_i same_rank
        rw [not_not.mp same_rank] at asked
        split
        · exact .quiet (quiet_violation within timed.1 l c _ _)
        · rename_i agrees
          split
          · exact .quiet (quiet_violation within timed.1 l c _ _)
          · rename_i barrier
            have opened : info.established = true ∨ result.commandId = info.pendingSnapshotCommandId := by
              simp only [Bool.and_eq_true, Bool.not_eq_true', decide_eq_true_eq, not_and, not_not,
                ne_eq] at barrier
              rcases established : info.established with _ | _
              · exact .inr (barrier established)
              · exact .inl rfl
            exact turn_acceptResult within held registered fun single =>
              .stored since arrived kind held registered sender parsed asked
                (Bool.eq_false_iff.mpr agrees) opened single

theorem turn_handleSession {l : Listener σ} {c : Nat} {info : SessionInfo} {env : Envelope}
    (since : Quiet moves origin l) (arrived : timed.2 = .frame c env)
    (held : l.session c = some info) (registered : info.registered = true) :
    Turn config callbacks moves origin timed l
      (l.handleSession config callbacks timed.1 c info env).1 := by
  unfold handleSession
  split
  · exact .quiet (quiet_violation within timed.1 l c _ _)
  · rename_i claimed
    split
    · exact .quiet (quiet_violation within timed.1 l c _ _)
    · extract_lets advanced
      have advancing : Quiet moves l (l.setSession c advanced) := .advanced within held rfl
      have now : (l.setSession c advanced).session c = some advanced := session_setSession l
      have begun := since.trans within advancing
      generalize l.setSession c advanced = current at advancing now begun
      refine (Turn.quiet advancing).andThen ?_
      unfold handleKind
      split
      · exact turn_handleSnapshot within now env
      · exact turn_handleObservation within now env
      · exact .quiet (quiet_handleHeartbeat within timed.1 current c advanced env now)
      · exact .quiet (quiet_handleReceipt within timed.1 current c advanced env)
      · rename_i kind
        exact turn_handleCommandResult within begun arrived kind now registered
          (not_not.mp (not_or.mp claimed).1)
      · exact .quiet (quiet_handleGoodbye within timed.1 current c advanced env)
      · exact .refl
      · exact .refl

theorem turn_handleRegister {l : Listener σ} {c : Nat} (live : (l.connections c).phase.live = true)
    (env : Envelope) :
    Turn config callbacks moves origin timed l
      (l.handleRegister config callbacks timed.1 c env).1 := by
  unfold handleRegister
  split
  · exact .quiet (quiet_violation within timed.1 l c _ _)
  rename_i free
  split
  · exact .quiet (quiet_audit within l _)
  · rename_i allowed
    extract_lets entered info
    have entering : Effect config callbacks moves origin timed l entered :=
      .entered c env live (Bool.eq_false_iff.mpr free) allowed
    have now : entered.session c = some info := by
      unfold entered register session
      simp [info]
    have waiting : info.established = false := rfl
    clear_value entered info
    have asking := within.onRegister timed.1 entered.owner info.rank info.nodeId info.instanceId
    have told : Turn config callbacks moves origin timed l { entered with
        owner := (callbacks.onRegister timed.1 entered.owner info.rank info.nodeId info.instanceId).1 } :=
      .first entering (.quiet (.told asking))
    dsimp only
    split
    · exact told
    · have auditing := quiet_audit within { entered with
        owner := (callbacks.onRegister timed.1 entered.owner info.rank info.nodeId info.instanceId).1 }
      refine (told.andThen (.quiet (auditing _))).andThen (.single (.withdrawn ?_ waiting))
      exact now
    · exact told.andThen (.quiet (quiet_writeSession within _ c _ _ _ _ (by decide)))

theorem turn_handleFrame {l : Listener σ} {c : Nat} {env : Envelope}
    (live : (l.connections c).phase.live = true) (arrived : timed.2 = .frame c env) :
    Turn config callbacks moves l timed l (l.handleFrame config callbacks timed.1 c env).1 := by
  unfold handleFrame
  split
  · exact .quiet (quiet_audit within l _)
  split
  · exact turn_handleRegister within live env
  split
  · rename_i info held
    split
    · rename_i registered
      exact turn_handleSession within (.refl within l) arrived held registered
    · exact .quiet (quiet_audit within l _)
  · exact .quiet (quiet_audit within l _)

theorem turn_finish (l : Listener σ) (c : Nat) :
    Turn config callbacks moves origin timed l (l.finish callbacks timed.1 c) := by
  have dropping : ∀ (before : Listener σ) writers snapshots,
      Turn config callbacks moves origin timed before { before with writers, snapshots } :=
    fun _ _ _ => .quiet ⟨within.refl _, fun _ => rfl, rfl, rfl, rfl, rfl, rfl⟩
  unfold finish
  split
  · rename_i missing
    have idle : (l.session c).any SessionInfo.registered = false := by rw [missing]; rfl
    exact .first (.closed c idle) (dropping _ _ _)
  · rename_i info held
    split
    · rename_i unregistered
      have idle : (l.session c).any SessionInfo.registered = false := by
        rw [held]
        simpa using unregistered
      exact .first (.closed c idle) (dropping _ _ _)
    · rename_i registered
      have revoking : Effect config callbacks moves origin timed l _ :=
        .revoked (l.receivedGoodbyes.contains info.rank) held (by simpa using registered)
      dsimp only
      split
      · exact .first revoking (.quiet ⟨within.refl _, fun _ => rfl, rfl, rfl, rfl, rfl, rfl⟩)
      · exact .first revoking (.quiet ⟨within.refl _, fun _ => rfl, rfl, rfl, rfl, rfl, rfl⟩)

theorem turn_settle {l : Listener σ} {c : Nat} {turn : Listener σ × Flow}
    (made : Turn config callbacks moves origin timed l turn.1) :
    Turn config callbacks moves origin timed l (settle callbacks timed.1 c turn) := by
  unfold settle
  split
  · exact made.andThen (.single (.moved c _ rfl))
  · exact made.andThen (.single (.moved c _ rfl))
  · exact made.andThen (turn_finish within _ c)
  · split
    · exact made.andThen (turn_finish within _ c)
    · exact (made.andThen (.quiet (quiet_recordFailure within _ c _))).andThen (turn_finish within _ c)

theorem turn_resumeSnapshot {l : Listener σ} {c : Nat} {snapshot : PendingSnapshot}
    {answer : SnapshotCallback σ → Int → σ × SnapshotAnswer}
    (moved : ∀ callback rank, callbacks.onSnapshot = some callback → moves l.owner (answer callback rank).1) :
    Turn config callbacks moves origin timed l
      (l.resumeSnapshot config callbacks timed.1 c snapshot answer) := by
  unfold resumeSnapshot
  split
  · rename_i info callback held given
    exact turn_settle within (turn_snapshotAnswered within held snapshot (moved callback info.rank given))
  · exact .refl

/-- Every step of the listener is a turn. -/
theorem turn_step (l : Listener σ) :
    Turn config callbacks moves l timed l (l.step config callbacks timed) := by
  unfold step
  extract_lets clock
  split
  · split
    · exact .single (.moved _ _ rfl)
    · exact .refl
  · rename_i arrived
    split
    · rename_i reading
      exact turn_settle within (turn_handleFrame within (by rw [reading]; rfl) arrived)
    · exact .refl
  · split
    · exact (Turn.quiet (quiet_audit within l _)).andThen (turn_finish within _ _)
    · exact .refl
  · split
    · exact turn_finish within l _
    · exact .refl
  · split
    · exact turn_settle within .refl
    · exact .refl
  · split
    · refine turn_settle within ?_
      split
      · exact .quiet (quiet_ackDrained within clock l _)
      · exact .refl
    · exact turn_settle within .refl
    · exact turn_settle within .refl
    · exact .refl
  · split
    · exact turn_resumeSnapshot within fun callback rank given => within.staged callback _ _ rank _ _ given
    · exact .refl
  · split
    · exact turn_resumeSnapshot within fun callback rank given => within.committed callback _ _ rank _ _ given
    · exact .refl
  · split
    · exact .refl
    · exact .refl
    · exact turn_resumeSnapshot within fun callback rank given => within.staged callback _ _ rank _ _ given
    · exact turn_resumeSnapshot within fun callback rank given => within.committed callback _ _ rank _ _ given
    · exact turn_finish within l _
  · split
    · exact .refl
    split
    · exact .refl
    · exact turn_sendCommand within l _ _ _ _
  · split
    · exact .refl
    split
    · exact .refl
    · exact turn_sendCommand within l _ _ _ _
  · rename_i rank _
    rcases expected : l.expectGoodbye rank with error | expecting
    · exact .refl
    · exact .quiet (quiet_expectGoodbye within expected)
  · exact .quiet (.told (within.act _ _ _ _))

/-- An effect moves the owner, unless it is an accepted acknowledgment. -/
theorem effect_owner {l l' : Listener σ} (effect : Effect config callbacks moves origin timed l l') :
    moves l.owner l'.owner ∨ ∃ rank result detail,
      callbacks.onSnapshotAck timed.1 l.owner rank result = (l'.owner, .ok (true, detail)) := by
  cases effect with
  | quiet same => exact .inl same.owner
  | @acknowledged c info result owner detail held registered named answer =>
    exact .inr ⟨info.rank, result, detail, answer⟩
  | revoked expected held registered => exact .inl (within.onSessionChange _ _ _ _ _)
  | _ => exact .inl (within.refl _)

/-- An invariant of the effects holds throughout every run. -/
theorem run_turns {holds : Listener σ → Prop}
    (preserved : ∀ origin timed l l', Effect config callbacks moves origin timed l l' → holds l → holds l')
    {start : Listener σ} (initial : holds start) (events : List (Time × HeadEvent α)) :
    holds (run (step config callbacks) start events) :=
  run_invariant (fun l timed now => (turn_step within l).invariant (preserved l timed) now) initial events

end Listener

end ExaServe.Control
