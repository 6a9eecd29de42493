import ExaServe.Control.Head.Agreement

namespace ExaServe.Control.Head

open Lib Plan Listener

variable (config : HeadConfig)

/-- Every node the listener has entered is the one its rank is bound to. -/
def NodesBound (head : Head) : Prop :=
  ∀ rank node, head.nodesByRank.get? rank = some node →
    config.allocation.binding.isBoundNode rank node = true

theorem planned_iff_range (rank : Int) :
    rank ∈ config.allocation.binding.ranks ↔ 0 ≤ rank ∧ rank < (config.expectedRanks : Int) :=
  config.allocation.binding.mem_ranks_iff rank

variable {config}

theorem expectedNode {rank : Int} (planned : rank ∈ config.allocation.binding.ranks) :
    ∃ bound, config.allocation.binding.nodeFor rank = some bound ∧
      config.listener.expectedNodes.get? rank = some bound := by
  have bound_some := (config.allocation.binding.nodeFor_isSome_iff rank).mpr planned
  obtain ⟨bound, found⟩ := Option.isSome_iff_exists.mp bound_some
  refine ⟨bound, found, ?_⟩
  simp only [HeadConfig.listener, Dict.get?_ofKeys, planned, if_true, found, Option.getD_some]

theorem registered_bound {head : Head} {env : Envelope}
    (allowed : head.registerRefusal config.listener env = none) :
    config.allocation.binding.isBoundNode env.senderRank env.senderNode = true := by
  unfold registerRefusal at allowed
  split_ifs at allowed with malformed range sequence node duplicate moved taken
  have planned : env.senderRank ∈ config.allocation.binding.ranks := by
    rw [planned_iff_range]
    have in_range := not_or.mp range
    exact ⟨Int.not_lt.mp in_range.1, Int.not_le.mp in_range.2⟩
  obtain ⟨bound, found, expected⟩ := expectedNode planned
  unfold AllocationBinding.isBoundNode
  rw [found]
  rw [expected] at node
  simpa using node

theorem nodesBound_effect {origin : Head} {timed : Time × HeadEvent HeadAction} (head after : Head)
    (effect : Effect config.listener (HeadChannel.callbacks config) HeadChannel.Lowers origin timed head after)
    (nodes : head.NodesBound config) : after.NodesBound config := by
  cases effect with
  | quiet same =>
    intro rank node found
    rw [same.nodesByRank] at found
    exact nodes rank node found
  | entered c env live free allowed =>
    intro rank node found
    have inserted : (head.register config.listener timed.1 c env).nodesByRank =
        head.nodesByRank.insert env.senderRank env.senderNode := rfl
    rw [inserted, Dict.get?_insert] at found
    split at found
    · rename_i same
      cases found
      rw [← same]
      exact registered_bound allowed
    · exact nodes rank node found
  | _ => exact nodes

theorem run_nodesBound (events : List (Time × HeadEvent HeadAction)) :
    NodesBound config (run (step config) (create config) events) :=
  run_turns (HeadChannel.callbacks_lower config) (fun _ _ => nodesBound_effect)
    (fun rank node found => by cases found) events

/-- A REGISTER frame that the rank's bound node may send. -/
structure WellFormedRegister (config : HeadConfig) (rank : Int) (env : Envelope) : Prop where
  kind : env.kind = .register
  scope : config.listener.checkScope env = none
  payload : registerPayloadOk env.payload = true
  sender : env.senderRank = rank
  sequence : 0 ≤ env.seq
  node : config.allocation.binding.isBoundNode rank env.senderNode = true

/-- `_register` enters the frame's session and `_on_register` accepts it. -/
def Admits (config : HeadConfig) (head : Head) (now : Time) (env : Envelope) : Prop :=
  head.registerRefusal config.listener env = none ∧
    ∃ detail, (head.owner.onRegister config now env.senderRank env.senderNode
      (payloadText "instance_id" env.payload)).2 = .ok (true, detail)

/-- A listener whose entry for the rank is not registered refuses none of its
    well-formed REGISTERs, and one whose entry is registered refuses them all. -/
theorem registerRefusal_none_iff {head : Head} (nodes : head.NodesBound config) {rank : Int}
    (planned : rank ∈ config.allocation.binding.ranks) {env : Envelope}
    (formed : WellFormedRegister config rank env) :
    head.registerRefusal config.listener env = none ↔ head.registeredNow rank = false := by
  obtain ⟨bound, found, expected⟩ := expectedNode planned
  have own : sameNode bound env.senderNode = true := by
    have node := formed.node
    unfold AllocationBinding.isBoundNode at node
    rw [found] at node
    exact node
  have range : ¬(env.senderRank < 0 ∨ (config.listener.expectedRanks : Int) ≤ env.senderRank) := by
    have within := (planned_iff_range config rank).mp planned
    rw [formed.sender, not_or, Int.not_lt, Int.not_le]
    exact within
  have sequence : ¬env.seq < 0 := Int.not_lt.mpr formed.sequence
  have entered_same : ∀ other node, head.nodesByRank.get? other = some node →
      ∃ otherBound, config.allocation.binding.nodeFor other = some otherBound ∧
        sameNode otherBound node = true := by
    intro other node entered
    have held := nodes other node entered
    unfold AllocationBinding.isBoundNode at held
    split at held
    · exact ⟨_, by assumption, held⟩
    · cases held
  have moved : (head.nodesByRank.get? env.senderRank).any (fun node => !sameNode node env.senderNode) = false := by
    rcases entered : head.nodesByRank.get? env.senderRank with _ | node
    · rfl
    · obtain ⟨otherBound, other_found, other_same⟩ := entered_same env.senderRank node entered
      rw [formed.sender, found] at other_found
      cases other_found
      have same := sameNode_trans (sameNode_comm other_same) own
      simp [same]
  have taken : head.nodeTaken env.senderRank env.senderNode = false := by
    unfold nodeTaken
    rw [List.any_eq_false]
    rintro ⟨other, node⟩ member clash
    simp only [ne_eq, Bool.and_eq_true, decide_eq_true_eq] at clash
    obtain ⟨otherBound, other_found, other_same⟩ :=
      entered_same other node ((Dict.get?_eq_some_iff _ _ _).mpr member)
    have shared : sameNode otherBound bound = true :=
      sameNode_trans (sameNode_trans other_same clash.2) (sameNode_comm own)
    have equal := AllocationBinding.nodeFor_injective other_found found shared
    exact clash.1 (equal.trans formed.sender.symm)
  unfold registerRefusal
  rw [formed.sender] at range moved taken ⊢
  simp only [formed.payload, Bool.not_true, Bool.false_eq_true, if_false, range, sequence, expected,
    Option.any_some, own, moved, Bool.and_false, taken]
  cases head.registeredNow rank <;> simp

/-- Inside grace the coordinator takes a LOST rank back from its bound node. -/
theorem onRegister_lost {h : HeadChannel} {rank : Int} {session : RankSession} {loss now : Time}
    (held : h.coordinator.sessions.get? rank = some session) (lost : session.state = .lost)
    (since : session.lossTime = some loss) (in_grace : now ≤ loss + config.allocation.limits.reconnectGraceS)
    {nodeId : String} (node : config.allocation.binding.isBoundNode rank nodeId = true) (instanceId : String) :
    (h.onRegister config now rank nodeId instanceId).2 =
      .ok (true, "reconnected; complete snapshot required before incrementals") := by
  have open_ : Coordinator.graceOver config.allocation now session = false := by
    unfold Coordinator.graceOver
    rw [since]
    simpa using in_grace
  unfold HeadChannel.onRegister Coordinator.onRegister Coordinator.reconnect
  simp only [held, lost, if_true, node, Bool.not_true, Bool.false_eq_true, if_false, open_]
  rfl

/-- In every state a head reaches, a rank its coordinator holds LOST inside grace is
    admitted again by a well-formed REGISTER exactly when the listener's entry for
    the rank is not registered any more. -/
theorem lost_rank_admitted_iff (config : HeadConfig) (events : List (Time × HeadEvent HeadAction)) (rank : Int)
    (session : RankSession) (loss now : Time) (env : Envelope)
    (held : (run (step config) (create config) events).owner.coordinator.sessions.get? rank = some session)
    (lost : session.state = .lost) (since : session.lossTime = some loss)
    (in_grace : now ≤ loss + config.allocation.limits.reconnectGraceS)
    (formed : WellFormedRegister config rank env) :
    Admits config (run (step config) (create config) events) now env ↔
      registeredNow (run (step config) (create config) events) rank = false := by
  have planned : rank ∈ config.allocation.binding.ranks := by
    have present := run_planned config events rank
    rw [held] at present
    exact of_decide_eq_true present.symm
  have refusal := registerRefusal_none_iff (run_nodesBound events) planned formed
  unfold Admits
  rw [refusal, and_iff_left_iff_imp]
  intro _
  rw [formed.sender]
  exact ⟨_, onRegister_lost held lost since in_grace formed.node _⟩

/-- A head of the one-rank allocation. -/
def soloHead : HeadConfig where
  deploymentId := "d"
  planHash := "p"
  generation := 1
  allocation := Coordinator.soloAllocation
  controlLimits := .obj [("registration_deadline_s", .int 300), ("heartbeat_interval_s", .int 5),
    ("lease_timeout_s", .int 30), ("reconnect_grace_s", .int 60), ("snapshot_assembly_deadline_s", .int 60),
    ("watchdog_cleanup_deadline_s", .int 300), ("max_frame_bytes", .int 1048576),
    ("max_snapshot_chunks", .int 256), ("max_snapshot_bytes", .int 67108864),
    ("max_snapshot_items", .int 65536)]
  plannedReceiptIds := some ["rank0/node_supervisor"]

def soloFrame (kind : EnvelopeKind) (seq : Int) (payload : List (String × Json)) : Envelope :=
  { kind, deploymentId := "d", planHash := "p", generation := 1, senderRank := 0, senderNode := "n0", seq, payload }

def soloRegister (seq : Int) (instanceId : String) : Envelope :=
  soloFrame .register seq [("payload_version", .int 1), ("instance_id", .str instanceId)]

def soloItem : SnapshotItem where
  kind := .receipt
  body := [("receipt_requirement_id", .str "rank0/node_supervisor"), ("component_id", .str "c"),
    ("instance_id", .str "i"), ("owner_scope", .str "RANK"), ("owner_rank", .int 0)]

def soloHash : String := canonicalHash (itemsJson [soloItem])

def soloResult : List (String × Json) :=
  [("payload_version", .int 1), ("command_id", .str "SNAPSHOT_ACCEPTED:0:snap"),
    ("operation", .str "SNAPSHOT_ACCEPTED"), ("ok", .bool true), ("detail", .str ""),
    ("status", .str "SUCCEEDED"), ("snapshot_id", .str "snap"), ("complete_set_hash", .str soloHash)]

/-- The rank comes up on connection 0 and the generation starts, all at time zero. -/
def soloEstablish : List (Time × HeadEvent HeadAction) :=
  [(0, .act .beginRegistration), (0, .accept 0), (0, .frame 0 (soloRegister 1 "n0:1")), (0, .drained 0 true),
    (0, .frame 0 (soloFrame .snapshot 2 (NodeChannel.chunkPayload "snap" soloHash 1 0 [soloItem]))),
    (0, .staged 0 (.ok (true, "rank snapshot staged", true))), (0, .committed 0 (.ok ())), (0, .drained 0 true),
    (0, .frame 0 (soloFrame .commandResult 3 soloResult)), (0, .act .start)]

/-- The socket of connection 0 ends at time five. -/
def soloEof : List (Time × HeadEvent HeadAction) := soloEstablish ++ [(5, HeadEvent.eof 0)]

/-- The rank falls silent: its lease is over at time thirty, connection 0 stays open. -/
def soloSilence : List (Time × HeadEvent HeadAction) := soloEstablish ++ [(31, HeadEvent.act .pollLeases)]

/-- The coordinator holds the rank LOST since the given time and the generation runs. -/
def lostSince (head : Head) (rank : Int) (loss : Time) : Bool :=
  head.owner.coordinator.generationState = .started &&
    (head.owner.coordinator.sessions.get? rank).any fun session =>
      session.state = .lost && session.lossTime = some loss

theorem lostSince_session {head : Head} {rank : Int} {loss : Time} (lost : head.lostSince rank loss = true) :
    ∃ session, head.owner.coordinator.sessions.get? rank = some session ∧ session.state = .lost ∧
      session.lossTime = some loss := by
  unfold lostSince at lost
  rw [Bool.and_eq_true] at lost
  rcases found : head.owner.coordinator.sessions.get? rank with _ | session
  · rw [found] at lost
    cases lost.2
  · rw [found, Option.any_some, Bool.and_eq_true] at lost
    exact ⟨session, rfl, of_decide_eq_true lost.2.1, of_decide_eq_true lost.2.2⟩

theorem solo_losses :
    lostSince (run (step soloHead) (create soloHead) soloEof) 0 5 = true ∧
      registeredNow (run (step soloHead) (create soloHead) soloEof) 0 = false ∧
      lostSince (run (step soloHead) (create soloHead) soloSilence) 0 30 = true ∧
      registerRefusal soloHead.listener (run (step soloHead) (create soloHead) soloSilence)
        (soloRegister 1 "n0:2") = some .duplicateRank := by
  unfold soloEof soloSilence
  rw [run_concat, run_concat]
  decide +kernel

theorem soloRegister_formed : WellFormedRegister soloHead 0 (soloRegister 1 "n0:2") where
  kind := rfl
  scope := rfl
  payload := rfl
  sender := rfl
  sequence := by decide
  node := by decide

theorem solo_rank_admitted_after_eof :
    lostSince (run (step soloHead) (create soloHead) soloEof) 0 5 = true ∧
      Admits soloHead (run (step soloHead) (create soloHead) soloEof) 6 (soloRegister 1 "n0:2") := by
  obtain ⟨lost, vacant, -⟩ := solo_losses
  obtain ⟨session, held, state, since⟩ := lostSince_session lost
  have in_grace : (6 : Time) ≤ 5 + soloHead.allocation.limits.reconnectGraceS := by decide +kernel
  have admitted := lost_rank_admitted_iff soloHead soloEof 0 session 5 6 (soloRegister 1 "n0:2") held state
    since in_grace soloRegister_formed
  exact ⟨lost, admitted.mpr vacant⟩

/-- A rank lost in silence is refused on a new connection as a duplicate of itself. -/
theorem silent_loss_refused_while_connection_open :
    lostSince (run (step soloHead) (create soloHead) soloSilence) 0 30 = true ∧
      (32 : Time) ≤ 30 + soloHead.allocation.limits.reconnectGraceS ∧
      WellFormedRegister soloHead 0 (soloRegister 1 "n0:2") ∧
      ¬Admits soloHead (run (step soloHead) (create soloHead) soloSilence) 32 (soloRegister 1 "n0:2") := by
  obtain ⟨-, -, lost, refused⟩ := solo_losses
  refine ⟨lost, by decide +kernel, soloRegister_formed, ?_⟩
  rintro ⟨allowed, -⟩
  rw [refused] at allowed
  cases allowed

end ExaServe.Control.Head
