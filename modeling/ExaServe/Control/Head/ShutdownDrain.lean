import ExaServe.Control.Head.ShutdownPhases

namespace ExaServe.Control.Shutdown

open Lib Plan

variable {config : HeadConfig} {asked : ShutdownOperation} {s : Shutdown}

theorem answered_kept {head after : Head} {rank : Int}
    (known : (head.commandResults.get? (asked.commandId rank)).isSome = true)
    (kept : ∀ commandId record, head.commandResults.get? commandId = some record →
      after.commandResults.get? commandId = some record) : answered asked after rank = answered asked head rank := by
  obtain ⟨record, found⟩ := Option.isSome_iff_exists.mp known
  unfold answered
  rw [found, kept _ _ found]

/-- The listener's loop and the start phases let out no command of the shutdown. -/
theorem foreign_issues {event : HeadEvent HeadAction} (foreign : own event = false) :
    ¬Listener.issues event asked.value := by
  unfold Listener.issues
  rintro (accepted | sent)
  · cases asked <;> exact absurd accepted (by decide)
  · cases event with
    | sendCommand rank commandId operation payload =>
      subst sent
      cases asked <;> cases foreign
    | broadcastCommand rank commandId operation payload => cases foreign
    | _ => exact sent

theorem loop_sound (sound : s.Sound config asked) (clock : Time) {event : HeadEvent HeadAction}
    (foreign : own event = false) (meets : ∀ rank ∈ s.head.receivedGoodbyes, s.head.reauthorizes event rank = false) :
    (s.loop config clock event).Sound config asked := by
  obtain ⟨listening, ordered, staged, accounted⟩ := sound
  have unasked : ∀ rank, event ≠ .expectGoodbye rank := by
    rintro rank rfl
    cases foreign
  have undrained : ∀ rank, event ≠ .act (.requestDrain rank) := by
    rintro rank rfl
    cases foreign
  have keeps := @Listener.keeps_step _ _ config.listener (HeadChannel.callbacks config) s.head clock event unasked
  have drains := Head.step_drains config s.head clock event undrained
  have results_kept := fun commandId record => @Listener.run_results_kept _ _ config.listener
    (HeadChannel.callbacks config) s.head [(clock, event)] commandId record
  have issued_kept := fun commandId request => @Listener.run_issued_kept _ _ config.listener
    (HeadChannel.callbacks config) s.head [(clock, event)] commandId request
  have results_new := fun commandId record => @Listener.step_results_new _ _ config.listener
    (HeadChannel.callbacks config) s.head (clock, event) commandId record
  have written : ∀ after : Shutdown, after.sent = s.sent → after.phase = s.phase → after.written = s.written := by
    intro after sent phase
    unfold Shutdown.written
    rw [sent, phase]
  have same : (s.loop config clock event).written = s.written := written _ rfl rfl
  have turned : (s.loop config clock event).attempted = s.attempted := congrArg (· ++ s.undelivered) same
  have listens : (s.loop config clock event).Listening asked := by
    constructor
    · intro commandId record found
      rcases results_new commandId record found with known | ⟨-, answers⟩
      · obtain ⟨body, issued, operation⟩ := listening.recorded commandId record known
        exact ⟨body, issued_kept _ _ issued, operation⟩
      · obtain ⟨c, env, info, body, -, -, -, -, -, -, -, -, -, issued, operation⟩ := answers
        exact ⟨body, issued_kept _ _ issued, operation⟩
    · intro commandId rank body found operation
      rw [turned]
      rcases keeps.issued commandId _ found with known | ⟨other, let_out, named⟩
      · exact listening.issued commandId rank body known operation
      · rw [operation] at named
        cases named
        exact absurd let_out (foreign_issues foreign)
    · intro rank listed
      rw [same] at listed
      obtain ⟨body, issued⟩ := listening.delivered rank listed
      exact ⟨body, issued_kept _ _ issued⟩
    · intro rank
      change rank ∈ s.goodbyes ∪ _ ↔ _
      rw [List.mem_union_iff]
      refine or_iff_right_of_imp fun said => ?_
      have received := (listening.heard rank).mp said
      exact keeps.goodbyes rank received (by rw [meets rank received]; exact Bool.false_ne_true)
    · intro ranks late
      rw [turned]
      exact listening.early ranks late
  have pending : (s.loop config clock event).pending config = s.pending config := rfl
  refine ⟨listens, ⟨ordered.distinct, ordered.planned⟩, ?_, accounted.counted, accounted.parted⟩
  unfold Staged at staged ⊢
  have phase_same : (s.loop config clock event).phase = s.phase := rfl
  rw [phase_same]
  rcases phase : s.phase with _ | rest | ⟨rank, rest⟩ | _ | ⟨requested, rest, acknowledged, ranks⟩ | _ | _
  · rw [phase] at staged
    exact ⟨staged.1.carried drains rfl rfl rfl, turned.trans staged.2⟩
  · rw [phase] at staged
    exact Untouched.carried staged drains rfl rfl rfl
  · rw [phase] at staged
    exact Untouched.carried staged drains rfl rfl rfl
  · rw [phase] at staged
    exact ⟨staged.1.carried drains rfl rfl rfl, staged.2⟩
  · rw [phase] at staged
    refine ⟨staged.1.carried drains rfl ?_ ?_, staged.2⟩
    · intro rank sent
      rcases deadline : s.expired with _ | frozen
      · have known := staged.1.settled deadline rank sent
        have same_answer : answered asked (s.loop config clock event).head rank = answered asked s.head rank :=
          answered_kept known results_kept
        unfold accepted
        rw [deadline, show (s.loop config clock event).expired = s.expired from rfl, deadline]
        change rank ∈ answeredRanks config asked _ ↔ rank ∈ answeredRanks config asked _
        unfold answeredRanks
        rw [List.mem_filter, List.mem_filter, same_answer]
      · unfold accepted
        rw [deadline, show (s.loop config clock event).expired = s.expired from rfl, deadline]
        exact Iff.rfl
    · intro undecided
      refine ⟨undecided, fun rank _ known => ?_⟩
      obtain ⟨record, found⟩ := Option.isSome_iff_exists.mp known
      exact Option.isSome_iff_exists.mpr ⟨record, results_kept _ _ found⟩
  · rw [phase] at staged
    exact staged
  · trivial

theorem raised_sound (sound : s.Sound config asked) (error : Raised) (meets : s.Meets config asked (.raised error)) :
    (s.step config asked (.raised error)).Sound config asked := by
  have whole := sound
  obtain ⟨listening, ordered, staged, accounted⟩ := sound
  unfold Staged at staged
  unfold Meets at meets
  unfold step
  dsimp only
  rcases phase : s.phase with _ | rest | ⟨rank, rest⟩ | _ | ⟨requested, rest, acknowledged, ranks⟩ | _ | _
  · exact whole
  · rw [phase] at staged meets
    refine abandon_sound listening ordered staged ?_ meets 0 rfl _
    intro rank listed
    unfold written at listed
    rw [phase, List.append_nil] at listed
    exact List.mem_append_left _ listed
  · rw [phase] at staged meets
    have written : s.written = s.sent ++ [rank] := by
      unfold Shutdown.written
      rw [phase]
    have skipped : ({ s with undelivered := s.undelivered ++ [rank] } : Shutdown).Listening asked := by
      refine listening.carried rfl rfl (fun _ => Iff.rfl) rfl rfl (fun _ => id) ?_
      intro other listed
      rcases List.mem_append.mp listed with turned | undelivered
      · exact List.mem_append_left _ turned
      · exact List.mem_append_right _ (List.mem_append_left _ undelivered)
    refine abandon_sound skipped ⟨ordered.distinct, ordered.planned⟩ (Untouched.carried staged rfl rfl rfl rfl) ?_
      meets 0 rfl _
    intro other listed
    change other ∈ s.written at listed
    rw [written] at listed
    change other ∈ s.sent ++ (s.undelivered ++ [rank])
    rw [← List.append_assoc, List.mem_append, List.mem_append]
    rcases List.mem_append.mp listed with sent | own
    · exact .inl (.inl sent)
    · exact .inr own
  · rw [phase] at staged meets
    refine abandon_sound listening ordered staged.1 ?_ meets 0 rfl _
    intro rank listed
    unfold written at listed
    rw [phase, List.append_nil] at listed
    exact List.mem_append_left _ listed
  · exact whole
  · exact whole
  · exact whole

theorem step_sound (sound : s.Sound config asked) (event : ShutdownEvent) (meets : s.Meets config asked event) :
    (s.step config asked event).Sound config asked := by
  cases event with
  | loop clock event =>
    unfold step
    dsimp only
    split
    · exact sound
    · rename_i foreign
      exact loop_sound sound clock (Bool.eq_false_iff.mpr foreign) (meets.resolve_left foreign)
  | begin =>
    unfold step
    dsimp only
    split
    · rename_i idle
      exact begin_sound sound idle
    · exact sound
  | visit =>
    unfold step
    unfold Meets at meets
    dsimp only at meets ⊢
    rcases phase : s.phase with _ | rest | _ | _ | _ | _ | _
    · exact sound
    · rw [phase] at meets
      cases rest with
      | nil => exact visit_none_sound sound phase meets
      | cons rank rest => exact visit_sound sound phase meets
    · exact sound
    · exact sound
    · exact sound
    · exact sound
    · exact sound
  | delivered ok =>
    unfold step
    dsimp only
    split
    · rename_i rank rest delivering
      exact delivered_sound sound delivering ok
    · exact sound
  | raised error => exact raised_sound sound error meets
  | expire =>
    unfold step
    dsimp only
    split
    · exact sound
    · exact expire_sound sound
  | collect =>
    unfold step
    dsimp only
    split
    · rename_i waiting
      split
      · rename_i all
        exact collect_sound sound waiting all
      · exact sound
    · exact sound
  | account =>
    unfold step
    dsimp only
    split
    · rename_i requested rest acknowledged acknowledgedRanks accounting
      exact account_sound sound accounting meets
    · exact sound
  | poll =>
    unfold step
    dsimp only
    split
    · rename_i returned
      exact poll_sound sound returned
    · exact sound

/-- Whatever the order of the ranks' answers, farewells, losses and returns: while no
    rank comes back before it is accounted for, nothing ends the broadcast early
    after an answer and no answer comes from a rank whose write failed, the shutdown
    counts exactly the ranks whose acknowledgement was accepted, and then exactly
    those of them that said GOODBYE. -/
theorem drain_accounted (config : HeadConfig) (asked : ShutdownOperation) (events : List ShutdownEvent)
    (meets : Along (step config asked) (Meets config asked) (create config) events) :
    Throughout (step config asked) Accounted (create config) events := by
  have sound : Throughout (step config asked) (Sound config asked) (create config) events :=
    @throughout_of_along _ _ (step config asked) (Sound config asked) (Meets config asked)
      (fun _ event admitted sound => step_sound sound event admitted) _ (create_sound config asked) _ meets
  exact fun taken within => (sound taken within).accounted

/-- A head of two ranks. -/
theorem pair_contiguous : ([(0, "n0"), (1, "n1")] : List (Int × String)).map Prod.fst =
    (List.range 2).map Int.ofNat := rfl

theorem pair_named : ∀ entry ∈ ([(0, "n0"), (1, "n1")] : List (Int × String)),
    canonicalNodeId entry.2 ≠ "" := by decide

theorem pair_distinct : (([(0, "n0"), (1, "n1")] : List (Int × String)).map fun entry =>
    canonicalNodeId entry.2).Nodup := by decide

def pairHead : HeadConfig where
  deploymentId := "d"
  planHash := "p"
  generation := 1
  allocation :=
    { limits := {}
      binding :=
        { deploymentId := "d", generation := 1, deploymentPlanHash := "", siteProfileHash := ""
          schedulerAllocationId := "j", rankToNode := [(0, "n0"), (1, "n1")], allocationBindingHash := ""
          ranks_contiguous := pair_contiguous
          nodes_named := pair_named
          nodes_distinct := pair_distinct } }
  controlLimits := .null
  plannedReceiptIds := none

def pairFrame (rank : Int) (kind : EnvelopeKind) (seq : Int) (payload : List (String × Json)) : Envelope :=
  { kind, deploymentId := "d", planHash := "p", generation := 1, senderRank := rank
    senderNode := s!"n{rank}", seq, payload }

def pairRegister (rank : Int) (instanceId : String) : Envelope :=
  pairFrame rank .register 1 [("payload_version", .int 1), ("instance_id", .str instanceId)]

def pairItem (rank : Int) : SnapshotItem where
  kind := .receipt
  body := [("receipt_requirement_id", .str s!"rank{rank}/node_supervisor"), ("component_id", .str "c"),
    ("instance_id", .str "i"), ("owner_scope", .str "RANK"), ("owner_rank", .int rank)]

/-- The hash of the rank's only item. -/
def pairHash (rank : Int) : String :=
  if rank = 0 then "a2203fa2fe1405daa6fbd586c55b1a940a61156e153b62e220919e98eb0ff412"
  else "856178985460af0b1b49df2378374a0bbaa57bd38210de0ffe842ba70e0357b3"

def pairResult (rank seq : Int) (commandId operation : String) (snapshot : List (String × Json)) : Envelope :=
  pairFrame rank .commandResult seq
    ([("payload_version", Json.int 1), ("command_id", .str commandId), ("operation", .str operation),
      ("ok", .bool true), ("detail", .str ""), ("status", .str "SUCCEEDED")] ++ snapshot)

/-- The rank comes up on a connection. -/
def pairEstablish (rank : Int) (c : Nat) : List ShutdownEvent :=
  [.accept c, .frame c (pairRegister rank "i:1"), .drained c true,
    .frame c (pairFrame rank .snapshot 2 (NodeChannel.chunkPayload "snap" (pairHash rank) 1 0 [pairItem rank])),
    .staged c (.ok (true, "rank snapshot staged", true)), .committed c (.ok ()), .drained c true,
    .frame c (pairResult rank 3 s!"SNAPSHOT_ACCEPTED:{rank}:snap" "SNAPSHOT_ACCEPTED"
      [("snapshot_id", .str "snap"), ("complete_set_hash", .str (pairHash rank))])].map (ShutdownEvent.loop 0)

/-- Both ranks come up, are sent DRAIN and answer it. -/
def pairAnswered : List ShutdownEvent :=
  .loop 0 (.act .beginRegistration) :: pairEstablish 0 0 ++ pairEstablish 1 1 ++
    [ShutdownEvent.begin, .visit, .delivered true, .visit, .delivered true, .visit,
      .loop 1 (.frame 0 (pairResult 0 4 "DRAIN:0" "DRAIN" [])),
      .loop 1 (.frame 1 (pairResult 1 4 "DRAIN:1" "DRAIN" []))]

def pairGoodbye (rank : Int) : Envelope := pairFrame rank .goodbye 5 [("payload_version", .int 1)]

/-- Rank 0 leaves before it is accounted for, rank 1 afterwards. -/
def pairLeaves : List ShutdownEvent :=
  [.loop 2 (.frame 0 (pairGoodbye 0)), .collect, .account, .account, .account, .account, .account,
    .poll, .loop 3 (.frame 1 (pairGoodbye 1)), .poll]

/-- Rank 0 loses its connection and registers again. -/
def rankBack : List ShutdownEvent :=
  [.loop 2 (.eof 0), .loop 2 (.accept 2), .loop 2 (.frame 2 (pairRegister 0 "i:2")), .loop 2 (.drained 2 true),
    .collect, .account, .account]

def reported (s : Shutdown) : Option (Nat × List Int × List Int × List Int) :=
  s.report.map fun report => (report.returned, report.acknowledged, report.drained, report.accepted)

theorem pair_runs :
    Along (step pairHead .drain) (Meets pairHead .drain) (create pairHead) pairAnswered ∧
      Along (step pairHead .drain) (Meets pairHead .drain)
        (run (step pairHead .drain) (create pairHead) pairAnswered) pairLeaves ∧
        reported (run (step pairHead .drain) (run (step pairHead .drain) (create pairHead) pairAnswered) rankBack) =
          some (0, [], [0], [0, 1]) := by
  decide +kernel

theorem pair_drain_accounted :
    Throughout (step pairHead .drain) Accounted (create pairHead) (pairAnswered ++ pairLeaves) :=
  drain_accounted pairHead .drain (pairAnswered ++ pairLeaves) (along_append.mpr ⟨pair_runs.1, pair_runs.2.1⟩)

/-- The answers of both ranks are accepted, and none is counted: the authority of the
    one that came back is refused, and with it the accounts of the other. -/
theorem returned_rank_uncounts_all :
    reported (run (step pairHead .drain) (create pairHead) (pairAnswered ++ rankBack)) = some (0, [], [0], [0, 1]) ∧
      ¬Accounted (run (step pairHead .drain) (create pairHead) (pairAnswered ++ rankBack)) := by
  have counts := pair_runs.2.2
  rw [← run_append] at counts
  refine ⟨counts, fun accounted => ?_⟩
  obtain ⟨report, found, same⟩ := Option.map_eq_some_iff.mp counts
  have counted := (accounted.counted report found).1
  rw [Prod.mk.injEq, Prod.mk.injEq, Prod.mk.injEq] at same
  obtain ⟨none_returned, -, -, both_accepted⟩ := same
  rw [none_returned, both_accepted] at counted
  cases counted

end ExaServe.Control.Shutdown
