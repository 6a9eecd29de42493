import ExaServe.Control.Head.ShutdownAccounts

namespace ExaServe.Control.Shutdown

open Lib Plan

variable {config : HeadConfig} {asked : ShutdownOperation} {s : Shutdown}

theorem visit_none_sound (sound : s.Sound config asked) (sending : s.phase = .sending [])
    (meets : s.expired.isSome = true → s.accepted config asked = []) :
    (s.visit config asked []).Sound config asked := by
  obtain ⟨listening, ordered, staged, accounted⟩ := sound
  unfold Staged at staged
  rw [sending] at staged
  have untouched : s.Untouched := staged
  have distinct := ordered.distinct
  have planned := ordered.planned
  unfold pending at distinct planned
  rw [sending] at distinct planned
  have carried : ∀ phase, (∀ rank rest, phase ≠ .delivering rank rest) →
      ({ s with phase } : Shutdown).Listening asked := by
    intro phase other
    have same : ({ s with phase } : Shutdown).written = s.written := by
      unfold written
      rw [sending]
      cases phase with
      | delivering rank rest => exact absurd rfl (other rank rest)
      | _ => rfl
    refine listening.carried rfl rfl (fun _ => Iff.rfl) rfl rfl (fun rank => same ▸ id) ?_
    intro rank listed
    unfold attempted at listed ⊢
    rw [same]
    exact listed
  unfold visit
  dsimp only
  by_cases ended : s.expired.isSome = true ∨ s.sent = []
  · rw [if_pos (by simpa using ended)]
    refine ⟨carried _ (fun _ _ same => by cases same), ⟨distinct, planned⟩,
      ⟨⟨rfl, ?_, ⟨[], ?_, List.Sublist.refl _⟩, ?_, ?_, fun asked => by cases asked⟩,
        untouched.unreported, untouched.unparted⟩, accounted.counted, accounted.parted⟩
    · intro rank
      change rank ∈ s.head.owner.coordinator.drainRequested ↔ _
      rw [untouched.drained]
      simp
    · change s.sent = [] ++ (noResults s.sent).map Prod.fst
      rw [noResults, List.map_map, List.nil_append]
      exact (List.map_id _).symm
    · intro rank sent
      have idle : s.accepted config asked = [] ∨ s.sent = [] := ended.imp_left meets
      rcases idle with silent | nobody
      · change rank ∈ s.accepted config asked ↔ _
        simp [silent, noResults]
      · change rank ∈ s.sent at sent
        rw [nobody] at sent
        cases sent
    · intro undecided rank sent
      rcases ended with late | nobody
      · change s.expired = none at undecided
        rw [undecided] at late
        cases late
      · change rank ∈ s.sent at sent
        rw [nobody] at sent
        cases sent
  · rw [if_neg (by simpa using ended)]
    have undecided : s.expired = none := by
      rw [not_or, Option.not_isSome_iff_eq_none] at ended
      exact ended.1
    exact ⟨carried _ (fun _ _ same => by cases same), ⟨distinct, planned⟩,
      ⟨untouched.carried rfl rfl rfl rfl, undecided⟩, accounted.counted, accounted.parted⟩

theorem visit_sound (sound : s.Sound config asked) {rank : Int} {rest : List Int}
    (sending : s.phase = .sending (rank :: rest))
    (meets : s.head.isEstablished rank = true →
      (s.head.sendCommand config.listener rank (asked.commandId rank) asked.value []).2.isOk = true ∨
        s.accepted config asked = []) :
    (s.visit config asked (rank :: rest)).Sound config asked := by
  obtain ⟨listening, ordered, staged, accounted⟩ := sound
  unfold Staged at staged
  rw [sending] at staged
  have untouched : s.Untouched := staged
  have written : s.written = s.sent := by
    unfold Shutdown.written
    rw [sending, List.append_nil]
  have distinct := ordered.distinct
  have planned := ordered.planned
  unfold pending at distinct planned
  rw [sending] at distinct planned
  have later : (s.sent ++ rest).Nodup :=
    distinct.sublist (List.Sublist.append_left (List.sublist_cons_self _ _) _)
  have named : ∀ other ∈ s.sent ++ rest, other ∈ Listener.plannedRanks config.listener := by
    intro other listed
    apply planned
    rcases List.mem_append.mp listed with sent | waiting
    · exact List.mem_append_left _ sent
    · exact List.mem_append_right _ (List.mem_cons_of_mem _ waiting)
  have frame := @Listener.sendCommand_frame _ config.listener s.head rank (asked.commandId rank) asked.value []
  unfold visit
  dsimp only
  by_cases established : s.head.isEstablished rank = true
  · rw [if_neg (by simpa using established)]
    have drained := congrArg (fun owner : HeadChannel => owner.coordinator.drainRequested) frame.2.1
    have commanded := fun after => @Listening.commanded config asked s after listening rank
    have allowed := meets established
    have raised := @Listener.sendCommand_raised _ config.listener s.head rank (asked.commandId rank) asked.value []
    revert drained commanded allowed raised
    rcases s.head.sendCommand config.listener rank (asked.commandId rank) asked.value [] with ⟨head, error | sent⟩
    · intro drained commanded allowed raised
      have unchanged : head = s.head := raised rfl
      subst unchanged
      have silent : s.accepted config asked = [] := allowed.resolve_left Bool.false_ne_true
      refine abandon_sound listening ⟨ordered.distinct, ordered.planned⟩ untouched ?_ silent 0 rfl _
      intro other listed
      exact List.mem_append_left _ (written ▸ listed)
    · intro drained commanded _ _
      cases sent with
      | false =>
        refine ⟨commanded _ rfl rfl rfl ?_ ?_, ⟨later, named⟩, untouched.carried drained rfl rfl rfl,
          accounted.counted, accounted.parted⟩
        · intro other listed
          rw [written]
          exact .inl ((List.append_nil s.sent) ▸ listed)
        · intro other turned
          unfold attempted at turned
          rw [written] at turned
          unfold attempted Shutdown.written
          dsimp only
          simp only [List.mem_append, List.append_nil, List.mem_singleton] at turned ⊢
          exact or_assoc.mp turned
      | true =>
        refine ⟨commanded _ rfl rfl rfl ?_ ?_, ⟨distinct, planned⟩, untouched.carried drained rfl rfl rfl,
          accounted.counted, accounted.parted⟩
        · intro other listed
          rw [written]
          change other ∈ s.sent ++ [rank] at listed
          rcases List.mem_append.mp listed with known | own
          · exact .inl known
          · exact .inr ⟨List.mem_singleton.mp own, rfl⟩
        · intro other turned
          unfold attempted at turned
          rw [written] at turned
          unfold attempted Shutdown.written
          dsimp only
          simp only [List.mem_append, List.mem_singleton] at turned ⊢
          rcases turned with (known | skipped) | own
          · exact .inl (.inl known)
          · exact .inr skipped
          · exact .inl (.inr own)
  · rw [if_pos (by simpa using established)]
    refine ⟨?_, ⟨later, named⟩, untouched.carried rfl rfl rfl rfl, accounted.counted, accounted.parted⟩
    refine listening.carried rfl rfl (fun _ => Iff.rfl) rfl rfl ?_ ?_
    · intro other listed
      rw [written]
      exact (List.append_nil s.sent) ▸ listed
    · intro other turned
      unfold attempted at turned ⊢
      rw [written] at turned
      unfold Shutdown.written
      rw [List.append_nil]
      exact turned

theorem delivered_sound (sound : s.Sound config asked) {rank : Int} {rest : List Int}
    (delivering : s.phase = .delivering rank rest) (ok : Bool) : (s.delivered rank rest ok).Sound config asked := by
  obtain ⟨listening, ordered, staged, accounted⟩ := sound
  unfold Staged at staged
  rw [delivering] at staged
  have untouched : s.Untouched := staged
  have written : s.written = s.sent ++ [rank] := by
    unfold Shutdown.written
    rw [delivering]
  have distinct := ordered.distinct
  have planned := ordered.planned
  unfold pending at distinct planned
  rw [delivering] at distinct planned
  unfold Shutdown.delivered
  cases ok with
  | true =>
    rw [if_pos rfl]
    refine ⟨listening.carried rfl rfl (fun _ => Iff.rfl) rfl rfl ?_ ?_, ⟨?_, ?_⟩,
      untouched.carried rfl rfl rfl rfl, accounted.counted, accounted.parted⟩
    · intro other listed
      rw [written]
      exact (List.append_nil (s.sent ++ [rank])) ▸ listed
    · intro other turned
      unfold attempted at turned ⊢
      rw [written] at turned
      unfold Shutdown.written
      rw [List.append_nil]
      exact turned
    · change ((s.sent ++ [rank]) ++ rest).Nodup
      rw [List.append_assoc]
      exact distinct
    · change ∀ other ∈ (s.sent ++ [rank]) ++ rest, _
      rw [List.append_assoc]
      exact planned
  | false =>
    rw [if_neg Bool.false_ne_true]
    refine ⟨listening.carried rfl rfl (fun _ => Iff.rfl) rfl rfl ?_ ?_, ⟨?_, ?_⟩,
      untouched.carried rfl rfl rfl rfl, accounted.counted, accounted.parted⟩
    · intro other listed
      rw [written]
      exact List.mem_append_left _ ((List.append_nil s.sent) ▸ listed)
    · intro other turned
      unfold attempted at turned ⊢
      rw [written] at turned
      unfold Shutdown.written
      dsimp only
      simp only [List.mem_append, List.append_nil, List.mem_singleton] at turned ⊢
      rcases turned with (known | own) | skipped
      · exact .inl known
      · exact .inr (.inr own)
      · exact .inr (.inl skipped)
    · exact distinct.sublist (List.Sublist.append_left (List.sublist_cons_self _ _) _)
    · intro other listed
      apply planned
      rcases List.mem_append.mp listed with sent | waiting
      · exact List.mem_append_left _ sent
      · exact List.mem_append_right _ (List.mem_cons_of_mem _ waiting)

/-- The accounts open on the results of a wait that ends in this state. -/
theorem collected_sound (sound : s.Sound config asked) (waiting : s.phase = .waiting) {expired : Option (List Int)}
    (deadline : expired = none ∧ s.allAnswered asked = true ∨ expired = some (s.accepted config asked)) :
    ({ s with expired } : Shutdown).collect asked |>.Sound config asked := by
  obtain ⟨listening, ordered, staged, accounted⟩ := sound
  unfold Staged at staged
  rw [waiting] at staged
  obtain ⟨untouched, undecided⟩ := staged
  have written : s.written = s.sent := by
    unfold Shutdown.written
    rw [waiting, List.append_nil]
  have accepted_now : s.accepted config asked = answeredRanks config asked s.head := by
    unfold accepted
    rw [undecided, Option.getD_none]
  have same : (({ s with expired } : Shutdown).collect asked).attempted = s.attempted := by
    unfold attempted
    rw [written]
    exact congrArg (· ++ s.undelivered) (List.append_nil s.sent)
  have planned := ordered.planned
  have distinct := ordered.distinct
  unfold pending at distinct planned
  rw [waiting] at distinct planned
  refine ⟨⟨listening.recorded, ?_, ?_, listening.heard, ?_⟩, ⟨distinct, planned⟩,
    ⟨?_, untouched.unreported, untouched.unparted⟩, accounted.counted, accounted.parted⟩
  · intro commandId rank body found operation
    rw [same]
    exact listening.issued commandId rank body found operation
  · intro rank listed
    apply listening.delivered rank
    rw [written]
    exact (List.append_nil s.sent) ▸ listed
  · intro ranks late
    rw [same]
    rcases deadline with ⟨rfl, -⟩ | rfl
    · cases late
    · cases late
      exact ⟨listening.accepted_nodup, fun rank accepted => listening.accepted_attempted accepted⟩
  · refine tallied_collect listening ordered untouched.drained rfl ?_ ?_
    · rcases deadline with ⟨rfl, -⟩ | rfl
      · rfl
      · exact accepted_now
    · intro undecided rank sent
      rcases deadline with ⟨rfl, all⟩ | rfl
      · exact List.all_eq_true.mp all rank sent
      · cases undecided

theorem collect_sound (sound : s.Sound config asked) (waiting : s.phase = .waiting)
    (all : s.allAnswered asked = true) : (s.collect asked).Sound config asked := by
  have staged := sound.staged
  unfold Staged at staged
  rw [waiting] at staged
  have same : ({ s with expired := none } : Shutdown) = s := by
    rw [← staged.2]
  rw [← same]
  exact collected_sound sound waiting (.inl ⟨rfl, all⟩)

theorem Tallied.carried {after : Shutdown} {requested : Bool} {rest : List (Int × Option CommandResult)}
    {acknowledged : Nat} {acknowledgedRanks : List Int}
    (tallied : s.Tallied config asked requested rest acknowledged acknowledgedRanks)
    (drained : after.head.owner.coordinator.drainRequested = s.head.owner.coordinator.drainRequested)
    (sent : after.sent = s.sent)
    (accepted : ∀ rank ∈ s.sent, rank ∈ after.accepted config asked ↔ rank ∈ s.accepted config asked)
    (settled : after.expired = none → s.expired = none ∧ ∀ rank ∈ s.sent,
      (s.head.commandResults.get? (asked.commandId rank)).isSome = true →
        (after.head.commandResults.get? (asked.commandId rank)).isSome = true) :
    after.Tallied config asked requested rest acknowledged acknowledgedRanks where
  counted := tallied.counted
  drained rank := by
    rw [drained]
    exact tallied.drained rank
  looked := by
    rw [sent]
    exact tallied.looked
  accepted rank listed := by
    rw [sent] at listed
    rw [accepted rank listed]
    exact tallied.accepted rank listed
  settled undecided rank listed := by
    rw [sent] at listed
    obtain ⟨before, kept⟩ := settled undecided
    exact kept rank listed (tallied.settled before rank listed)
  pressing := tallied.pressing

theorem expire_sound (sound : s.Sound config asked) :
    (s.expire config asked).Sound config asked := by
  by_cases waiting : s.phase = .waiting
  · unfold expire
    rw [waiting]
    have collected := collected_sound sound waiting (.inr rfl)
    rw [waiting] at collected
    exact collected
  · have unchanged : s.expire config asked = { s with expired := some (s.accepted config asked) } := by
      unfold expire
      dsimp only
      split
      · rename_i now
        exact absurd now waiting
      · rfl
    obtain ⟨listening, ordered, staged, accounted⟩ := sound
    rw [unchanged]
    refine ⟨⟨listening.recorded, listening.issued, listening.delivered, listening.heard, ?_⟩,
      ⟨ordered.distinct, ordered.planned⟩, ?_, accounted.counted, accounted.parted⟩
    · intro ranks late
      cases late
      exact ⟨listening.accepted_nodup, fun rank accepted => listening.accepted_attempted accepted⟩
    · unfold Staged at staged ⊢
      dsimp only
      rcases phase : s.phase with _ | rest | ⟨rank, rest⟩ | _ | ⟨requested, rest, acknowledged, ranks⟩ | _ | _
      · rw [phase] at staged
        refine ⟨staged.1.carried rfl rfl rfl rfl, ?_⟩
        have unturned := staged.2
        unfold attempted written at unturned ⊢
        rw [phase] at unturned
        exact unturned
      · rw [phase] at staged
        exact Untouched.carried staged rfl rfl rfl rfl
      · rw [phase] at staged
        exact Untouched.carried staged rfl rfl rfl rfl
      · exact absurd phase waiting
      · rw [phase] at staged
        refine ⟨staged.1.carried rfl rfl (fun _ _ => Iff.rfl) ?_, staged.2⟩
        intro undecided
        cases undecided
      · rw [phase] at staged
        exact staged
      · trivial

/-- In the accounts' phase the broadcast has turned to its delivery set and to the
    ranks whose write failed. -/
theorem attempted_accounting (config : HeadConfig) {requested : Bool} {rest : List (Int × Option CommandResult)}
    {acknowledged : Nat} {acknowledgedRanks : List Int}
    (accounting : s.phase = .accounting requested rest acknowledged acknowledgedRanks) :
    s.written = s.sent ∧ s.pending config = [] := by
  unfold written pending
  rw [accounting, List.append_nil]
  exact ⟨rfl, rfl⟩

theorem finishAccounting_sound (sound : s.Sound config asked) {acknowledged : Nat} {acknowledgedRanks : List Int}
    (accounting : s.phase = .accounting false [] acknowledged acknowledgedRanks)
    (meets : ∀ rank ∈ s.undelivered, rank ∉ s.accepted config asked) :
    (s.finishAccounting config asked acknowledged acknowledgedRanks).Sound config asked := by
  obtain ⟨listening, ordered, staged, accounted⟩ := sound
  unfold Staged at staged
  rw [accounting] at staged
  obtain ⟨tallied, unreported, unparted⟩ := staged
  obtain ⟨written, pending⟩ := attempted_accounting config accounting
  obtain ⟨done, looked, within⟩ := tallied.looked
  rw [List.map_nil, List.append_nil] at looked
  have sent_distinct : s.sent.Nodup := (List.nodup_append.mp ordered.distinct).1
  have distinct : acknowledgedRanks.Nodup := (looked ▸ sent_distinct).sublist within
  have same : ∀ rank, rank ∈ acknowledgedRanks ↔ rank ∈ s.accepted config asked := by
    intro rank
    have decided : rank ∈ s.sent → (rank ∈ s.accepted config asked ↔ rank ∈ acknowledgedRanks) := by
      intro sent
      rw [tallied.accepted rank sent]
      simp
    constructor
    · intro counted
      exact (decided (looked ▸ within.subset counted)).mpr counted
    · intro accepted
      have turned := listening.accepted_attempted accepted
      unfold attempted at turned
      rw [written] at turned
      rcases List.mem_append.mp turned with sent | undelivered
      · exact (decided sent).mp accepted
      · exact absurd accepted (meets rank undelivered)
  have count : acknowledged = (s.accepted config asked).length := by
    rw [tallied.counted]
    exact ((List.perm_ext_iff_of_nodup distinct listening.accepted_nodup).mpr same).length_eq
  have drained : ∀ rank, rank ∈ s.head.owner.coordinator.drainRequested ↔ rank ∈ s.accepted config asked := by
    intro rank
    rw [tallied.drained rank, ← same rank]
    simp
  have kept : ∀ rank ∈ s.written, rank ∈ s.sent ++ s.undelivered := by
    intro rank listed
    exact List.mem_append_left _ (written ▸ listed)
  have recorded : ({ s with acknowledgedRanks } : Shutdown).Listening asked :=
    listening.carried rfl rfl (fun _ => Iff.rfl) rfl rfl (fun _ => id) fun _ => id
  unfold finishAccounting
  dsimp only
  split
  · exact giveReport_sound (recorded.failed _) ⟨ordered.distinct, ordered.planned⟩ rfl kept unparted count distinct
      same drained
  · exact giveReport_sound recorded ⟨ordered.distinct, ordered.planned⟩ rfl kept unparted count distinct same drained

theorem requestDrain_drains (c : Coordinator) (rank other : Int) :
    other ∈ (c.requestDrain rank).drainRequested ↔ other ∈ c.drainRequested ∨ other = rank := by
  unfold Coordinator.requestDrain
  split
  · rename_i known
    constructor
    · exact .inl
    · rintro (listed | rfl)
      · exact listed
      · exact known
  · rw [List.mem_cons, or_comm]

theorem account_sound (sound : s.Sound config asked) {requested : Bool} {rest : List (Int × Option CommandResult)}
    {acknowledged : Nat} {acknowledgedRanks : List Int}
    (accounting : s.phase = .accounting requested rest acknowledged acknowledgedRanks)
    (meets : s.Meets config asked .account) :
    (s.account config asked requested rest acknowledged acknowledgedRanks).Sound config asked := by
  have whole := sound
  obtain ⟨listening, ordered, staged, accounted⟩ := sound
  unfold Staged at staged
  unfold Meets at meets
  rw [accounting] at staged meets
  obtain ⟨tallied, unreported, unparted⟩ := staged
  obtain ⟨written, pending⟩ := attempted_accounting config accounting
  have nothing : ∀ after : Shutdown, after.report = s.report → after.Accounted := by
    intro after same
    constructor
    · intro report reported
      rw [same, unreported] at reported
      cases reported
    · intro report goodbyes reported
      rw [same, unreported] at reported
      cases reported
  have carried : ∀ after : Shutdown, after.sent = s.sent → after.undelivered = s.undelivered →
      (∀ rank rest, after.phase ≠ .delivering rank rest) →
        after.written = s.written ∧ after.attempted = s.attempted := by
    intro after sent undelivered other
    have same : after.written = s.written := by
      rw [written]
      unfold Shutdown.written
      rw [sent]
      split
      · rename_i rank rest delivering
        exact absurd delivering (other rank rest)
      · exact List.append_nil _
    refine ⟨same, ?_⟩
    unfold attempted
    rw [same, undelivered]
  have distinct := ordered.distinct
  have planned := ordered.planned
  rw [pending] at distinct planned
  rcases requested with _ | _ <;> rcases rest with _ | ⟨⟨rank, result⟩, others⟩
  · exact finishAccounting_sound whole accounting meets
  · obtain ⟨done, looked, within⟩ := tallied.looked
    unfold account
    dsimp only
    by_cases succeeded : result.any asked.acknowledges = true
    · rw [if_pos succeeded]
      obtain ⟨answer, rfl, sure⟩ := (Option.any_eq_true _ _).mp succeeded
      refine ⟨?_, ⟨distinct, planned⟩, ⟨⟨tallied.counted, ?_, ⟨done, looked, within⟩, tallied.accepted,
        tallied.settled, fun _ => ⟨rank, answer, others, rfl, sure⟩⟩, unreported, unparted⟩, nothing _ rfl⟩
      · obtain ⟨same, turned⟩ := carried { s.requestDrain rank with
          phase := .accounting true ((rank, some answer) :: others) acknowledged acknowledgedRanks } rfl rfl
          (fun _ _ other => by cases other)
        exact listening.carried rfl rfl (fun _ => Iff.rfl) rfl rfl (fun _ => same ▸ id) fun _ => turned ▸ id
      · intro other
        have before := tallied.drained other
        change other ∈ (s.head.owner.coordinator.requestDrain rank).drainRequested ↔ _
        rw [requestDrain_drains, before]
        simp [eq_comm]
    · rw [if_neg succeeded]
      refine ⟨?_, ⟨distinct, planned⟩, ⟨⟨tallied.counted, ?_, ⟨done ++ [rank], ?_, ?_⟩, ?_, tallied.settled,
        fun requested => by cases requested⟩, unreported, unparted⟩, nothing _ rfl⟩
      · obtain ⟨same, turned⟩ := carried
          { s.addFailure s!"rank {rank} returned an invalid {asked.value} result" with
            phase := .accounting false others acknowledged acknowledgedRanks } rfl rfl
          (fun _ _ other => by cases other)
        exact listening.carried rfl rfl (fun _ => Iff.rfl) rfl rfl (fun _ => same ▸ id) fun _ => turned ▸ id
      · intro other
        have before := tallied.drained other
        change other ∈ s.head.owner.coordinator.drainRequested ↔ _
        rw [before]
        simp
      · change s.sent = _
        rw [looked]
        simp
      · exact within.trans (List.sublist_append_left _ _)
      · intro other sent
        change other ∈ s.accepted config asked ↔ _
        rw [tallied.accepted other sent]
        refine or_congr Iff.rfl ⟨?_, ?_⟩
        · rintro ⟨answer, listed, sure⟩
          rcases List.mem_cons.mp listed with same | later
          · cases same
            exact absurd sure succeeded
          · exact ⟨answer, later, sure⟩
        · rintro ⟨answer, listed, sure⟩
          exact ⟨answer, List.mem_cons_of_mem _ listed, sure⟩
  · exact whole
  · obtain ⟨done, looked, within⟩ := tallied.looked
    obtain ⟨first, answer, rest, same, sure⟩ := tallied.pressing rfl
    cases same
    obtain ⟨head, authorized, said⟩ := Listener.expectGoodbye_mayLeave meets
    obtain ⟨results, owner, issued⟩ := Listener.expectGoodbye_frame authorized
    unfold account
    dsimp only
    rw [authorized]
    dsimp only
    have unchanged : accepted config asked { s with
        head, phase := .accounting false others (acknowledged + 1) (acknowledgedRanks ++ [rank]) } =
        s.accepted config asked := accepted_carried results rfl
    refine ⟨?_, ⟨distinct, planned⟩, ⟨⟨?_, ?_, ⟨done ++ [rank], ?_, ?_⟩, ?_, ?_,
      fun requested => by cases requested⟩, unreported, unparted⟩, nothing _ rfl⟩
    · obtain ⟨same, turned⟩ := carried { s with
          head, phase := .accounting false others (acknowledged + 1) (acknowledgedRanks ++ [rank]) } rfl rfl
          (fun _ _ other => by cases other)
      exact listening.carried results issued said rfl rfl (fun _ => same ▸ id) fun _ => turned ▸ id
    · rw [tallied.counted, List.length_append]
      rfl
    · intro other
      have before := tallied.drained other
      change other ∈ head.owner.coordinator.drainRequested ↔ _
      rw [owner, before]
      simp [eq_comm]
    · change s.sent = _
      rw [looked]
      simp
    · exact within.append (List.Sublist.refl _)
    · intro other sent
      rw [unchanged, tallied.accepted other sent, List.mem_append, List.mem_singleton, or_assoc]
      refine or_congr Iff.rfl ⟨?_, ?_⟩
      · rintro ⟨found, listed, sure⟩
        rcases List.mem_cons.mp listed with same | later
        · cases same
          exact .inl rfl
        · exact .inr ⟨found, later, sure⟩
      · rintro (rfl | ⟨found, listed, sure⟩)
        · exact ⟨answer, List.mem_cons_self, sure⟩
        · exact ⟨found, List.mem_cons_of_mem _ listed, sure⟩
    · intro undecided other sent
      rw [results]
      exact tallied.settled undecided other sent

theorem poll_sound (sound : s.Sound config asked) (returned : s.phase = .returned) :
    s.poll.Sound config asked := by
  have whole := sound
  obtain ⟨listening, ordered, staged, accounted⟩ := sound
  unfold Staged at staged
  rw [returned] at staged
  obtain ⟨unparted, report, reported, named, distinct, accepted_distinct⟩ := staged
  obtain ⟨-, same, -⟩ := accounted.counted report reported
  have count : (s.acknowledgedRanks.filter (s.head.receivedGoodbyes.contains ·)).length =
      (report.accepted.filter (s.goodbyes.contains ·)).length := by
    apply List.Perm.length_eq
    rw [List.perm_ext_iff_of_nodup ((named ▸ distinct).filter _) (accepted_distinct.filter _)]
    intro rank
    rw [List.mem_filter, List.mem_filter, ← named, same rank, List.contains_iff_mem, List.contains_iff_mem,
      listening.heard rank]
  have finished : ∀ (before : Shutdown) (number : Nat), before.head.commandResults = s.head.commandResults →
      before.head.issuedCommands = s.head.issuedCommands →
      before.head.receivedGoodbyes = s.head.receivedGoodbyes →
      before = { s with head := before.head } →
      number = (s.acknowledgedRanks.filter (s.head.receivedGoodbyes.contains ·)).length →
      ({ before with phase := .finished, goodbyeReport := some { returned := number, said := before.goodbyes } } :
        Shutdown).Sound config asked := by
    intro before number results issued said unchanged number_eq
    rw [unchanged]
    refine ⟨?_, ?_, trivial, accounted.counted, ?_⟩
    · refine listening.carried results issued (fun rank => by rw [said]) rfl rfl ?_ ?_
      · intro rank listed
        unfold written at listed ⊢
        rw [returned]
        exact listed
      · intro rank listed
        unfold attempted written at listed ⊢
        rw [returned] at listed
        exact listed
    · have planned := ordered.planned
      have distinct := ordered.distinct
      unfold pending at distinct planned
      rw [returned] at distinct planned
      exact ⟨distinct, planned⟩
    · intro given goodbyes reported_given parted
      change s.report = some given at reported_given
      rw [reported] at reported_given
      cases reported_given
      cases parted
      exact number_eq.trans count
  unfold poll
  dsimp only
  split
  · split
    · rename_i all
      refine finished s _ rfl rfl rfl rfl ?_
      rw [List.filter_eq_self.mpr (List.all_eq_true.mp all)]
    · exact whole
  · split
    · exact finished (s.addFailure _) _ rfl rfl rfl rfl rfl
    · exact finished s _ rfl rfl rfl rfl rfl

end ExaServe.Control.Shutdown
