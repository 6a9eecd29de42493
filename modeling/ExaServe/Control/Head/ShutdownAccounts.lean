import ExaServe.Control.Head.DrainRequests
import ExaServe.Control.Head.Shutdown
import ExaServe.Control.Transport.CommandRecords

namespace ExaServe.Control

open Lib Plan

namespace Listener

variable {σ α : Type} {config : ListenerConfig}

theorem sendCommand_frame (l : Listener σ) (rank : Int) (commandId operation : String)
    (payload : List (String × Json)) :
    (l.sendCommand config rank commandId operation payload).1.commandResults = l.commandResults ∧
      (l.sendCommand config rank commandId operation payload).1.owner = l.owner ∧
        (l.sendCommand config rank commandId operation payload).1.receivedGoodbyes = l.receivedGoodbyes := by
  unfold sendCommand
  split
  · exact ⟨rfl, rfl, rfl⟩
  split
  · exact ⟨rfl, rfl, rfl⟩
  · extract_lets body
    split
    · exact ⟨rfl, rfl, rfl⟩
    · rename_i issued recorded
      have same : issued.commandResults = l.commandResults ∧ issued.owner = l.owner ∧
          issued.receivedGoodbyes = l.receivedGoodbyes := by
        unfold rememberIssued at recorded
        split at recorded
        · split at recorded
          · cases recorded
          · cases recorded
            exact ⟨rfl, rfl, rfl⟩
        · split at recorded
          · cases recorded
          · cases recorded
            exact ⟨rfl, rfl, rfl⟩
      dsimp only
      split
      · exact same
      · exact same

/-- A command is issued to its rank, on top of what was issued before. -/
theorem sendCommand_issued (l : Listener σ) (rank : Int) (commandId operation : String)
    (payload : List (String × Json)) :
    (∀ other request, l.issuedCommands.get? other = some request →
        (l.sendCommand config rank commandId operation payload).1.issuedCommands.get? other = some request) ∧
      (∀ other request,
        (l.sendCommand config rank commandId operation payload).1.issuedCommands.get? other = some request →
          l.issuedCommands.get? other = some request ∨ request.1 = rank) ∧
        ((l.sendCommand config rank commandId operation payload).2 = .ok true →
          ∃ body, (l.sendCommand config rank commandId operation payload).1.issuedCommands.get? commandId =
            some (rank, body)) := by
  unfold sendCommand
  split
  · exact ⟨fun _ _ => id, fun _ _ => .inl, fun sent => by cases sent⟩
  split
  · exact ⟨fun _ _ => id, fun _ _ => .inl, fun sent => by cases sent⟩
  · extract_lets body
    split
    · exact ⟨fun _ _ => id, fun _ _ => .inl, fun sent => by cases sent⟩
    · rename_i issued recorded
      have recording : (∀ other request, l.issuedCommands.get? other = some request →
            issued.issuedCommands.get? other = some request) ∧
          (∀ other request, issued.issuedCommands.get? other = some request →
            l.issuedCommands.get? other = some request ∨ request.1 = rank) ∧
            ∃ prior, issued.issuedCommands.get? commandId = some (rank, prior) := by
        unfold rememberIssued at recorded
        split at recorded
        · rename_i prior found
          split at recorded
          · cases recorded
          · rename_i same
            cases recorded
            simp only [Bool.or_eq_true, decide_eq_true_eq, not_or, ne_eq, not_not] at same
            exact ⟨fun _ _ => id, fun _ _ => .inl, prior.2, by rw [found, ← same.1]⟩
        · rename_i novel
          split at recorded
          · cases recorded
          · cases recorded
            refine ⟨?_, ?_, body, Dict.get?_insert_self _ _ _⟩
            · intro other request found
              dsimp only
              rw [Dict.get?_insert]
              split
              · rename_i same
                rw [← same, novel] at found
                cases found
              · exact found
            · intro other request found
              dsimp only at found
              rw [Dict.get?_insert] at found
              split at found
              · cases found
                exact .inr rfl
              · exact .inl found
      obtain ⟨kept, new, named⟩ := recording
      dsimp only
      split
      · exact ⟨kept, new, fun sent => by cases sent⟩
      · exact ⟨kept, new, fun _ => named⟩

theorem sendCommand_raised (l : Listener σ) {rank : Int} {commandId operation : String}
    {payload : List (String × Json)} {error : Raised}
    (raised : (l.sendCommand config rank commandId operation payload).2 = .error error) :
    (l.sendCommand config rank commandId operation payload).1 = l := by
  revert raised
  unfold sendCommand
  split
  · exact fun _ => rfl
  split
  · exact fun _ => rfl
  · extract_lets body
    split
    · exact fun _ => rfl
    · dsimp only
      split
      · intro raised
        cases raised
      · intro raised
        cases raised

theorem expectGoodbye_frame {l expecting : Listener σ} {rank : Int}
    (expected : l.expectGoodbye rank = .ok expecting) :
    expecting.commandResults = l.commandResults ∧ expecting.owner = l.owner ∧
      expecting.issuedCommands = l.issuedCommands := by
  unfold expectGoodbye at expected
  split at expected
  · cases expected
  split at expected
  · cases expected
  split at expected
  · cases expected
    exact ⟨rfl, rfl, rfl⟩
  split at expected
  · cases expected
  · cases expected
    exact ⟨rfl, rfl, rfl⟩

/-- A rank that may leave is authorized, and nobody's GOODBYE is touched. -/
theorem expectGoodbye_mayLeave {l : Listener HeadChannel} {rank : Int} (leaving : Shutdown.mayLeave l rank = true) :
    ∃ expecting, l.expectGoodbye rank = .ok expecting ∧
      ∀ other, other ∈ expecting.receivedGoodbyes ↔ other ∈ l.receivedGoodbyes := by
  unfold Shutdown.mayLeave awaitsAuthority current at leaving
  unfold expectGoodbye
  rcases entered : l.sessions.get? rank with _ | c
  · rw [entered] at leaving
    cases leaving
  · rw [entered, Option.bind_some] at leaving
    rcases held : l.session c with _ | info
    · rw [held] at leaving
      cases leaving
    · rw [held, Option.any_some, Option.any_some] at leaving
      dsimp only
      rw [held]
      dsimp only
      by_cases expecting : info.expectedGoodbye = true
      · exact ⟨l, if_pos expecting, fun _ => Iff.rfl⟩
      · rw [Bool.not_eq_true] at expecting
        simp only [expecting, Bool.not_false, Bool.and_true, Bool.false_or, Bool.and_eq_true,
          Bool.not_eq_true'] at leaving
        have silent : rank ∉ l.receivedGoodbyes := by simpa using leaving.2
        rw [if_neg (by simp [expecting]), if_neg (by simp [leaving.1])]
        refine ⟨_, rfl, fun other => ?_⟩
        change other ∈ l.receivedGoodbyes.filter _ ↔ _
        rw [List.mem_filter, and_iff_left_iff_imp]
        intro said
        refine decide_eq_true ?_
        rintro rfl
        exact silent said

end Listener

namespace Shutdown

variable {config : HeadConfig} {asked : ShutdownOperation}

/-- The delivery set, with the rank whose write is under way. -/
def written (s : Shutdown) : List Int :=
  s.sent ++ match s.phase with
    | .delivering rank _ => [rank]
    | _ => []

/-- The ranks the broadcast turned to. -/
def attempted (s : Shutdown) : List Int := s.written ++ s.undelivered

/-- The ranks of the broadcast that are not in its delivery set yet. -/
def pending (config : HeadConfig) (s : Shutdown) : List Int :=
  match s.phase with
  | .idle => Listener.plannedRanks config.listener
  | .sending rest => rest
  | .delivering rank rest => rank :: rest
  | _ => []

/-- Every result on record answers a command that was issued to its rank. -/
def Recorded (head : Head) : Prop :=
  ∀ commandId record, head.commandResults.get? commandId = some record →
    ∃ body, head.issuedCommands.get? commandId = some (record.1, body) ∧
      Json.lookup "operation" body = some (.str record.2.operation.value)

/-- What the listener has on record fits the broadcast. -/
structure Listening (asked : ShutdownOperation) (s : Shutdown) : Prop where
  recorded : Recorded s.head
  issued : ∀ commandId rank body, s.head.issuedCommands.get? commandId = some (rank, body) →
    Json.lookup "operation" body = some (.str asked.value) → rank ∈ s.attempted
  delivered : ∀ rank ∈ s.written, ∃ body, s.head.issuedCommands.get? (asked.commandId rank) = some (rank, body)
  heard : ∀ rank, rank ∈ s.goodbyes ↔ rank ∈ s.head.receivedGoodbyes
  early : ∀ ranks, s.expired = some ranks → ranks.Nodup ∧ ∀ rank ∈ ranks, rank ∈ s.attempted

/-- No rank is turned to twice, and only planned ones are. -/
structure Ordered (config : HeadConfig) (s : Shutdown) : Prop where
  distinct : (s.sent ++ s.pending config).Nodup
  planned : ∀ rank ∈ s.sent ++ s.pending config, rank ∈ Listener.plannedRanks config.listener

/-- The accounts agree with what has been accepted, up to the results that are
    still to be looked at. -/
structure Tallied (config : HeadConfig) (asked : ShutdownOperation) (s : Shutdown) (requested : Bool)
    (rest : List (Int × Option CommandResult)) (acknowledged : Nat) (acknowledgedRanks : List Int) : Prop where
  counted : acknowledged = acknowledgedRanks.length
  drained : ∀ rank, rank ∈ s.head.owner.coordinator.drainRequested ↔
    rank ∈ acknowledgedRanks ∨ requested = true ∧ rest.head?.map Prod.fst = some rank
  looked : ∃ done, s.sent = done ++ rest.map Prod.fst ∧ acknowledgedRanks.Sublist done
  accepted : ∀ rank ∈ s.sent, rank ∈ s.accepted config asked ↔
    rank ∈ acknowledgedRanks ∨ ∃ result, (rank, some result) ∈ rest ∧ asked.acknowledges result = true
  settled : s.expired = none → ∀ rank ∈ s.sent, (s.head.commandResults.get? (asked.commandId rank)).isSome = true
  pressing : requested = true → ∃ rank result others, rest = (rank, some result) :: others ∧
    asked.acknowledges result = true

/-- Nothing has been accounted for. -/
structure Untouched (s : Shutdown) : Prop where
  drained : s.head.owner.coordinator.drainRequested = []
  acknowledged : s.acknowledgedRanks = []
  unreported : s.report = none
  unparted : s.goodbyeReport = none

def Staged (config : HeadConfig) (asked : ShutdownOperation) (s : Shutdown) : Prop :=
  match s.phase with
  | .idle => s.Untouched ∧ s.attempted = []
  | .sending _ => s.Untouched
  | .delivering _ _ => s.Untouched
  | .waiting => s.Untouched ∧ s.expired = none
  | .accounting requested rest acknowledged acknowledgedRanks =>
    s.Tallied config asked requested rest acknowledged acknowledgedRanks ∧
      s.report = none ∧ s.goodbyeReport = none
  | .returned => s.goodbyeReport = none ∧ ∃ report, s.report = some report ∧
      report.acknowledged = s.acknowledgedRanks ∧ report.acknowledged.Nodup ∧ report.accepted.Nodup
  | .finished => True

structure Sound (config : HeadConfig) (asked : ShutdownOperation) (s : Shutdown) : Prop where
  listening : s.Listening asked
  ordered : s.Ordered config
  staged : s.Staged config asked
  accounted : s.Accounted

theorem plannedRanks_nodup (config : HeadConfig) : (Listener.plannedRanks config.listener).Nodup :=
  List.nodup_range.map Int.ofNat_injective

theorem answeredRanks_nodup (head : Head) : (answeredRanks config asked head).Nodup :=
  (plannedRanks_nodup config).filter _

theorem answered_record {head : Head} {rank : Int} (accepted : answered asked head rank = true) :
    ∃ result, head.commandResults.get? (asked.commandId rank) = some (rank, result) ∧
      asked.acknowledges result = true := by
  unfold answered at accepted
  obtain ⟨record, found, same⟩ := (Option.any_eq_true _ _).mp accepted
  rw [Bool.and_eq_true, decide_eq_true_eq] at same
  refine ⟨record.2, ?_, same.2⟩
  rw [found, ← same.1]

theorem acknowledges_operation {result : CommandResult} (accepted : asked.acknowledges result = true) :
    result.operation.value = asked.value := by
  unfold ShutdownOperation.acknowledges at accepted
  simp only [Bool.and_eq_true, decide_eq_true_eq] at accepted
  rw [accepted.1.1]
  rfl

theorem create_sound (config : HeadConfig) (asked : ShutdownOperation) : (create config).Sound config asked where
  listening :=
    { recorded := fun _ _ found => by cases found
      issued := fun _ _ _ found => by cases found
      delivered := fun _ sent => absurd sent List.not_mem_nil
      heard := fun _ => Iff.rfl
      early := fun _ expired => by cases expired }
  ordered :=
    { distinct := plannedRanks_nodup config
      planned := fun _ listed => listed }
  staged := ⟨⟨rfl, rfl, rfl, rfl⟩, rfl⟩
  accounted :=
    { counted := fun _ reported => by cases reported
      parted := fun _ _ reported => by cases reported }

variable {s : Shutdown}

/-- Whoever has answered was turned to. -/
theorem Listening.accepted_attempted (listening : s.Listening asked) {rank : Int}
    (accepted : rank ∈ s.accepted config asked) : rank ∈ s.attempted := by
  unfold Shutdown.accepted at accepted
  rcases deadline : s.expired with _ | ranks
  · rw [deadline, Option.getD_none] at accepted
    obtain ⟨result, found, acknowledged⟩ := answered_record (List.mem_filter.mp accepted).2
    obtain ⟨body, issued, operation⟩ := listening.recorded _ _ found
    rw [acknowledges_operation acknowledged] at operation
    exact listening.issued _ _ _ issued operation
  · rw [deadline, Option.getD_some] at accepted
    exact (listening.early ranks deadline).2 rank accepted

theorem Listening.accepted_nodup (listening : s.Listening asked) : (s.accepted config asked).Nodup := by
  unfold Shutdown.accepted
  rcases deadline : s.expired with _ | ranks
  · exact answeredRanks_nodup s.head
  · exact (listening.early ranks deadline).1

/-- What leaves the listener's records alone keeps them fitting. -/
theorem Listening.carried {after : Shutdown} (listening : s.Listening asked)
    (results : after.head.commandResults = s.head.commandResults)
    (issued : after.head.issuedCommands = s.head.issuedCommands)
    (heard : ∀ rank, rank ∈ after.head.receivedGoodbyes ↔ rank ∈ s.head.receivedGoodbyes)
    (goodbyes : after.goodbyes = s.goodbyes) (expired : after.expired = s.expired)
    (written : ∀ rank ∈ after.written, rank ∈ s.written) (attempted : ∀ rank ∈ s.attempted, rank ∈ after.attempted) :
    after.Listening asked where
  recorded commandId record found := by
    rw [results] at found
    rw [issued]
    exact listening.recorded commandId record found
  issued commandId rank body found operation := by
    rw [issued] at found
    exact attempted rank (listening.issued commandId rank body found operation)
  delivered rank sent := by
    rw [issued]
    exact listening.delivered rank (written rank sent)
  heard rank := by
    rw [goodbyes, heard]
    exact listening.heard rank
  early ranks late := by
    rw [expired] at late
    obtain ⟨distinct, turned⟩ := listening.early ranks late
    exact ⟨distinct, fun rank listed => attempted rank (turned rank listed)⟩

theorem Untouched.carried {after : Shutdown} (untouched : s.Untouched)
    (drained : after.head.owner.coordinator.drainRequested = s.head.owner.coordinator.drainRequested)
    (acknowledged : after.acknowledgedRanks = s.acknowledgedRanks) (report : after.report = s.report)
    (goodbyeReport : after.goodbyeReport = s.goodbyeReport) : after.Untouched where
  drained := drained.trans untouched.drained
  acknowledged := acknowledged.trans untouched.acknowledged
  unreported := report.trans untouched.unreported
  unparted := goodbyeReport.trans untouched.unparted

theorem accepted_carried {after : Shutdown} (results : after.head.commandResults = s.head.commandResults)
    (expired : after.expired = s.expired) : after.accepted config asked = s.accepted config asked := by
  unfold accepted answeredRanks answered
  rw [results, expired]

/-- The delivery set's answers agree with what the broadcast finds on record. -/
theorem results_accepted (listening : s.Listening asked) (ordered : s.Ordered config) {rank : Int}
    (sent : rank ∈ s.sent) : rank ∈ answeredRanks config asked s.head ↔
      ∃ result, (rank, some result) ∈ results asked s.head s.sent ∧ asked.acknowledges result = true := by
  constructor
  · intro accepted
    obtain ⟨result, found, acknowledged⟩ := answered_record (List.mem_filter.mp accepted).2
    refine ⟨result, List.mem_map.mpr ⟨rank, sent, ?_⟩, acknowledged⟩
    rw [found]
    rfl
  · rintro ⟨result, listed, acknowledged⟩
    obtain ⟨other, -, same⟩ := List.mem_map.mp listed
    rw [Prod.mk.injEq] at same
    obtain ⟨rfl, found⟩ := same
    obtain ⟨record, stored, rfl⟩ := Option.map_eq_some_iff.mp found
    obtain ⟨body, issued, -⟩ := listening.recorded _ _ stored
    obtain ⟨own, delivered⟩ := listening.delivered other (List.mem_append_left _ sent)
    rw [delivered] at issued
    cases issued
    refine List.mem_filter.mpr ⟨ordered.planned _ (List.mem_append_left _ sent), ?_⟩
    unfold answered
    rw [stored, Option.any_some]
    simpa using acknowledged

/-- The accounts as the loop starts on what has been collected. -/
theorem tallied_collect (listening : s.Listening asked) (ordered : s.Ordered config) {after : Shutdown}
    (drained : after.head.owner.coordinator.drainRequested = []) (sent : after.sent = s.sent)
    (accepted : after.accepted config asked = answeredRanks config asked s.head)
    (settled : after.expired = none → ∀ rank ∈ s.sent,
      (after.head.commandResults.get? (asked.commandId rank)).isSome = true) :
    after.Tallied config asked false (results asked s.head s.sent) 0 [] where
  counted := rfl
  drained rank := by
    rw [drained]
    simp
  looked := by
    refine ⟨[], ?_, List.Sublist.refl _⟩
    rw [sent, results, List.map_map, List.nil_append]
    exact (List.map_id _).symm
  accepted rank listed := by
    rw [sent] at listed
    rw [accepted, results_accepted listening ordered listed]
    simp
  settled undecided rank listed := settled undecided rank (sent ▸ listed)
  pressing requested := by cases requested

/-- A report whose count, ranks and drain set are those of the accepted ranks. -/
theorem giveReport_sound (listening : s.Listening asked) (ordered : s.Ordered config) {returned : Nat}
    {after : Shutdown} (given : after = s.giveReport config asked returned)
    (kept : ∀ rank ∈ s.written, rank ∈ s.sent ++ s.undelivered) (unparted : s.goodbyeReport = none)
    (count : returned = (s.accepted config asked).length) (distinct : s.acknowledgedRanks.Nodup)
    (acknowledged : ∀ rank, rank ∈ s.acknowledgedRanks ↔ rank ∈ s.accepted config asked)
    (drained : ∀ rank, rank ∈ s.head.owner.coordinator.drainRequested ↔ rank ∈ s.accepted config asked) :
    after.Sound config asked := by
  subst given
  have written : (s.giveReport config asked returned).written = s.sent := List.append_nil s.sent
  refine ⟨?_, ?_, ⟨unparted, _, rfl, rfl, distinct, listening.accepted_nodup⟩, ?_, ?_⟩
  · refine listening.carried rfl rfl (fun _ => Iff.rfl) rfl rfl ?_ ?_
    · intro rank sent
      rw [written] at sent
      exact List.mem_append_left _ sent
    · intro rank turned
      unfold attempted
      rw [written]
      rcases List.mem_append.mp turned with sent | undelivered
      · exact kept rank sent
      · exact List.mem_append_right _ undelivered
  · have sent_only : (s.giveReport config asked returned).pending config = [] := rfl
    constructor
    · rw [sent_only, List.append_nil]
      exact (List.nodup_append.mp ordered.distinct).1
    · intro rank listed
      rw [sent_only, List.append_nil] at listed
      exact ordered.planned rank (List.mem_append_left _ listed)
  · rintro report reported
    cases reported
    exact ⟨count, acknowledged, drained⟩
  · intro report goodbyes _ parted
    rw [show (s.giveReport config asked returned).goodbyeReport = s.goodbyeReport from rfl, unparted] at parted
    cases parted

theorem Listening.failed (listening : s.Listening asked) (failure : String) :
    (s.addFailure failure).Listening asked :=
  listening.carried rfl rfl (fun _ => Iff.rfl) rfl rfl (fun _ => id) fun _ => id

/-- A broadcast that is abandoned while nobody has answered counts nobody. -/
theorem abandon_sound (listening : s.Listening asked) (ordered : s.Ordered config) (untouched : s.Untouched)
    (kept : ∀ rank ∈ s.written, rank ∈ s.sent ++ s.undelivered) (silent : s.accepted config asked = [])
    (returned : Nat) (nothing : returned = 0) (failure : String) :
    ((s.addFailure failure).giveReport config asked returned).Sound config asked := by
  have nobody : (s.addFailure failure).accepted config asked = [] := silent
  refine giveReport_sound (listening.failed failure) ⟨ordered.distinct, ordered.planned⟩ rfl kept
    untouched.unparted ?_ ?_ ?_ ?_
  · rw [nobody, nothing]
    rfl
  · change s.acknowledgedRanks.Nodup
    rw [untouched.acknowledged]
    exact List.nodup_nil
  · intro rank
    rw [nobody]
    change rank ∈ s.acknowledgedRanks ↔ _
    rw [untouched.acknowledged]
  · intro rank
    rw [nobody]
    change rank ∈ s.head.owner.coordinator.drainRequested ↔ _
    rw [untouched.drained]

theorem begin_sound (sound : s.Sound config asked) (idle : s.phase = .idle) :
    (s.begin config asked).Sound config asked := by
  obtain ⟨listening, ordered, staged, accounted⟩ := sound
  unfold Staged at staged
  rw [idle] at staged
  obtain ⟨untouched, unturned⟩ := staged
  have silent : ∀ rank, rank ∉ s.attempted := fun rank => unturned ▸ List.not_mem_nil
  have written : ∀ rank, rank ∉ s.written := fun rank listed => silent rank (List.mem_append_left _ listed)
  unfold begin
  split
  · refine abandon_sound listening ordered untouched (fun rank listed => absurd listed (written rank)) ?_ 0 rfl _
    exact List.eq_nil_iff_forall_not_mem.mpr fun rank accepted => silent rank (listening.accepted_attempted accepted)
  · have turned : (s.pending config) = Listener.plannedRanks config.listener := by
      unfold pending
      rw [idle]
    refine ⟨?_, ⟨?_, ?_⟩, untouched.carried rfl rfl rfl rfl, accounted.counted, accounted.parted⟩
    · refine listening.carried rfl rfl (fun _ => Iff.rfl) rfl rfl ?_ fun rank listed => absurd listed (silent rank)
      intro rank listed
      unfold Shutdown.written at listed ⊢
      rw [idle]
      exact listed
    · have distinct := ordered.distinct
      rw [turned] at distinct
      exact distinct
    · have planned := ordered.planned
      rw [turned] at planned
      exact planned

/-- A command sent to a rank is on record for a rank the broadcast turned to. -/
theorem Listening.commanded {after : Shutdown} (listening : s.Listening asked) {rank : Int}
    (head : after.head = (s.head.sendCommand config.listener rank (asked.commandId rank) asked.value []).1)
    (goodbyes : after.goodbyes = s.goodbyes) (expired : after.expired = s.expired)
    (written : ∀ other ∈ after.written, other ∈ s.written ∨ other = rank ∧
      (s.head.sendCommand config.listener rank (asked.commandId rank) asked.value []).2 = .ok true)
    (attempted : ∀ other, other ∈ s.attempted ∨ other = rank → other ∈ after.attempted) : after.Listening asked := by
  obtain ⟨results, -, said⟩ :=
    @Listener.sendCommand_frame _ config.listener s.head rank (asked.commandId rank) asked.value []
  obtain ⟨kept, new, named⟩ :=
    @Listener.sendCommand_issued _ config.listener s.head rank (asked.commandId rank) asked.value []
  rw [← head] at results said kept new named
  constructor
  · intro commandId record found
    rw [results] at found
    obtain ⟨body, issued, operation⟩ := listening.recorded commandId record found
    exact ⟨body, kept _ _ issued, operation⟩
  · intro commandId other body issued operation
    apply attempted
    rcases new _ _ issued with known | own
    · exact .inl (listening.issued commandId other body known operation)
    · exact .inr own
  · intro other listed
    rcases written other listed with known | ⟨rfl, sent⟩
    · obtain ⟨body, issued⟩ := listening.delivered other known
      exact ⟨body, kept _ _ issued⟩
    · exact named sent
  · intro other
    rw [goodbyes, said]
    exact listening.heard other
  · intro ranks late
    rw [expired] at late
    obtain ⟨distinct, turned⟩ := listening.early ranks late
    exact ⟨distinct, fun other listed => attempted other (.inl (turned other listed))⟩

end Shutdown

end ExaServe.Control
