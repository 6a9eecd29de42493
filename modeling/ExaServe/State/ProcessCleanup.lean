import ExaServe.State.ProcessOwnership

namespace ExaServe.State.Ownership

open Lib Plan Control Status

/-- The recorded leader is there, as it was recorded. -/
def LeaderAlive (processes : Dict Nat Process) (receipt : ProcessOwnershipReceipt) : Prop :=
  ∃ process, processes.get? receipt.pid = some process ∧ process.startTicks = receipt.processStartTicks ∧
    process.pgid = receipt.pgid ∧ process.uid = receipt.uid

instance (processes : Dict Nat Process) (receipt : ProcessOwnershipReceipt) :
    Decidable (LeaderAlive processes receipt) :=
  decidable_of_iff ((processes.get? receipt.pid).any fun process =>
      process.startTicks = receipt.processStartTicks ∧ process.pgid = receipt.pgid ∧
        process.uid = receipt.uid)
    (by simp [LeaderAlive, Option.any_eq_true])

/-- The signal goes to the group of its receipt, of this deployment, whose leader is alive. -/
structure Killpg.Owned (deploymentId : String) (signal : Killpg) : Prop where
  group : signal.pgid = signal.receipt.pgid
  leader : LeaderAlive signal.processes signal.receipt
  deployment : signal.receipt.deploymentId = deploymentId

inductive Cleanup where
  | component (target : Component) (deadlineS : ℚ)
  | stale (deploymentId : String) (generation : Nat) (deadlineS : ℚ)

namespace Cleanup

def run (site : Site) (entries : List Entry) : Cleanup → Cleaned Nat
  | component target deadlineS => cleanupOwnedComponentProcesses site target deadlineS entries
  | stale deploymentId generation deadlineS =>
    cleanupStaleOwnedProcesses site deploymentId generation deadlineS entries

def SignalsOwned (site : Site) (entries : List Entry) : Cleanup → Prop
  | component target deadlineS =>
    ∀ signal ∈ (run site entries (.component target deadlineS)).sent, signal.Owned target.deploymentId
  | stale deploymentId generation deadlineS =>
    ∀ signal ∈ (run site entries (.stale deploymentId generation deadlineS)).sent,
      signal.Owned deploymentId ∧ signal.receipt.generation < generation

/-- Every receipt of the component that is come to has a dead group or a live leader. -/
def LeadersOutlive (site : Site) (target : Component) : List (Entry × ProcessOwnershipReceipt) → Prop
  | [] => True
  | (entry, receipt) :: rest =>
    if isMatch site target receipt then
      (entry.scene.groupAlive receipt.pgid = true → LeaderAlive entry.scene.processes receipt) ∧
      (((terminateOwnedGroup entry.scene receipt).thenRemove site entry.scene receipt []).outcome.isOk = true →
        LeadersOutlive site target rest)
    else LeadersOutlive site target rest

/-- The cleanup of a component looks at no leader: it is safe where none of the groups it
    comes to has outlived its own. -/
def Fenced (site : Site) (entries : List Entry) : Cleanup → Prop
  | component target deadlineS =>
    ∀ receipts, componentReceipts site target deadlineS entries = .ok receipts →
      LeadersOutlive site target receipts
  | stale _ _ _ => True

end Cleanup

section Signals

variable {site : Site} {scene : Scene} {receipt : ProcessOwnershipReceipt}

theorem terminate_sent {signal : Killpg} (sent : signal ∈ (terminateOwnedGroup scene receipt).sent) :
    scene.groupAlive receipt.pgid = true ∧ ∃ sig, signal = killpg scene receipt sig := by
  unfold terminateOwnedGroup at sent
  split at sent
  · cases sent
  · rename_i alive
    refine ⟨by simpa using alive, ?_⟩
    split at sent
    · exact ⟨.term, List.mem_singleton.mp sent⟩
    · exact ⟨.term, List.mem_singleton.mp sent⟩
    · split at sent
      · exact ⟨.term, List.mem_singleton.mp sent⟩
      · rcases List.mem_cons.mp sent with first | second
        · exact ⟨.term, first⟩
        · exact ⟨.kill, List.mem_singleton.mp second⟩

theorem terminate_signals (alive : scene.groupAlive receipt.pgid = true) :
    killpg scene receipt .term ∈ (terminateOwnedGroup scene receipt).sent := by
  unfold terminateOwnedGroup
  rw [if_neg (by simp [alive])]
  split
  · exact List.mem_singleton.mpr rfl
  · exact List.mem_singleton.mpr rfl
  · split_ifs
    · exact List.mem_singleton.mpr rfl
    · exact List.mem_cons_self

theorem sameProcess_leader (same : scene.sameProcess site receipt = .ok true) :
    LeaderAlive scene.processes receipt := by
  unfold Scene.sameProcess at same
  split at same
  · cases same
  · rename_i process found
    split_ifs at same
    have equal := Except.ok.inj same
    simp only [Bool.and_eq_true, decide_eq_true_eq] at equal
    obtain ⟨⟨⟨ticks, group⟩, uid⟩, -⟩ := equal
    exact ⟨process, found, ticks, group, uid⟩

theorem cleanStale_sent {deploymentId : String} {generation : Nat} {signal : Killpg}
    (sent : signal ∈ (cleanStale site deploymentId generation scene receipt).sent) :
    signal.Owned deploymentId ∧ signal.receipt.generation < generation := by
  unfold cleanStale at sent
  dsimp only at sent
  split at sent
  · cases sent
  · split at sent
    · cases sent
    · rename_i live
      split_ifs at sent with other newer same
      · cases sent
      · cases sent
      · cases sent
      · obtain ⟨-, sig, rfl⟩ := terminate_sent sent
        refine ⟨⟨rfl, sameProcess_leader live, ?_⟩, Nat.not_le.mp newer⟩
        exact not_not.mp other
    · cases sent

end Signals

section Runs

variable {site : Site}

theorem cleanStales_sent {deploymentId : String} {generation : Nat} {entries : List Entry} (cleaned : Nat)
    {signal : Killpg} (sent : signal ∈ (cleanStales site deploymentId generation cleaned entries).sent) :
    signal.Owned deploymentId ∧ signal.receipt.generation < generation := by
  induction entries generalizing cleaned with
  | nil => cases sent
  | cons entry rest ih =>
    unfold cleanStales at sent
    split at sent
    · cases sent
    · dsimp only at sent
      split at sent
      · exact cleanStale_sent sent
      · rcases List.mem_append.mp sent with first | later
        · exact cleanStale_sent first
        · exact ih _ later

theorem cleanComponents_owned_iff {component : Component} {receipts : List (Entry × ProcessOwnershipReceipt)}
    (cleaned : Nat) :
    (∀ signal ∈ (cleanComponents site component cleaned receipts).sent, signal.Owned component.deploymentId) ↔
      Cleanup.LeadersOutlive site component receipts := by
  induction receipts generalizing cleaned with
  | nil => simp [cleanComponents, Cleanup.LeadersOutlive]
  | cons first rest ih =>
    obtain ⟨entry, receipt⟩ := first
    unfold cleanComponents Cleanup.LeadersOutlive
    split_ifs with matched
    · have matching : Component.of receipt = component := by
        simp only [isMatch, decide_eq_true_eq] at matched
        exact matched.2.2
      dsimp only
      rw [← ih (cleaned + 1)]
      have own : (∀ signal ∈ (terminateOwnedGroup entry.scene receipt).sent,
          signal.Owned component.deploymentId) ↔
          (entry.scene.groupAlive receipt.pgid = true → LeaderAlive entry.scene.processes receipt) := by
        constructor
        · intro all alive
          exact (all _ (terminate_signals alive)).leader
        · intro leader signal sent
          obtain ⟨alive, sig, rfl⟩ := terminate_sent sent
          exact ⟨rfl, leader alive, matching ▸ rfl⟩
      split
      · rename_i raised failed
        simp only [failed, Except.isOk, Except.toBool, Bool.false_eq_true, false_implies, and_true]
        exact own
      · rename_i done passed
        simp only [passed, Except.isOk, Except.toBool, true_implies, List.mem_append, or_imp, forall_and]
        exact and_congr own Iff.rfl
    · exact ih cleaned

/-- The cleanup of stale generations signals nothing it does not own; that of a component
    does exactly where no group it comes to has outlived its leader. -/
theorem cleanup_signals_owned_iff (site : Site) (entries : List Entry) (cleanup : Cleanup) :
    cleanup.SignalsOwned site entries ↔ cleanup.Fenced site entries := by
  cases cleanup with
  | stale deploymentId generation deadlineS =>
    refine ⟨fun _ => trivial, ?_⟩
    intro _ signal sent
    have sent : signal ∈ (cleanupStaleOwnedProcesses site deploymentId generation deadlineS entries).sent := sent
    unfold cleanupStaleOwnedProcesses at sent
    split_ifs at sent
    · cases sent
    · exact cleanStales_sent 0 sent
  | component target deadlineS =>
    simp only [Cleanup.SignalsOwned, Cleanup.Fenced, Cleanup.run, cleanupOwnedComponentProcesses]
    cases started : componentReceipts site target deadlineS entries with
    | error raised => simp
    | ok receipts =>
      simp only [Except.ok.injEq, forall_eq']
      exact cleanComponents_owned_iff 0

end Runs

section Reused

def headNode : Site where
  uid := 1000
  hostname := "node-1"
  abspath := id
  isOwnedTempPath := fun _ _ _ => true
  defaultLocalStateRoot := fun _ _ => "/tmp/state"

/-- The receipt of a process that had the pid 4242 and started at tick 100. -/
def childReceipt : List (String × Json) :=
  [("schema_version", .int 1), ("uid", .int 1000), ("hostname", .str "node-1"),
    ("deployment_id", .str "deployment"), ("generation", .int 7), ("rank", .int 1),
    ("component_id", .str "ray_child"), ("pid", .int 4242), ("pgid", .int 4242),
    ("process_start_ticks", .int 100), ("argv_hash", .str (canonicalHash (.arr [.str "ray"]))),
    ("temp_paths", .arr []), ("created_at", .int 1)]

/-- Another process of the user has the pid now, and leads a group of its own. -/
def reusedPid : Scene := { processes := Dict.empty.insert 4242 { startTicks := 900, pgid := 4242, uid := 1000 } }

def childEntry : Entry where
  content := .ok (.obj (childReceipt ++ [("receipt_hash", .str (canonicalHash (.obj childReceipt)))]))
  earlier := reusedPid
  scene := reusedPid

def rayChild : Cleanup :=
  .component { deploymentId := "deployment", generation := 7, rank := 1, componentId := "ray_child" } 5

theorem reused_group_signalled : ¬ rayChild.SignalsOwned headNode [childEntry] := by
  intro owned
  have alive : ∀ signal ∈ (rayChild.run headNode [childEntry]).sent,
      LeaderAlive signal.processes signal.receipt := fun signal sent => (owned signal sent).leader
  exact absurd alive (by decide +kernel)

end Reused

end ExaServe.State.Ownership
