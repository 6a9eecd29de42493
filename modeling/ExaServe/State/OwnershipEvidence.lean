import ExaServe.State.ProcessCleanup

namespace ExaServe.State.Ownership

open Lib Plan Control Status

inductive Item where
  | path (path : String)
  | receipt
  deriving DecidableEq

/-- A receipt file with what no code sees: which of the processes of its group were started
    in the group it recorded, of which items something is there to go, and whether those
    that are left of the group when the receipt goes are there when the call returns. -/
structure Witnessed where
  entry : Entry
  descends : Nat → Bool
  there : Item → Bool := fun _ => true
  lasts : Bool := true

/-- An item of a receipt as it goes, and the processes then. -/
structure Removal where
  item : Item
  receipt : ProcessOwnershipReceipt
  witnessed : Witnessed
  processes : Dict Nat Process

/-- A process of the group the receipt recorded. -/
def Survives (processes : Dict Nat Process) (receipt : ProcessOwnershipReceipt) (witnessed : Witnessed) :
    Prop :=
  ∃ pid process, processes.get? pid = some process ∧ process.pgid = receipt.pgid ∧
    witnessed.descends pid = true

def Removal.Orphans (removal : Removal) : Prop :=
  Survives removal.processes removal.receipt removal.witnessed

/-- Something of the group is left, without a receipt, when the call returns. -/
def Removal.Unrecorded (removal : Removal) : Prop :=
  removal.item = .receipt ∧ removal.Orphans ∧ removal.witnessed.lasts = true

/-- The processes once the group is found empty. -/
def Scene.emptied (scene : Scene) (receipt : ProcessOwnershipReceipt) : Dict Nat Process :=
  scene.processes.filterKeys fun pid =>
    match scene.processes.get? pid with
    | some process => process.pgid ≠ receipt.pgid
    | none => true

section Removals

variable (site : Site) (witnessed : Witnessed) (receipt : ProcessOwnershipReceipt)

/-- The paths that are tried, the failure of one of which does not spare the others. -/
def triedPaths (preservePaths : List String) : List String :=
  (receipt.tempPaths.map site.abspath).filter fun path =>
    path ∉ preservePaths.map site.abspath ∧ site.isOwnedTempPath path receipt.deploymentId receipt.generation

def removedItems (preservePaths : List String) : List Item :=
  (((triedPaths site receipt preservePaths).map Item.path).filter witnessed.there) ++
    if (removeOwnedPaths site witnessed.entry.scene receipt preservePaths).isOk ∧
        witnessed.entry.scene.unlink.isOk ∧ witnessed.there .receipt then [.receipt] else []

def removalsAt (processes : Dict Nat Process) (preservePaths : List String) : List Removal :=
  (removedItems site witnessed receipt preservePaths).map fun item =>
    { item, receipt, witnessed, processes }

/-- What goes of a receipt after its group was terminated. -/
def removalsAfter (preservePaths : List String) : List Removal :=
  if (terminateOwnedGroup witnessed.entry.scene receipt).outcome.isOk then
    removalsAt site witnessed receipt (witnessed.entry.scene.emptied receipt) preservePaths
  else []

/-- The branches of `cleanStale`. -/
def staleRemovals (deploymentId : String) (generation : Nat) : List Removal :=
  let preserved := preservePaths site deploymentId generation receipt
  if receipt.uid ≠ site.uid ∨ receipt.hostname ≠ site.hostname then []
  else match witnessed.entry.scene.sameProcess site receipt with
    | .error _ => []
    | .ok true =>
      if receipt.deploymentId ≠ deploymentId then []
      else if generation ≤ receipt.generation then []
      else removalsAfter site witnessed receipt preserved
    | .ok false => removalsAt site witnessed receipt witnessed.entry.scene.processes preserved

end Removals

section Reached

variable (site : Site)

/-- The receipts the cleanup of stale generations comes to: it ends at the first that raises. -/
def staleReached (deploymentId : String) (generation : Nat) :
    List Witnessed → List (Witnessed × ProcessOwnershipReceipt)
  | [] => []
  | witnessed :: rest =>
    match loadProcessOwnership site witnessed.entry.content with
    | .error _ => []
    | .ok receipt =>
      (witnessed, receipt) ::
        if (cleanStale site deploymentId generation witnessed.entry.scene receipt).outcome.isOk then
          staleReached deploymentId generation rest
        else []

/-- Those of the component that its cleanup comes to. -/
def componentReached (component : Component) :
    List (Witnessed × ProcessOwnershipReceipt) → List (Witnessed × ProcessOwnershipReceipt)
  | [] => []
  | (witnessed, receipt) :: rest =>
    if isMatch site component receipt then
      let one := (terminateOwnedGroup witnessed.entry.scene receipt).thenRemove site witnessed.entry.scene
        receipt []
      (witnessed, receipt) :: if one.outcome.isOk then componentReached component rest else []
    else componentReached component rest

namespace Cleanup

def removals (directory : List Witnessed) : Cleanup → List Removal
  | component target deadlineS =>
    match componentReceipts site target deadlineS (directory.map Witnessed.entry) with
    | .error _ => []
    | .ok receipts => (componentReached site target (directory.zip (receipts.map Prod.snd))).flatMap
        fun reached => removalsAfter site reached.1 reached.2 []
  | stale deploymentId generation deadlineS =>
    if deadlineS ≤ 0 then []
    else (staleReached site deploymentId generation directory).flatMap
      fun reached => staleRemovals site reached.1 reached.2 deploymentId generation

/-- The receipts whose processes the call is to reap. -/
def Targets (receipt : ProcessOwnershipReceipt) : Cleanup → Prop
  | component target _ => Component.of receipt = target
  | stale deploymentId generation _ =>
    receipt.deploymentId = deploymentId ∧ receipt.generation < generation

structure EvidenceKept (directory : List Witnessed) (cleanup : Cleanup) : Prop where
  removed : ∀ removal ∈ cleanup.removals site directory, ¬ removal.Orphans
  returned : (cleanup.run site (directory.map Witnessed.entry)).outcome.isOk = true →
    ∀ removal ∈ cleanup.removals site directory, cleanup.Targets removal.receipt → ¬ removal.Unrecorded

/-- No receipt that the cleanup of stale generations comes to, and of which something can
    go, has a group that outlived its leader. -/
def GroupsEnded (directory : List Witnessed) : Cleanup → Prop
  | component _ _ => True
  | stale deploymentId generation deadlineS =>
    0 < deadlineS → ∀ reached ∈ staleReached site deploymentId generation directory,
      reached.2.uid = site.uid → reached.2.hostname = site.hostname →
      reached.1.entry.scene.sameProcess site reached.2 = .ok false →
      removedItems site reached.1 reached.2 (preservePaths site deploymentId generation reached.2) ≠ [] →
      ¬ Survives reached.1.entry.scene.processes reached.2 reached.1

end Cleanup

end Reached

section Returned

variable {site : Site}

theorem staleReached_all {deploymentId : String} {generation : Nat} {directory : List Witnessed} (cleaned : Nat)
    (returned : (cleanStales site deploymentId generation cleaned
      (directory.map Witnessed.entry)).outcome.isOk = true) :
    (staleReached site deploymentId generation directory).map Prod.fst = directory := by
  induction directory generalizing cleaned with
  | nil => rfl
  | cons witnessed rest ih =>
    rw [List.map_cons] at returned
    unfold cleanStales at returned
    unfold staleReached
    cases loaded : loadProcessOwnership site witnessed.entry.content with
    | error raised =>
      rw [loaded] at returned
      cases returned
    | ok receipt =>
      rw [loaded] at returned
      dsimp only at returned ⊢
      cases one : (cleanStale site deploymentId generation witnessed.entry.scene receipt).outcome with
      | error raised =>
        rw [one] at returned
        cases returned
      | ok removed =>
        rw [one] at returned
        have counted : (Except.ok removed : Except Raised Bool).isOk = true := rfl
        rw [if_pos counted, List.map_cons, ih _ returned]

/-- Each receipt the cleanup of a component counts is one it came to. -/
theorem componentReached_length {component : Component} {reached : List (Witnessed × ProcessOwnershipReceipt)}
    {cleaned total : Nat}
    (returned : (cleanComponents site component cleaned
      (reached.map fun one => (one.1.entry, one.2))).outcome = .ok total) :
    total = cleaned + (componentReached site component reached).length := by
  induction reached generalizing cleaned with
  | nil =>
    have same : cleaned = total := Except.ok.inj returned
    rw [componentReached, List.length_nil, Nat.add_zero, same]
  | cons first rest ih =>
    rw [List.map_cons] at returned
    unfold cleanComponents at returned
    unfold componentReached
    split_ifs at returned ⊢ with matched
    · dsimp only at returned ⊢
      split at returned
      · cases returned
      · rename_i done passed
        have counted := ih returned
        rw [passed, if_pos (show (Except.ok done : Except Raised Unit).isOk = true from rfl), List.length_cons]
        omega
    · exact ih returned

end Returned

section Evidence

variable {site : Site} {witnessed : Witnessed} {receipt : ProcessOwnershipReceipt}

theorem emptied_survives {scene : Scene} : ¬ Survives (scene.emptied receipt) receipt witnessed := by
  intro survivor
  obtain ⟨pid, process, found, group, -⟩ := survivor
  have held : scene.processes.get? pid = some process := by
    rw [Scene.emptied, Dict.get?_filterKeys] at found
    exact (ite_eq_iff.mp found).elim And.right fun gone => absurd gone.2 (by simp)
  rw [Scene.emptied, Dict.get?_filterKeys, held] at found
  simp [group] at found

theorem mem_removalsAt {processes : Dict Nat Process} {preserved : List String} {removal : Removal} :
    removal ∈ removalsAt site witnessed receipt processes preserved ↔
      ∃ item ∈ removedItems site witnessed receipt preserved,
        removal = { item, receipt, witnessed, processes } := by
  simp [removalsAt, eq_comm]

theorem removalsAfter_kept {preserved : List String} :
    ∀ removal ∈ removalsAfter site witnessed receipt preserved, ¬ removal.Orphans := by
  intro removal removed
  unfold removalsAfter at removed
  split at removed
  · obtain ⟨item, -, rfl⟩ := mem_removalsAt.mp removed
    exact emptied_survives
  · cases removed

theorem removalsAt_kept_iff {processes : Dict Nat Process} {preserved : List String} :
    (∀ removal ∈ removalsAt site witnessed receipt processes preserved, ¬ removal.Orphans) ↔
      (removedItems site witnessed receipt preserved ≠ [] → ¬ Survives processes receipt witnessed) := by
  constructor
  · intro kept some survivor
    obtain ⟨item, listed⟩ := List.exists_mem_of_ne_nil _ some
    exact kept _ (mem_removalsAt.mpr ⟨item, listed, rfl⟩) survivor
  · intro ended removal removed
    obtain ⟨item, listed, rfl⟩ := mem_removalsAt.mp removed
    exact ended (List.ne_nil_of_mem listed)

theorem staleRemovals_kept_iff {deploymentId : String} {generation : Nat} :
    (∀ removal ∈ staleRemovals site witnessed receipt deploymentId generation, ¬ removal.Orphans) ↔
      (receipt.uid = site.uid → receipt.hostname = site.hostname →
        witnessed.entry.scene.sameProcess site receipt = .ok false →
        removedItems site witnessed receipt (preservePaths site deploymentId generation receipt) ≠ [] →
        ¬ Survives witnessed.entry.scene.processes receipt witnessed) := by
  unfold staleRemovals
  dsimp only
  by_cases elsewhere : receipt.uid ≠ site.uid ∨ receipt.hostname ≠ site.hostname
  · rw [if_pos elsewhere]
    constructor
    · intro _ sameUid sameHost
      rcases elsewhere with uid | host
      · exact absurd sameUid uid
      · exact absurd sameHost host
    · intro _ removal removed
      cases removed
  · rw [if_neg elsewhere]
    have here := not_or.mp elsewhere
    simp only [not_not] at here
    simp only [here.1, here.2, true_implies]
    cases looked : witnessed.entry.scene.sameProcess site receipt with
    | error raised => simp
    | ok live =>
      cases live with
      | false => simpa using removalsAt_kept_iff
      | true =>
        simp only [Except.ok.injEq, Bool.true_eq_false, false_implies, iff_true]
        split_ifs
        · simp
        · simp
        · exact removalsAfter_kept

/-- The cleanup of a component keeps the evidence; that of stale generations does exactly
    where no group it drops has outlived its leader. -/
theorem cleanup_keeps_evidence_iff (site : Site) (directory : List Witnessed) (cleanup : Cleanup) :
    cleanup.EvidenceKept site directory ↔ cleanup.GroupsEnded site directory := by
  have removed_iff : (∀ removal ∈ cleanup.removals site directory, ¬ removal.Orphans) ↔
      cleanup.GroupsEnded site directory := by
    cases cleanup with
    | component target deadlineS =>
      refine iff_of_true ?_ trivial
      intro removal removed
      unfold Cleanup.removals at removed
      dsimp only at removed
      split at removed
      · cases removed
      · obtain ⟨reached, -, gone⟩ := List.mem_flatMap.mp removed
        exact removalsAfter_kept removal gone
    | stale deploymentId generation deadlineS =>
      unfold Cleanup.removals Cleanup.GroupsEnded
      by_cases spent : deadlineS ≤ 0
      · simp [spent, not_lt.mpr spent]
      · simp only [spent, if_false, not_le.mp spent, true_implies, List.mem_flatMap, forall_exists_index, and_imp]
        constructor
        · intro kept reached come
          exact staleRemovals_kept_iff.mp fun removal gone => kept removal reached come gone
        · intro ended removal reached come gone
          exact staleRemovals_kept_iff.mpr (ended reached come) removal gone
  rw [← removed_iff]
  constructor
  · exact Cleanup.EvidenceKept.removed
  · intro kept
    refine ⟨kept, ?_⟩
    intro _ removal removed _ unrecorded
    exact kept removal removed unrecorded.2.1

end Evidence

section Descendant

/-- The recorded leader is gone, a process it started is not. -/
def leaderGone : Scene :=
  { processes := Dict.empty.insert 4243 { startTicks := 150, pgid := 4242, uid := 1000 } }

def orphanedEntry : Witnessed where
  entry := { childEntry with earlier := leaderGone, scene := leaderGone }
  descends := fun pid => pid = 4243

def nextGeneration : Cleanup := .stale "deployment" 8 5

theorem surviving_group_forgotten : ¬ nextGeneration.EvidenceKept headNode [orphanedEntry] := by
  intro kept
  have gone : (nextGeneration.removals headNode [orphanedEntry]).any fun removal =>
      removal.item = .receipt && removal.receipt.pgid = 4242 &&
        removal.processes.get? 4243 = some { startTicks := 150, pgid := 4242, uid := 1000 } &&
        removal.witnessed.descends 4243 := by decide +kernel
  obtain ⟨removal, removed, found⟩ := List.any_eq_true.mp gone
  simp only [Bool.and_eq_true, decide_eq_true_eq] at found
  exact kept.removed removal removed ⟨4243, _, found.1.2, found.1.1.2.symm, found.2⟩

end Descendant

end ExaServe.State.Ownership
