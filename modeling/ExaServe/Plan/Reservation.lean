import ExaServe.Plan.Compiler

namespace ExaServe.Plan

open Lib Control

section Selection

variable {numNodes : Nat} {state : Placing} {index : Nat} {intent : ModelIntent}

theorem mem_eligiblePrimary {rank : Nat} : rank ∈ eligiblePrimary numNodes state index intent ↔
    rank < numNodes ∧ rank ∉ ranksInUse state index intent ∧
      intent.tensorParallelSize ≤ (state.devices rank).length ∧ intent.numCpusPerReplica ≤ state.cpus rank := by
  unfold eligiblePrimary
  rw [List.mem_insertionSort, List.mem_filter, List.mem_range, decide_eq_true_eq]

theorem mem_otherRanks {primary rank : Nat} : rank ∈ otherRanks numNodes state index intent primary ↔
    rank < numNodes ∧ rank ≠ primary ∧ rank ∉ ranksInUse state index intent ∧
      intent.tensorParallelSize ≤ (state.devices rank).length := by
  unfold otherRanks
  rw [List.mem_insertionSort, List.mem_filter, List.mem_range, decide_eq_true_eq]

theorem nodup_otherRanks (primary : Nat) : (otherRanks numNodes state index intent primary).Nodup := by
  unfold otherRanks
  rw [(List.perm_insertionSort _ _).nodup_iff]
  exact List.nodup_range.filter _

/-- The ranks of the next replica, and what each of them has left. -/
structure Selected (numNodes : Nat) (state : Placing) (index : Nat) (intent : ModelIntent)
    (primary : Nat) (others : List Nat) : Prop where
  primary_eligible : primary ∈ eligiblePrimary numNodes state index intent
  others_free : ∀ rank ∈ others, rank ∈ otherRanks numNodes state index intent primary
  count : others.length = intent.pipelineParallelSize - 1
  distinct : (primary :: others).Nodup

theorem Selected.of_selectRanks {selected : List Nat}
    (chosen : selectRanks numNodes state index intent = some selected) :
    ∃ primary others, selected = primary :: others ∧ Selected numNodes state index intent primary others := by
  unfold selectRanks at chosen
  obtain ⟨primary, eligible, found⟩ := List.exists_of_findSome?_eq_some chosen
  dsimp only at found
  split_ifs at found with enough
  cases found
  have within := List.take_sublist (intent.pipelineParallelSize - 1)
    (otherRanks numNodes state index intent primary)
  refine ⟨primary, _, rfl, eligible, ?_, ?_, ?_⟩
  · intro rank member
    exact within.subset member
  · exact List.length_take_of_le enough
  · apply List.nodup_cons.mpr
    constructor
    · intro member
      exact (mem_otherRanks.mp (within.subset member)).2.1 rfl
    · exact (nodup_otherRanks primary).sublist within

theorem Selected.room {primary : Nat} {others : List Nat} (chosen : Selected numNodes state index intent primary others)
    {rank : Nat} (member : rank ∈ primary :: others) :
    rank < numNodes ∧ rank ∉ ranksInUse state index intent ∧
      intent.tensorParallelSize ≤ (state.devices rank).length := by
  rcases List.mem_cons.mp member with same | other
  · have eligible := mem_eligiblePrimary.mp chosen.primary_eligible
    rw [same]
    exact ⟨eligible.1, eligible.2.1, eligible.2.2.1⟩
  · have free := mem_otherRanks.mp (chosen.others_free rank other)
    exact ⟨free.1, free.2.2⟩

theorem selectRanks_none : selectRanks numNodes state index intent = none ↔
    ∀ primary ∈ eligiblePrimary numNodes state index intent,
      (otherRanks numNodes state index intent primary).length < intent.pipelineParallelSize - 1 := by
  unfold selectRanks
  rw [List.findSome?_eq_none_iff]
  apply forall₂_congr
  intro primary eligible
  simp only [ite_eq_right_iff, reduceCtorEq, imp_false, not_le]

end Selection

/-- What a reservation leaves. -/
def Placing.reserved (state : Placing) (index : Nat) (intent : ModelIntent) (selected : List Nat)
    (replica : ReplicaPlan) : Placing where
  devices := fun rank =>
    if rank ∈ selected then (state.devices rank).drop intent.tensorParallelSize else state.devices rank
  cpus := fun rank =>
    if some rank = selected.head? then state.cpus rank - intent.numCpusPerReplica else state.cpus rank
  placements := fun other =>
    if other = index then state.placements index ++ [replica] else state.placements other

/-- The replica a reservation adds. -/
structure Placing.Adds (state : Placing) (index : Nat) (intent : ModelIntent) (selected : List Nat)
    (replica : ReplicaPlan) : Prop where
  replicaIndex : replica.replicaIndex = (state.placements index).length
  plannedRanks : replica.plannedRanks = selected
  plannedDeviceIds : replica.plannedDeviceIds =
    selected.map fun rank => (state.devices rank).take intent.tensorParallelSize
  tensorParallelSize : replica.tensorParallelSize = intent.tensorParallelSize
  pipelineParallelSize : replica.pipelineParallelSize = intent.pipelineParallelSize
  cpuDemand : replica.cpuDemand = intent.numCpusPerReplica

theorem reserve_cases {numNodes index : Nat} {intent : ModelIntent} {before : Placing} {found : Option Placing}
    (done : reserve numNodes before index intent = .ok found) :
    (found = none ∧ selectRanks numNodes before index intent = none) ∨
    ∃ primary others replica, Selected numNodes before index intent primary others ∧
      before.Adds index intent (primary :: others) replica ∧
      found = some (before.reserved index intent (primary :: others) replica) := by
  unfold reserve at done
  split at done
  · rename_i absent
    cases done
    exact .inl ⟨rfl, absent⟩
  · rename_i selected found
    obtain ⟨primary, others, rfl, chosen⟩ := Selected.of_selectRanks found
    obtain ⟨replica, made, done⟩ := bind_ok done
    cases done
    unfold ReplicaPlan.make at made
    obtain ⟨_, -, made⟩ := bind_ok made
    obtain ⟨_, -, made⟩ := bind_ok made
    obtain ⟨_, -, made⟩ := bind_ok made
    obtain ⟨_, -, made⟩ := bind_ok made
    obtain ⟨_, -, made⟩ := bind_ok made
    obtain ⟨_, -, made⟩ := bind_ok made
    obtain ⟨_, -, made⟩ := bind_ok made
    obtain ⟨_, -, made⟩ := bind_ok made
    obtain ⟨_, -, made⟩ := bind_ok made
    cases made
    exact .inr ⟨primary, others, _, chosen, ⟨rfl, rfl, rfl, rfl, rfl, rfl⟩, rfl⟩

section Passes

variable {numNodes : Nat} {kept : Placing → Prop}

theorem reserveAll_kept {index : Nat} {intent : ModelIntent}
    (step : ∀ before after, reserve numNodes before index intent = .ok (some after) → kept before → kept after)
    {failed : Raised} {count : Nat} {before after : Placing}
    (done : reserveAll numNodes index intent failed count before = .ok after) (held : kept before) : kept after := by
  induction count generalizing before with
  | zero =>
    cases done
    exact held
  | succ count ih =>
    unfold reserveAll at done
    obtain ⟨found, reserved, done⟩ := bind_ok done
    cases found with
    | none => cases done
    | some next => exact ih done (step before next reserved held)

theorem placeRequested_kept {maxReplicas : Nat} {indexed : ModelIntent × Nat}
    (step : indexed.1.requestedReplicas.isSome → ∀ before after,
      reserve numNodes before indexed.2 indexed.1 = .ok (some after) → kept before → kept after)
    {before after : Placing} (done : placeRequested numNodes maxReplicas before indexed = .ok after)
    (held : kept before) : kept after := by
  unfold placeRequested at done
  dsimp only at done
  split at done
  · cases done
    exact held
  · rename_i count requested
    obtain ⟨_, -, done⟩ := bind_ok done
    exact reserveAll_kept (step (by rw [requested]; rfl)) done held

theorem placePipelined_kept {indexed : ModelIntent × Nat}
    (step : indexed.1.requestedReplicas = none → 1 < indexed.1.pipelineParallelSize → ∀ before after,
      reserve numNodes before indexed.2 indexed.1 = .ok (some after) → kept before → kept after)
    {before after : Placing} (done : placePipelined numNodes before indexed = .ok after) (held : kept before) :
    kept after := by
  unfold placePipelined at done
  dsimp only at done
  split_ifs at done with automatic
  · exact reserveAll_kept (step automatic.1 automatic.2) done held
  · cases done
    exact held

theorem placeOne_kept {maxReplicas : Nat} {indexed : ModelIntent × Nat}
    (step : ∀ before after, (before.placements indexed.2).length < maxReplicas →
      reserve numNodes before indexed.2 indexed.1 = .ok (some after) → kept before → kept after)
    {before after : Bool × Placing} (done : placeOne numNodes maxReplicas before indexed = .ok after)
    (held : kept before.2) : kept after.2 := by
  unfold placeOne at done
  split_ifs at done with full
  · cases done
    exact held
  · obtain ⟨found, reserved, done⟩ := bind_ok done
    cases found with
    | none =>
      cases done
      exact held
    | some next =>
      cases done
      exact step before.2 next (by omega) reserved held

theorem placeRounds_kept {maxReplicas : Nat} {auto : List (ModelIntent × Nat)}
    (step : ∀ indexed ∈ auto, ∀ before after, (before.placements indexed.2).length < maxReplicas →
      reserve numNodes before indexed.2 indexed.1 = .ok (some after) → kept before → kept after)
    {rounds : Nat} {before after : Placing}
    (done : placeRounds numNodes maxReplicas auto rounds before = .ok after) (held : kept before) : kept after := by
  induction rounds generalizing before with
  | zero =>
    cases done
    exact held
  | succ rounds ih =>
    unfold placeRounds at done
    obtain ⟨⟨progressed, next⟩, turned, done⟩ := bind_ok done
    have turn : kept next := by
      refine @foldlM_kept _ _ _ _ (fun progress : Bool × Placing => kept progress.2) auto ?_ _ _ turned held
      intro indexed member earlier later stepped
      exact placeOne_kept (step indexed member) stepped
    dsimp only at done
    split_ifs at done
    · exact ih done turn
    · cases done
      exact turn

/-- Every pass keeps what each reservation keeps. -/
theorem placeModels_kept {intents : List ModelIntent} {gpusPerNode cpusPerNode maxReplicas : Nat}
    (step : ∀ indexed ∈ intents.zipIdx, ∀ before after,
      reserve numNodes before indexed.2 indexed.1 = .ok (some after) → kept before → kept after)
    {state : Placing} (done : placeModels numNodes intents gpusPerNode cpusPerNode maxReplicas = .ok state)
    (start : kept (fullPlacing gpusPerNode cpusPerNode)) : kept state := by
  unfold placeModels at done
  obtain ⟨requested, first, done⟩ := bind_ok done
  obtain ⟨pipelined, second, done⟩ := bind_ok done
  have after_requested : kept requested := by
    refine foldlM_kept ?_ first start
    intro indexed member before after stepped
    exact placeRequested_kept (fun _ => step indexed member) stepped
  have after_pipelined : kept pipelined := by
    refine foldlM_kept ?_ second after_requested
    intro indexed member before after stepped
    exact placePipelined_kept (fun _ _ => step indexed member) stepped
  refine placeRounds_kept ?_ done after_pipelined
  intro indexed member before after below
  exact step indexed (List.mem_of_mem_filter member) before after

end Passes

end ExaServe.Plan
