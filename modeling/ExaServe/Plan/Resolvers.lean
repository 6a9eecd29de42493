import Mathlib.Data.List.GetD
import ExaServe.Lib.Positions
import ExaServe.Plan.Placement

namespace ExaServe.Plan

open Lib Control

def indexError : Raised := .other "IndexError" "tuple index out of range"

/-- The text of a tuple of numbers. -/
def shownTuple : List Int → String
  | [single] => s!"({single},)"
  | values => "(" ++ ", ".intercalate (values.map toString) ++ ")"

namespace DeploymentFields

variable (plan : DeploymentFields)

def plannedModel (modelId : String) : Except Raised ModelPlan :=
  match plan.models.find? fun model => model.modelId = modelId with
  | some model => .ok model
  | none =>
    let shown := quotedText modelId
    .error (planError s!"model {shown} has no planned receipt topology")

/-- `_logical_replica`. -/
def logicalReplica (modelId : String) (replicaIndex : Int) : Except Raised (ModelPlan × ReplicaPlan) := do
  let model ← plan.plannedModel modelId
  let _ ← require (0 ≤ replicaIndex) "replica_index must be a non-negative integer"
  match model.replicas.filter fun replica => (replica.replicaIndex : Int) = replicaIndex with
  | [replica] => .ok (model, replica)
  | candidates =>
    let shown := quotedText modelId
    .error (planError
      s!"model {shown} replica index {replicaIndex} maps to {candidates.length} planned replicas")

/-- The one requirement under an id, of the role and the rank it is resolved for. -/
def matchRequirement (shownRole role requirementId : String) (rank : Option Nat) : Except Raised String :=
  let shown := quotedText requirementId
  let found := plan.receiptRequirements.filter fun item => item.receiptRequirementId = requirementId
  let failed := planError
    s!"logical {shownRole} slot {shown} maps to {found.length} matching receipt requirements"
  match found with
  | [single] => do
    if single.role ≠ role then .error failed
    else
      let _ ← require (single.plannedRank = rank)
        s!"logical {shownRole} slot {shown} has inconsistent rank ownership"
      .ok requirementId
  | _ => .error failed

def resolveReplicaReceiptRequirement (modelId : String) (replicaIndex : Int) (role : String) :
    Except Raised String := do
  let shownRole := quotedText role
  let _ ← require (role = "replica" ∨ role = "engine_core") s!"unsupported replica receipt role {shownRole}"
  let (model, replica) ← plan.logicalReplica modelId replicaIndex
  let base := replicaBase model replica
  let requirementId := if role = "engine_core" then s!"{base}/engine/core" else base
  plan.matchRequirement role role requirementId replica.plannedRanks.head?

def resolveReplicaIndexForLivePlacement (modelId : String) (ownerRank : Int) (deviceIds : List Int) :
    Except Raised Nat := do
  let _ ← require (0 ≤ ownerRank) "owner_rank must be a non-negative integer"
  let _ ← require (deviceIds ≠ [] ∧ (∀ device ∈ deviceIds, 0 ≤ device) ∧ deviceIds.Pairwise (· < ·))
    "device_ids must be a non-empty sorted tuple of unique integers"
  let model ← plan.plannedModel modelId
  let _ ← require (model.pipelineParallelSize = 1)
    "live placement resolution supports tensor-parallel replicas only"
  match model.replicas.filter fun replica => replica.plannedRanks.map Int.ofNat = [ownerRank] ∧
      replica.plannedDeviceIds.map (List.map Int.ofNat) = [deviceIds] with
  | [replica] => .ok replica.replicaIndex
  | candidates =>
    let shown := quotedText modelId
    let devices := shownTuple deviceIds
    .error (planError (s!"model {shown} live placement rank={ownerRank} devices={devices} " ++
      s!"maps to {candidates.length} canonical replicas"))

def resolveEngineWorkerReceiptRequirement (modelId : String) (replicaIndex workerRank ownerRank : Int) :
    Except Raised String := do
  let (model, replica) ← plan.logicalReplica modelId replicaIndex
  let _ ← require (0 ≤ workerRank) "engine worker rank must be a non-negative integer"
  let worldSize := replica.tensorParallelSize * replica.pipelineParallelSize
  let _ ← require (workerRank < worldSize)
    s!"engine worker rank {workerRank} is outside replica world size {worldSize}"
  let stage := workerRank.toNat / replica.tensorParallelSize
  let tensorRank := workerRank.toNat % replica.tensorParallelSize
  match replica.plannedRanks[stage]?, replica.plannedDeviceIds[stage]? with
  | some plannedRank, some devices => do
    let _ ← require (ownerRank = plannedRank)
      s!"engine worker rank {workerRank} is on allocation rank {ownerRank}, planned rank is {plannedRank}"
    match devices[tensorRank]? with
    | none => .error indexError
    | some plannedDevice =>
      let base := replicaBase model replica
      plan.matchRequirement "engine worker" "engine_worker"
        s!"{base}/engine/worker/stage{stage}/device{plannedDevice}" (some plannedRank)
  | _, _ => .error indexError

section Slots

/-- A slot resolved for a rank: the rank and the id. -/
def resolveFor (rank : Nat) (resolve : Except Raised String) : Except Raised (Nat × String) := do
  let requirementId ← resolve
  .ok (rank, requirementId)

/-- The slot of one worker, asked for with its planned owner. -/
def workerSlot (model : ModelPlan) (replica : ReplicaPlan) (workerRank : Nat) : Except Raised (Nat × String) :=
  let owner := replica.plannedRanks.getD (workerRank / replica.tensorParallelSize) 0
  resolveFor owner
    (plan.resolveEngineWorkerReceiptRequirement model.modelId replica.replicaIndex workerRank owner)

/-- The slots of a replica, its core and its workers: those of every rank of its world, where
    that has more than one. -/
def replicaSlots (model : ModelPlan) (replica : ReplicaPlan) : Except Raised (List (Nat × String)) := do
  let owner := replica.plannedRanks.headD 0
  let worldSize := replica.tensorParallelSize * replica.pipelineParallelSize
  let actor ← resolveFor owner
    (plan.resolveReplicaReceiptRequirement model.modelId replica.replicaIndex "replica")
  let core ← resolveFor owner
    (plan.resolveReplicaReceiptRequirement model.modelId replica.replicaIndex "engine_core")
  let workers ← (List.range (if 1 < worldSize then worldSize else 0)).mapM (plan.workerSlot model replica)
  .ok (actor :: core :: workers)

/-- What the resolvers return over every model and replica of the plan. -/
def resolvedSlots : Except Raised (List (Nat × String)) := do
  let slots ← plan.models.mapM fun model => model.replicas.mapM (plan.replicaSlots model)
  .ok slots.flatten.flatten

/-- The slots that are not those of a replica. -/
def infrastructureIds : List String :=
  (globalRequirements plan.gatewayKind ++ (List.range plan.numNodes.val).flatMap rankRequirements).map
    ReceiptRequirement.receiptRequirementId

end Slots

end DeploymentFields

section Workers

/-- The worker of a logical world rank: its stage by division, its device by the remainder. -/
def rankedWorker (model : ModelPlan) (replica : ReplicaPlan) (workerRank : Nat) : ReceiptRequirement :=
  let stage := workerRank / replica.tensorParallelSize
  workerRequirement model replica stage (replica.plannedRanks.getD stage 0)
    ((replica.plannedDeviceIds.getD stage []).getD (workerRank % replica.tensorParallelSize) 0)

theorem ReplicaPlan.device_count (replica : ReplicaPlan) :
    (replica.plannedDeviceIds.map List.length).sum =
      replica.tensorParallelSize * replica.pipelineParallelSize := by
  have lengths : replica.plannedDeviceIds.map List.length =
      List.replicate replica.pipelineParallelSize replica.tensorParallelSize := by
    refine List.eq_replicate_iff.mpr ⟨?_, ?_⟩
    · rw [List.length_map, replica.aligned, replica.stages]
    · intro length member
      obtain ⟨group, inside, rfl⟩ := List.mem_map.mp member
      exact (replica.devices group inside).1
  rw [lengths, List.sum_replicate_nat, Nat.mul_comm]

theorem ReplicaPlan.stage_length (replica : ReplicaPlan) {stage : Nat} (below : stage < replica.pipelineParallelSize) :
    (replica.plannedDeviceIds.getD stage []).length = replica.tensorParallelSize := by
  have inside : stage < replica.plannedDeviceIds.length := by
    rw [replica.aligned, replica.stages]
    exact below
  rw [List.getD_eq_getElem _ _ inside]
  exact (replica.devices _ (List.getElem_mem inside)).1

/-- The workers a plan requires, device by device, are those of the world ranks in order. -/
theorem workerRequirements_eq (model : ModelPlan) (replica : ReplicaPlan)
    (several : 1 < replica.tensorParallelSize * replica.pipelineParallelSize) :
    workerRequirements model replica =
      (List.range (replica.tensorParallelSize * replica.pipelineParallelSize)).map (rankedWorker model replica) := by
  unfold workerRequirements
  rw [replica.device_count, if_neg (by omega), range_mul, List.map_flatMap,
    zipIdx_eq_map_range _ (0, []), List.flatMap_map]
  have stages : (replica.plannedRanks.zip replica.plannedDeviceIds).length = replica.pipelineParallelSize := by
    rw [List.length_zip, replica.aligned, replica.stages, Nat.min_self]
  rw [stages]
  refine List.flatMap_congr fun stage inside => ?_
  have below := List.mem_range.mp inside
  have pair : (replica.plannedRanks.zip replica.plannedDeviceIds).getD stage (0, []) =
      (replica.plannedRanks.getD stage 0, replica.plannedDeviceIds.getD stage []) := by
    have ranked : stage < replica.plannedRanks.length := by rw [replica.stages]; exact below
    have grouped : stage < replica.plannedDeviceIds.length := by rw [replica.aligned]; exact ranked
    rw [List.getD_eq_getElem _ _ (by rw [stages]; exact below), List.getD_eq_getElem _ _ ranked,
      List.getD_eq_getElem _ _ grouped, List.getElem_zip]
  rw [pair, eq_map_range (replica.plannedDeviceIds.getD stage []) 0, replica.stage_length below, List.map_map,
    List.map_map]
  refine List.map_congr_left fun device position => ?_
  have small := List.mem_range.mp position
  have positive : 0 < replica.tensorParallelSize := by omega
  simp only [Function.comp_apply, rankedWorker, Nat.mul_add_div positive, Nat.div_eq_of_lt small, Nat.add_zero,
    Nat.mul_add_mod, Nat.mod_eq_of_lt small]

end Workers

section Resolved

variable {plan : DeploymentFields} {model : ModelPlan} {replica : ReplicaPlan}

theorem DeploymentFields.Facts.plannedModel_ok (facts : plan.Facts) (member : model ∈ plan.models) :
    plan.plannedModel model.modelId = .ok model := by
  unfold DeploymentFields.plannedModel
  rw [find?_key facts.modelIds member]

theorem Compiled.logicalReplica_ok (compiled : Compiled plan) (member : model ∈ plan.models)
    (inside : replica ∈ model.replicas) :
    plan.logicalReplica model.modelId replica.replicaIndex = .ok (model, replica) := by
  have numbers : (model.replicas.map ReplicaPlan.replicaIndex).Nodup := by
    rw [compiled.numbered model member]
    exact List.nodup_range
  have distinct : (model.replicas.map fun other => (other.replicaIndex : Int)).Nodup := by
    have cast := numbers.map Int.ofNat_injective
    rwa [List.map_map] at cast
  have least : (0 : Int) ≤ replica.replicaIndex := Int.natCast_nonneg _
  unfold DeploymentFields.logicalReplica
  rw [ok_bind (compiled.facts.plannedModel_ok member), ok_bind (require_ok least _), filter_key distinct inside]

theorem DeploymentFields.Facts.matchRequirement_ok (facts : plan.Facts) {requirement : ReceiptRequirement}
    (listed : requirement ∈ plan.receiptRequirements) (shownRole : String) :
    plan.matchRequirement shownRole requirement.role requirement.receiptRequirementId requirement.plannedRank =
      .ok requirement.receiptRequirementId := by
  unfold DeploymentFields.matchRequirement
  dsimp only
  rw [filter_key facts.slots listed]
  dsimp only
  rw [if_neg (not_not.mpr rfl), ok_bind (require_ok rfl _)]

theorem DeploymentFields.Facts.listed (facts : plan.Facts) (real : plan.runtime.nullCompute = false)
    (member : model ∈ plan.models) (inside : replica ∈ model.replicas) {requirement : ReceiptRequirement}
    (required : requirement ∈ replicaRequirements true model replica) : requirement ∈ plan.receiptRequirements := by
  rw [facts.derived, real]
  refine List.mem_append_right _ (List.mem_flatMap.mpr ⟨model, member, ?_⟩)
  exact List.mem_flatMap.mpr ⟨replica, inside, required⟩

def replicaRequirement (model : ModelPlan) (replica : ReplicaPlan) : ReceiptRequirement :=
  let owner := replica.plannedRanks.headD 0
  .ofRank (replicaBase model replica) "replica" replica.replicaId owner s!"rank:{owner}"

def coreRequirement (model : ModelPlan) (replica : ReplicaPlan) : ReceiptRequirement :=
  let owner := replica.plannedRanks.headD 0
  let base := replicaBase model replica
  .ofRank s!"{base}/engine/core" "engine_core" s!"{replica.replicaId}/engine/core" owner s!"rank:{owner}"

theorem replicaRequirements_eq (model : ModelPlan) (replica : ReplicaPlan) :
    replicaRequirements true model replica =
      replicaRequirement model replica :: coreRequirement model replica :: workerRequirements model replica := rfl

theorem ReplicaPlan.head_owner (replica : ReplicaPlan) :
    replica.plannedRanks.head? = some (replica.plannedRanks.headD 0) := by
  obtain ⟨rank, rest, ranks⟩ := List.exists_cons_of_ne_nil replica.ranks.1
  rw [ranks]
  rfl

theorem Compiled.resolve_replica (compiled : Compiled plan) (real : plan.runtime.nullCompute = false)
    (member : model ∈ plan.models) (inside : replica ∈ model.replicas) :
    plan.resolveReplicaReceiptRequirement model.modelId replica.replicaIndex "replica" =
      .ok (replicaRequirement model replica).receiptRequirementId := by
  have listed := compiled.facts.listed real member inside
    (replicaRequirements_eq model replica ▸ List.mem_cons_self)
  have found := compiled.facts.matchRequirement_ok listed "replica"
  unfold DeploymentFields.resolveReplicaReceiptRequirement
  dsimp only
  rw [ok_bind (require_ok (.inl rfl) _), ok_bind (compiled.logicalReplica_ok member inside)]
  dsimp only
  rw [replica.head_owner]
  exact found

theorem Compiled.resolve_core (compiled : Compiled plan) (real : plan.runtime.nullCompute = false)
    (member : model ∈ plan.models) (inside : replica ∈ model.replicas) :
    plan.resolveReplicaReceiptRequirement model.modelId replica.replicaIndex "engine_core" =
      .ok (coreRequirement model replica).receiptRequirementId := by
  have listed := compiled.facts.listed real member inside
    (replicaRequirements_eq model replica ▸ List.mem_cons_of_mem _ List.mem_cons_self)
  have found := compiled.facts.matchRequirement_ok listed "engine_core"
  unfold DeploymentFields.resolveReplicaReceiptRequirement
  dsimp only
  rw [ok_bind (require_ok (.inr rfl) _), ok_bind (compiled.logicalReplica_ok member inside)]
  dsimp only
  rw [replica.head_owner]
  exact found

theorem resolveFor_ok (rank : Nat) {resolve : Except Raised String} {requirementId : String}
    (found : resolve = .ok requirementId) :
    DeploymentFields.resolveFor rank resolve = .ok (rank, requirementId) := by
  rw [found]
  rfl

/-- A worker asked for with its planned owner gets the slot of its world rank. -/
theorem Compiled.resolve_worker (compiled : Compiled plan) (real : plan.runtime.nullCompute = false)
    (member : model ∈ plan.models) (inside : replica ∈ model.replicas)
    (several : 1 < replica.tensorParallelSize * replica.pipelineParallelSize) {workerRank : Nat}
    (below : workerRank < replica.tensorParallelSize * replica.pipelineParallelSize) :
    plan.workerSlot model replica workerRank =
      .ok (replica.plannedRanks.getD (workerRank / replica.tensorParallelSize) 0,
        (rankedWorker model replica workerRank).receiptRequirementId) := by
  have required : rankedWorker model replica workerRank ∈ replicaRequirements true model replica := by
    rw [replicaRequirements_eq, workerRequirements_eq model replica several]
    refine List.mem_cons_of_mem _ (List.mem_cons_of_mem _ (List.mem_map.mpr ⟨workerRank, ?_, rfl⟩))
    exact List.mem_range.mpr below
  have found := compiled.facts.matchRequirement_ok (compiled.facts.listed real member inside required) "engine worker"
  have positive : 0 < replica.tensorParallelSize := replica.sizes.1
  have stage : workerRank / replica.tensorParallelSize < replica.pipelineParallelSize :=
    Nat.div_lt_of_lt_mul below
  have ranked : workerRank / replica.tensorParallelSize < replica.plannedRanks.length := by
    rw [replica.stages]
    exact stage
  have grouped : workerRank / replica.tensorParallelSize < replica.plannedDeviceIds.length := by
    rw [replica.aligned]
    exact ranked
  have position : workerRank % replica.tensorParallelSize <
      (replica.plannedDeviceIds.getD (workerRank / replica.tensorParallelSize) []).length := by
    rw [replica.stage_length stage]
    exact Nat.mod_lt _ positive
  have bounds : (0 : Int) ≤ workerRank ∧
      (workerRank : Int) < (replica.tensorParallelSize * replica.pipelineParallelSize : Nat) := by omega
  have resolved : plan.resolveEngineWorkerReceiptRequirement model.modelId replica.replicaIndex workerRank
      (replica.plannedRanks.getD (workerRank / replica.tensorParallelSize) 0) =
        .ok (rankedWorker model replica workerRank).receiptRequirementId := by
    unfold DeploymentFields.resolveEngineWorkerReceiptRequirement
    rw [ok_bind (compiled.logicalReplica_ok member inside)]
    dsimp only
    rw [ok_bind (require_ok bounds.1 _), ok_bind (require_ok bounds.2 _), Int.toNat_natCast,
      List.getElem?_eq_getElem ranked, List.getElem?_eq_getElem grouped]
    rw [List.getD_eq_getElem _ _ grouped] at position
    dsimp only
    rw [List.getD_eq_getElem _ _ ranked, ok_bind (require_ok rfl _), List.getElem?_eq_getElem position]
    unfold rankedWorker at found ⊢
    dsimp only at found ⊢
    rw [List.getD_eq_getElem _ _ ranked, List.getD_eq_getElem _ _ grouped, List.getD_eq_getElem _ _ position] at found ⊢
    exact found
  exact resolveFor_ok _ resolved

/-- The slots of a replica as they are required: each with the rank that owns it. -/
def ownedIds (requirements : List ReceiptRequirement) : List (Nat × String) :=
  requirements.map fun requirement => (requirement.plannedRank.getD 0, requirement.receiptRequirementId)

theorem Compiled.replicaSlots_ok (compiled : Compiled plan) (real : plan.runtime.nullCompute = false)
    (member : model ∈ plan.models) (inside : replica ∈ model.replicas) :
    plan.replicaSlots model replica = .ok (ownedIds (replicaRequirements true model replica)) := by
  unfold DeploymentFields.replicaSlots
  dsimp only
  rw [ok_bind (resolveFor_ok _ (compiled.resolve_replica real member inside)),
    ok_bind (resolveFor_ok _ (compiled.resolve_core real member inside))]
  have workers : (List.range (if 1 < replica.tensorParallelSize * replica.pipelineParallelSize then
      replica.tensorParallelSize * replica.pipelineParallelSize else 0)).mapM (plan.workerSlot model replica) =
        .ok (ownedIds (workerRequirements model replica)) := by
    split
    · rename_i several
      rw [workerRequirements_eq model replica several, ownedIds, List.map_map]
      refine mapM_ok fun workerRank below => ?_
      exact compiled.resolve_worker real member inside several (List.mem_range.mp below)
    · rename_i single
      unfold workerRequirements
      rw [replica.device_count, if_pos (by omega)]
      rfl
  rw [ok_bind workers]
  rfl

theorem Compiled.resolvedSlots_ok (compiled : Compiled plan) (real : plan.runtime.nullCompute = false) :
    plan.resolvedSlots = .ok (ownedIds (plan.models.flatMap fun model =>
      model.replicas.flatMap (replicaRequirements true model))) := by
  unfold DeploymentFields.resolvedSlots
  have mapped : (plan.models.mapM fun model => model.replicas.mapM (plan.replicaSlots model)) =
      .ok (plan.models.map fun model => model.replicas.map fun replica =>
        ownedIds (replicaRequirements true model replica)) := by
    refine mapM_ok fun model member => ?_
    exact mapM_ok fun replica inside => compiled.replicaSlots_ok real member inside
  rw [ok_bind mapped]
  simp only [ownedIds, List.flatMap_def, List.flatten_flatten, List.map_flatten, List.map_map, Function.comp_def]

/-- Every slot of a replica has a rank. -/
theorem plannedRank_of_required {requirement : ReceiptRequirement} {engine : Bool}
    (required : requirement ∈ replicaRequirements engine model replica) :
    requirement.plannedRank = some (requirement.plannedRank.getD 0) := by
  unfold replicaRequirements workerRequirements at required
  dsimp only at required
  split_ifs at required
  · simp only [List.mem_cons, List.not_mem_nil, or_false] at required
    rcases required with rfl | rfl <;> rfl
  · simp only [List.mem_cons, List.mem_flatMap, List.mem_map] at required
    rcases required with rfl | rfl | ⟨stage, -, device, -, rfl⟩ <;> rfl
  · simp only [List.mem_cons, List.not_mem_nil, or_false] at required
    subst required
    rfl

end Resolved

section Live

variable {plan : DeploymentFields} {model : ModelPlan} {replica : ReplicaPlan}

/-- Two replicas of a model do not have one place. -/
theorem Compiled.places_apart (compiled : Compiled plan) (member : model ∈ plan.models) :
    model.replicas.Pairwise fun left right => List.Disjoint left.occupied right.occupied := by
  have apart := (List.nodup_flatMap.mp compiled.facts.exclusive).2
  have sublist : model.replicas.Sublist plan.replicas := by
    unfold DeploymentFields.replicas
    rw [List.flatMap_def]
    exact List.sublist_flatten_of_mem (List.mem_map_of_mem member)
  exact apart.sublist sublist

theorem occupied_of_live {rank device : Nat} {devices : List Nat}
    (ranks : replica.plannedRanks.map Int.ofNat = [(rank : Int)])
    (groups : replica.plannedDeviceIds.map (List.map Int.ofNat) = [devices.map Int.ofNat])
    (taken : device ∈ devices) : (rank, device) ∈ replica.occupied := by
  obtain ⟨planned, found, same⟩ := List.map_eq_singleton_iff.mp ranks
  obtain ⟨group, grouped, equal⟩ := List.map_eq_singleton_iff.mp groups
  have devices_eq : group = devices := List.map_injective_iff.mpr Int.ofNat_injective equal
  have rank_eq : planned = rank := Int.ofNat.inj same
  unfold ReplicaPlan.occupied
  rw [found, grouped, devices_eq, rank_eq]
  simpa using taken

theorem Compiled.live_placement (compiled : Compiled plan) (member : model ∈ plan.models)
    (single : model.pipelineParallelSize = 1) (inside : replica ∈ model.replicas) :
    ∃ rank devices, replica.plannedRanks = [rank] ∧ replica.plannedDeviceIds = [devices] ∧
      plan.resolveReplicaIndexForLivePlacement model.modelId rank (devices.map Int.ofNat) =
        .ok replica.replicaIndex := by
  have one : replica.pipelineParallelSize = 1 := (compiled.sized model member replica inside).2.trans single
  obtain ⟨rank, ranks⟩ := List.length_eq_one_iff.mp (replica.stages.trans one)
  obtain ⟨devices, groups⟩ := List.length_eq_one_iff.mp (replica.aligned.trans (replica.stages.trans one))
  have group : devices ∈ replica.plannedDeviceIds := groups ▸ List.mem_singleton.mpr rfl
  have ascending := compiled.ascending model member replica inside devices group
  have some_devices : devices ≠ [] := by
    intro empty
    have size := (replica.devices devices group).1
    have positive := replica.sizes.1
    rw [empty, List.length_nil] at size
    omega
  have checked : devices.map Int.ofNat ≠ [] ∧ (∀ device ∈ devices.map Int.ofNat, 0 ≤ device) ∧
      (devices.map Int.ofNat).Pairwise (· < ·) := by
    refine ⟨by simpa using some_devices, ?_, ?_⟩
    · intro device among
      obtain ⟨number, -, rfl⟩ := List.mem_map.mp among
      exact Int.natCast_nonneg number
    · exact List.pairwise_map.mpr (ascending.imp fun less => Int.ofNat_lt.mpr less)
  refine ⟨rank, devices, ranks, groups, ?_⟩
  unfold DeploymentFields.resolveReplicaIndexForLivePlacement
  rw [ok_bind (require_ok (Int.natCast_nonneg rank) _), ok_bind (require_ok checked _),
    ok_bind (compiled.facts.plannedModel_ok member), ok_bind (require_ok single _)]
  have unique : (model.replicas.filter fun other => other.plannedRanks.map Int.ofNat = [(rank : Int)] ∧
      other.plannedDeviceIds.map (List.map Int.ofNat) = [devices.map Int.ofNat]) = [replica] := by
    refine filter_eq_singleton ?_ inside (by simp [ranks, groups])
    refine (compiled.places_apart member).imp ?_
    intro left right apart both
    simp only [decide_eq_true_eq] at both
    obtain ⟨device, rest, found⟩ := List.exists_cons_of_ne_nil some_devices
    have taken : device ∈ devices := found ▸ List.mem_cons_self
    exact apart (occupied_of_live both.1.1 both.1.2 taken) (occupied_of_live both.2.1 both.2.2 taken)
  rw [unique]

end Live

/-- Over every compiled plan that runs engines: each slot is resolved, for the rank that owns
    it, the slots of replicas and those of the infrastructure are the required ones in their
    order, and a live place leads back to its replica. -/
theorem receipt_slots_resolved {sections : DeploymentSections} {launcherCapabilities : List String}
    {rawModels : Option Json} {deployment : DeploymentPlan}
    (compiled : compileDeploymentPlan sections launcherCapabilities rawModels = .ok deployment)
    (real : deployment.runtime.nullCompute = false) :
    (∃ resolved, deployment.resolvedSlots = .ok resolved ∧ (resolved.map Prod.snd).Nodup ∧
      (∀ slot ∈ resolved, ∃ requirement ∈ deployment.receiptRequirements,
        requirement.receiptRequirementId = slot.2 ∧ requirement.plannedRank = some slot.1) ∧
      deployment.infrastructureIds ++ resolved.map Prod.snd = deployment.requirementIds ∧
      deployment.requirementIds.Nodup) ∧
    (∀ model ∈ deployment.models, model.replicas.map ReplicaPlan.replicaIndex = List.range model.numReplicas) ∧
    ∀ model ∈ deployment.models, model.pipelineParallelSize = 1 → ∀ replica ∈ model.replicas,
      ∃ rank devices, replica.plannedRanks = [rank] ∧ replica.plannedDeviceIds = [devices] ∧
        deployment.resolveReplicaIndexForLivePlacement model.modelId rank (devices.map Int.ofNat) =
          .ok replica.replicaIndex := by
  have known := compiled_of_compile compiled
  have derived := known.facts.derived
  rw [real] at derived
  have ids : deployment.infrastructureIds ++ (ownedIds (deployment.models.flatMap fun model =>
      model.replicas.flatMap (replicaRequirements true model))).map Prod.snd = deployment.requirementIds := by
    unfold DeploymentFields.requirementIds
    rw [derived]
    simp only [ownedIds, List.map_map, Function.comp_def, DeploymentFields.infrastructureIds, ← List.map_append]
    rfl
  refine ⟨⟨_, known.resolvedSlots_ok real, ?_, ?_, ids, known.facts.slots⟩, known.numbered, ?_⟩
  · have distinct := known.facts.slots
    rw [← ids] at distinct
    exact distinct.of_append_right
  · intro slot member
    obtain ⟨requirement, required, rfl⟩ := List.mem_map.mp member
    obtain ⟨model, served, required⟩ := List.mem_flatMap.mp required
    obtain ⟨replica, inside, required⟩ := List.mem_flatMap.mp required
    exact ⟨requirement, known.facts.listed real served inside required, rfl, plannedRank_of_required required⟩
  · intro model member single replica inside
    exact known.live_placement member single inside

/-- Two stages of two devices: a replica, its core and four workers. -/
theorem pipelined_slots_resolved : ∃ plan resolved,
    compileDeploymentPlan (sampleSections ⟨2, by decide⟩ true) [] (some (.arr [.obj [("model_id", .str "org/m"),
        ("tensor_parallel_size", .int 2), ("pipeline_parallel_size", .int 2)]])) = .ok plan ∧
      plan.resolvedSlots = .ok resolved ∧ resolved.length = 6 ∧
      plan.infrastructureIds ++ resolved.map Prod.snd = plan.requirementIds := by
  have accepted : (compileDeploymentPlan (sampleSections ⟨2, by decide⟩ true) [] (some (.arr [.obj
      [("model_id", .str "org/m"), ("tensor_parallel_size", .int 2),
        ("pipeline_parallel_size", .int 2)]]))).toOption.map (fun plan => (plan.runtime.nullCompute,
          plan.infrastructureIds.length, plan.requirementIds.length)) = some (false, 6, 12) := by decide +kernel
  obtain ⟨plan, compiled, evaluated⟩ := ok_of_toOption accepted
  obtain ⟨real, sizes⟩ := Prod.mk.inj evaluated
  obtain ⟨infrastructure, required⟩ := Prod.mk.inj sizes
  obtain ⟨⟨resolved, found, -, -, ids, -⟩, -, -⟩ := receipt_slots_resolved compiled real
  refine ⟨plan, resolved, compiled, found, ?_, ids⟩
  have lengths := congrArg List.length ids
  rw [List.length_append, List.length_map, infrastructure, required] at lengths
  omega

end ExaServe.Plan
