import ExaServe.Control.Contracts
import Mathlib.Data.List.Infix

namespace ExaServe.Plan

open Lib Control

def planError (message : String) : Raised := .other "PlanError" message

/-- One check of a constructor: the fact it establishes, or its error. -/
def require (fact : Prop) [Decidable fact] (message : String) : Except Raised (PLift fact) :=
  if established : fact then .ok ⟨established⟩ else .error (planError message)

theorem require_ok {fact : Prop} [Decidable fact] (holds : fact) (message : String) :
    require fact message = .ok ⟨holds⟩ := dif_pos holds

inductive GatewayKind where
  | haproxy | litellm | nginx | envoy | pingora
  deriving DecidableEq, Repr

namespace GatewayKind

def value : GatewayKind → String
  | haproxy => "haproxy"
  | litellm => "litellm"
  | nginx => "nginx"
  | envoy => "envoy"
  | pingora => "pingora"

def all : List GatewayKind := [haproxy, litellm, nginx, envoy, pingora]

def ofValue (text : String) : Option GatewayKind := all.find? fun kind => kind.value = text

end GatewayKind

inductive ExposureMode where
  | proxiedInternal | directValidation | rayServeHeadOnly
  deriving DecidableEq, Repr

namespace ExposureMode

def value : ExposureMode → String
  | proxiedInternal => "PROXIED_INTERNAL"
  | directValidation => "DIRECT_VALIDATION"
  | rayServeHeadOnly => "RAY_SERVE_HEAD_ONLY"

def all : List ExposureMode := [proxiedInternal, directValidation, rayServeHeadOnly]

def ofValue (text : String) : Option ExposureMode := all.find? fun mode => mode.value = text

end ExposureMode

/-- Stable logical replica slot: its ranks, one a stage, with the devices of each. -/
structure ReplicaPlan where
  replicaId : String
  replicaIndex : Nat
  plannedRanks : List Nat
  plannedDeviceIds : List (List Nat)
  tensorParallelSize : Nat
  pipelineParallelSize : Nat
  gpuDemand : Nat
  cpuDemand : Nat
  named : replicaId ≠ ""
  sizes : 1 ≤ tensorParallelSize ∧ 1 ≤ pipelineParallelSize ∧ 1 ≤ gpuDemand
  ranks : plannedRanks ≠ [] ∧ plannedRanks.Nodup
  stages : plannedRanks.length = pipelineParallelSize
  aligned : plannedDeviceIds.length = plannedRanks.length
  devices : ∀ group ∈ plannedDeviceIds, group.length = tensorParallelSize ∧ group.Nodup
  demand : gpuDemand = tensorParallelSize * pipelineParallelSize
  deriving DecidableEq

/-- `ReplicaPlan.__post_init__`, on values of the declared types. -/
def ReplicaPlan.make (replicaId : String) (replicaIndex : Nat) (plannedRanks : List Nat)
    (plannedDeviceIds : List (List Nat)) (tensorParallelSize pipelineParallelSize gpuDemand cpuDemand : Nat) :
    Except Raised ReplicaPlan := do
  let named ← require (replicaId ≠ "") "replica.replica_id must be non-empty"
  let tp ← require (1 ≤ tensorParallelSize) "replica.tensor_parallel_size must be an integer >= 1"
  let pp ← require (1 ≤ pipelineParallelSize) "replica.pipeline_parallel_size must be an integer >= 1"
  let gpu ← require (1 ≤ gpuDemand) "replica.gpu_demand must be an integer >= 1"
  let ranks ← require (plannedRanks ≠ [] ∧ plannedRanks.Nodup)
    "replica.planned_ranks must be non-empty and unique"
  let stages ← require (plannedRanks.length = pipelineParallelSize)
    s!"replica {replicaId}: planned rank count must equal pipeline_parallel_size"
  let aligned ← require (plannedDeviceIds.length = plannedRanks.length)
    s!"replica {replicaId}: device groups must align with planned ranks"
  let devices ← require (∀ group ∈ plannedDeviceIds, group.length = tensorParallelSize ∧ group.Nodup)
    s!"replica {replicaId}: every stage needs exactly tensor_parallel_size unique device ids"
  let demand ← require (gpuDemand = tensorParallelSize * pipelineParallelSize)
    s!"replica {replicaId}: gpu_demand does not equal TP*PP"
  .ok {
    replicaId, replicaIndex, plannedRanks, plannedDeviceIds, tensorParallelSize, pipelineParallelSize
    gpuDemand, cpuDemand
    named := named.down
    sizes := ⟨tp.down, pp.down, gpu.down⟩
    ranks := ranks.down
    stages := stages.down
    aligned := aligned.down
    devices := devices.down
    demand := demand.down }

/-- The devices of a replica with their ranks, in the order of its stages. -/
def ReplicaPlan.occupied (replica : ReplicaPlan) : List (Nat × Nat) :=
  (replica.plannedRanks.zip replica.plannedDeviceIds).flatMap fun stage => stage.2.map fun device => (stage.1, device)

section Names

def isIdChar (c : Char) : Bool := c.isAlphanum || c = '.' || c = '_' || c = '-'

/-- `_MODEL_ID_SEGMENT_RE`. -/
def isIdSegment : List Char → Bool
  | [] => false
  | first :: rest => first.isAlphanum && rest.all isIdChar

def splitOn (stop : Char) : List Char → List (List Char)
  | [] => [[]]
  | c :: rest =>
    if c = stop then [] :: splitOn stop rest
    else match splitOn stop rest with
      | [] => [[c]]
      | segment :: others => (c :: segment) :: others

/-- An opaque model identity, never the spelling of a path. -/
structure SafeModelId (value : String) : Prop where
  bounded : value ≠ "" ∧ value.toList.length ≤ 512
  notPath : '\x00' ∉ value.toList ∧ '\\' ∉ value.toList ∧ value.toList.head? ≠ some '~' ∧
    value.toList.head? ≠ some '/' ∧ ¬ "://".toList <:+: value.toList
  segments : (splitOn '/' value.toList).all isIdSegment = true

def requireModelId (value path : String) : Except Raised (PLift (SafeModelId value)) := do
  let bounded ← require (value ≠ "" ∧ value.toList.length ≤ 512)
    s!"{path} must be non-empty text of at most 512 characters"
  let notPath ← require ('\x00' ∉ value.toList ∧ '\\' ∉ value.toList ∧ value.toList.head? ≠ some '~' ∧
      value.toList.head? ≠ some '/' ∧ ¬ "://".toList <:+: value.toList)
    s!"{path} must be an opaque model ID, not a filesystem path or URL"
  let segments ← require ((splitOn '/' value.toList).all isIdSegment = true)
    s!"{path} must contain only safe slash-separated model-ID segments"
  .ok ⟨⟨bounded.down, notPath.down, segments.down⟩⟩

def storageName (modelId : String) : String :=
  String.ofList (modelId.toList.flatMap fun c => if c = '/' then ['-', '-'] else [c])

def stripDashes (text : List Char) : List Char :=
  ((text.dropWhile (· = '-')).reverse.dropWhile (· = '-')).reverse

def routeName (storageName : String) : String :=
  String.ofList ((stripDashes (storageName.toList.map fun c =>
    if c.isAlphanum || c = '_' || c = '-' then c else '-')).map Char.toLower)

end Names

/-- What a plan says of a model, apart from its replicas. -/
structure ModelSettings where
  modelId : String
  storageName : String
  routeName : String
  tensorParallelSize : Nat
  pipelineParallelSize : Nat
  maxModelLen : Nat
  sizeB : Nat
  gpuMemoryUtilization : FloatText
  enforceEager : Bool
  enableLogRequests : Bool
  maxNumSeqs : Option Nat
  numCpusPerReplica : Nat
  deriving DecidableEq

structure ModelPlan extends ModelSettings where
  numReplicas : Nat
  replicas : List ReplicaPlan
  identified : SafeModelId modelId
  named : storageName ≠ "" ∧ routeName ≠ ""
  derived : storageName = Plan.storageName modelId
  positive : 1 ≤ tensorParallelSize ∧ 1 ≤ pipelineParallelSize ∧ 1 ≤ maxModelLen ∧ 1 ≤ sizeB ∧
    1 ≤ numCpusPerReplica ∧ 1 ≤ numReplicas
  seqs : maxNumSeqs ≠ some 0
  utilization : 0 < gpuMemoryUtilization.value ∧ gpuMemoryUtilization.value ≤ 1
  slots : replicas.length = numReplicas
  deriving DecidableEq

/-- `ModelPlan.__post_init__`, on values of the declared types. -/
def ModelPlan.make (settings : ModelSettings) (numReplicas : Nat) (replicas : List ReplicaPlan) :
    Except Raised ModelPlan := do
  let identified ← requireModelId settings.modelId "model.model_id"
  let named ← require (settings.storageName ≠ "" ∧ settings.routeName ≠ "")
    "model identity fields must be non-empty"
  let derived ← require (settings.storageName = Plan.storageName settings.modelId)
    "model.storage_name must be derived from model.model_id"
  let tp ← require (1 ≤ settings.tensorParallelSize) "model.tensor_parallel_size must be a positive integer"
  let pp ← require (1 ≤ settings.pipelineParallelSize) "model.pipeline_parallel_size must be a positive integer"
  let length ← require (1 ≤ settings.maxModelLen) "model.max_model_len must be a positive integer"
  let size ← require (1 ≤ settings.sizeB) "model.size_b must be a positive integer"
  let cpus ← require (1 ≤ settings.numCpusPerReplica) "model.num_cpus_per_replica must be a positive integer"
  let replicated ← require (1 ≤ numReplicas) "model.num_replicas must be a positive integer"
  let seqs ← require (settings.maxNumSeqs ≠ some 0) "model.max_num_seqs must be null or a positive integer"
  let utilization ← require (0 < settings.gpuMemoryUtilization.value ∧ settings.gpuMemoryUtilization.value ≤ 1)
    "model.gpu_memory_utilization must be finite in (0, 1]"
  let slots ← require (replicas.length = numReplicas)
    s!"model {settings.modelId}: num_replicas {numReplicas} does not match {replicas.length} logical slots"
  .ok {
    toModelSettings := settings
    numReplicas, replicas
    identified := identified.down
    named := named.down
    derived := derived.down
    positive := ⟨tp.down, pp.down, length.down, size.down, cpus.down, replicated.down⟩
    seqs := seqs.down
    utilization := utilization.down
    slots := slots.down }

inductive AttestationType where
  | self | supervisor
  deriving DecidableEq, Repr

def AttestationType.value : AttestationType → String
  | self => "SELF"
  | supervisor => "SUPERVISOR"

/-- One exactly-planned process or actor that must produce a receipt. The owner is a
    rank, or the deployment where there is none. -/
structure ReceiptRequirement where
  receiptRequirementId : String
  role : String
  componentSlot : String
  plannedRank : Option Nat := none
  placement : String := ""
  attestationType : AttestationType := .self
  deriving DecidableEq

/-- A requirement of one rank. -/
def ReceiptRequirement.ofRank (receiptRequirementId role componentSlot : String) (rank : Nat)
    (placement : String) : ReceiptRequirement :=
  { receiptRequirementId, role, componentSlot, plannedRank := some rank, placement }

section Receipts

def rankRequirements (rank : Nat) : List ReceiptRequirement :=
  let role := if rank = 0 then "ray_head" else "ray_worker"
  [.ofRank s!"rank{rank}/{role}" role "ray" rank s!"rank:{rank}",
    .ofRank s!"rank{rank}/node_supervisor" "node_supervisor" "node_supervisor" rank s!"rank:{rank}"]

def replicaBase (model : ModelPlan) (replica : ReplicaPlan) : String :=
  s!"model/{model.routeName}/replica/{replica.replicaIndex}"

def workerRequirement (model : ModelPlan) (replica : ReplicaPlan) (stage rank device : Nat) :
    ReceiptRequirement :=
  let base := replicaBase model replica
  .ofRank s!"{base}/engine/worker/stage{stage}/device{device}" "engine_worker"
    s!"{replica.replicaId}/engine/worker/stage{stage}/device{device}" rank s!"rank:{rank}/device:{device}"

/-- The workers of a replica, one a device. A replica of one device has none: its
    engine core runs the model. -/
def workerRequirements (model : ModelPlan) (replica : ReplicaPlan) : List ReceiptRequirement :=
  if (replica.plannedDeviceIds.map List.length).sum ≤ 1 then []
  else (replica.plannedRanks.zip replica.plannedDeviceIds).zipIdx.flatMap fun stage =>
    stage.1.2.map fun device => workerRequirement model replica stage.2 stage.1.1 device

def replicaRequirements (includeEngineProcesses : Bool) (model : ModelPlan) (replica : ReplicaPlan) :
    List ReceiptRequirement :=
  let owner := replica.plannedRanks.headD 0
  let base := replicaBase model replica
  .ofRank base "replica" replica.replicaId owner s!"rank:{owner}" ::
    if includeEngineProcesses then
      .ofRank s!"{base}/engine/core" "engine_core" s!"{replica.replicaId}/engine/core" owner s!"rank:{owner}" ::
        workerRequirements model replica
    else []

def globalRequirements (gateway : Option GatewayKind) : List ReceiptRequirement :=
  { receiptRequirementId := "global/supervisor", role := "supervisor", componentSlot := "supervisor" } ::
    match gateway with
    | none => []
    | some kind =>
      [{ receiptRequirementId := s!"global/gateway/{kind.value}", role := "gateway",
         componentSlot := s!"gateway/{kind.value}", attestationType := .supervisor }]

def buildReceiptRequirements (numNodes : Nat) (models : List ModelPlan) (gateway : Option GatewayKind)
    (includeEngineProcesses : Bool) : List ReceiptRequirement :=
  globalRequirements gateway ++ (List.range numNodes).flatMap rankRequirements ++
    models.flatMap fun model => model.replicas.flatMap (replicaRequirements includeEngineProcesses model)

end Receipts

end ExaServe.Plan
