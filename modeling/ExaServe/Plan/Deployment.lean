import Mathlib.Data.List.Sort
import ExaServe.Plan.Sections

namespace ExaServe.Plan

open Lib Control

/-- Absolute, with no way up. -/
def isAbsolutePath (text : String) : Bool :=
  text.toList.head? == some '/' && (splitOn '/' text.toList).all (· != "..".toList)

abbrev AbsolutePath := { text : String // isAbsolutePath text = true }

def ScaleEnvelope.checkNodes (envelope : ScaleEnvelope) (nodes : Nat) (path : String) : Except Raised Unit := do
  let _ ← require (envelope.minNodes.val ≤ nodes)
    s!"{path} {nodes} is below envelope minimum {envelope.minNodes.val}"
  let target := envelope.qualificationTargetNodes.val
  let _ ← require (nodes ≤ target)
    s!"{path} {nodes} exceeds candidate qualification target {target}; an approved envelope expansion is required"
  let most := envelope.supportedMaxNodes.val
  let _ ← require (envelope.validationMode = false → nodes ≤ most)
    (s!"{path} {nodes} exceeds evidence-backed supported maximum {most}; " ++
      "use an explicit validation-mode envelope for qualification work")

/-- The fields of a `DeploymentPlan` that do not come from its models. -/
structure DeploymentSections where
  deploymentId : Text
  siteProfileId : Text
  siteProfileHash : Digest
  compatibilityProfileHash : Digest
  manifestHash : Digest
  scaleEnvelope : ScaleEnvelope
  numNodes : Count
  numGpusPerNode : Count
  nodeCpus : Count
  rayPort : Port
  vendor : Text
  engine : Text
  modelStoragePath : AbsolutePath
  localStagePath : AbsolutePath
  deploymentName : Text
  replicaMaxOngoingRequests : Count
  collectStats : Bool
  exposure : ExposurePlan
  gateway : Option GatewayPlan
  control : Artifact.ControlLimits
  readiness : ReadinessLimits
  runtime : RuntimePolicy
  validationMode : Bool

/-- The fields of a `DeploymentPlan`. -/
structure DeploymentFields extends DeploymentSections where
  models : List ModelPlan
  receiptRequirements : List ReceiptRequirement
  deploymentPlanHash : OwnDigest

namespace DeploymentFields

variable (plan : DeploymentFields)

def usesHeadOnlyServeProxy : Bool := plan.exposure.mode = .rayServeHeadOnly

def gatewayKind : Option GatewayKind := plan.gateway.map GatewayPlan.kind

def requirementIds : List String := plan.receiptRequirements.map ReceiptRequirement.receiptRequirementId

def replicas : List ReplicaPlan := plan.models.flatMap ModelPlan.replicas

def cpuDemand (rank : Nat) : Nat :=
  ((plan.replicas.filter fun replica => replica.plannedRanks.head? = some rank).map ReplicaPlan.cpuDemand).sum

def requireEnvelope (name expected found : String) : Except Raised Unit := do
  let _ ← require (found = expected)
    s!"deployment.{name} disagrees with scale_envelope.{name}: {expected} != {found}"

def shownKind : Option GatewayKind → String
  | none => "None"
  | some kind => quotedText kind.value

/-- The text of a list of texts. -/
def shownTexts (texts : List String) : String := "[" ++ ", ".intercalate (texts.map quotedText) ++ "]"

/-- `sorted(left - right)` of two sets of texts. -/
def sortedDifference (left right : List String) : List String :=
  (left.filter fun text => text ∉ right).eraseDups.insertionSort fun first second => first ≤ second

def derivedRequirements : List ReceiptRequirement :=
  buildReceiptRequirements plan.numNodes.val plan.models plan.gatewayKind (!plan.runtime.nullCompute)

def requirementsMessage : String :=
  let expected := plan.derivedRequirements.map ReceiptRequirement.receiptRequirementId
  let missing := shownTexts (sortedDifference expected plan.requirementIds)
  let unexpected := shownTexts (sortedDifference plan.requirementIds expected)
  s!"deployment.receipt_requirements disagrees with derived runtime topology: missing={missing}, " ++
    s!"unexpected={unexpected}"

/-- The primary ranks in the order they are first used, each with a demand beyond its node. -/
def overCpu : List (Nat × Nat) :=
  ((plan.replicas.flatMap fun replica => replica.plannedRanks.take 1).eraseDups.map fun rank =>
    (rank, plan.cpuDemand rank)).filter fun entry => plan.nodeCpus.val < entry.2

def cpuMessage : String :=
  let shown := ", ".intercalate (plan.overCpu.map fun entry => s!"{entry.1}: {entry.2}")
  "deployment topology exceeds per-rank CPU capacity: \x7b" ++ shown ++ "\x7d"

/-- Every planned device in turn, with those that were taken before it. -/
def checkDevices (gpus : Nat) : List (Nat × Nat) → List (String × Nat × Nat) → Except Raised Unit
  | _, [] => .ok ()
  | taken, (replicaId, rank, device) :: rest => do
    let _ ← require (device < gpus) s!"replica {replicaId} plans device {device} outside rank {rank} capacity"
    let _ ← require ((rank, device) ∉ taken) s!"deployment topology double-books rank/device ({rank}, {device})"
    checkDevices gpus ((rank, device) :: taken) rest

def plannedDevices : List (String × Nat × Nat) :=
  plan.replicas.flatMap fun replica => replica.occupied.map fun slot => (replica.replicaId, slot.1, slot.2)

/-- The models, the head-only form and the slots. -/
def checkModels : Except Raised Unit := do
  let _ ← require (plan.models ≠ []) "deployment.models must be non-empty"
  let _ ← require (plan.usesHeadOnlyServeProxy = true → plan.models.length = 1)
    "RAY_SERVE_HEAD_ONLY supports exactly one model"
  let _ ← require (plan.usesHeadOnlyServeProxy = true → ∀ model ∈ plan.models, model.pipelineParallelSize = 1)
    ("RAY_SERVE_HEAD_ONLY supports tensor-parallel replicas only; " ++
      "pipeline stage placement requires canonical per-replica applications")
  let _ ← require plan.requirementIds.Nodup "deployment.receipt_requirements contains duplicate slots"

/-- The gateway against the exposure. -/
def checkExposure : Except Raised Unit := do
  let _ ← require (plan.gateway.isNone → plan.exposure.mode ≠ .proxiedInternal)
    "deployment without a gateway requires DIRECT_VALIDATION or RAY_SERVE_HEAD_ONLY exposure"
  let _ ← require (plan.gateway.isNone → plan.validationMode = true) "gateway-free deployment requires validation_mode"
  let _ ← require (plan.gateway.isSome → plan.exposure.mode = .proxiedInternal)
    "managed deployment gateway requires PROXIED_INTERNAL exposure"
  let _ ← require (plan.gateway.isSome → plan.validationMode = false → plan.gatewayKind = some .haproxy)
    "production deployment requires the HAProxy gateway"
  let _ ← require (plan.gatewayKind = some .haproxy → plan.exposure.requestBodyLimitBytes.isSome)
    "HAProxy exposure requires request_body_limit_bytes"
  let _ ← require (plan.gatewayKind ≠ some .haproxy → plan.exposure.requestBodyLimitBytes.isNone)
    "exposure.request_body_limit_bytes is supported only by the HAProxy gateway"

/-- The dimensions of the envelope. -/
def checkEnvelope : Except Raised Unit := do
  requireEnvelope "site_id" (quotedText plan.siteProfileId.val) (quotedText plan.scaleEnvelope.siteId.val)
  requireEnvelope "vendor" (quotedText plan.vendor.val) (quotedText plan.scaleEnvelope.vendor.val)
  requireEnvelope "engine" (quotedText plan.engine.val) (quotedText plan.scaleEnvelope.engine.val)
  requireEnvelope "compatibility_profile_ref" (quotedText plan.compatibilityProfileHash.val)
    (quotedText plan.scaleEnvelope.compatibilityProfileRef.val)
  requireEnvelope "gateway_kind" (shownKind plan.gatewayKind) (shownKind plan.scaleEnvelope.gatewayKind)
  requireEnvelope "exposure_mode" (quotedText plan.exposure.mode.value)
    (quotedText plan.scaleEnvelope.exposureMode.value)
  plan.scaleEnvelope.checkNodes plan.numNodes.val "deployment.num_nodes"
  let _ ← require (plan.scaleEnvelope.validationMode = plan.validationMode)
    "deployment.validation_mode disagrees with scale envelope"

/-- The receipts, the names and the places of the replicas. -/
def checkTopology : Except Raised Unit := do
  let _ ← require (plan.receiptRequirements =
      buildReceiptRequirements plan.numNodes.val plan.models plan.gatewayKind (!plan.runtime.nullCompute))
    plan.requirementsMessage
  let _ ← require (plan.models.map fun model => model.modelId).Nodup
    "deployment.models contains duplicate model_id values"
  let _ ← require (plan.models.map fun model => model.routeName).Nodup
    "deployment.models contains duplicate route_name values"
  let _ ← require (∀ replica ∈ plan.replicas, ∀ rank ∈ replica.plannedRanks, rank < plan.numNodes.val)
    "deployment replica placement names an unplanned rank"
  checkDevices plan.numGpusPerNode.val [] plan.plannedDevices
  let _ ← require (plan.overCpu = []) plan.cpuMessage

def checkRuntime : Except Raised Unit := do
  let _ ← require (plan.runtime.nullCompute = true ∨ plan.runtime.instrumentation = true → plan.validationMode = true)
    "diagnostic/degraded runtime policies require validation_mode"
  let _ ← require (plan.collectStats = true → plan.engine.val = "vllm" ∧ plan.runtime.nullCompute = false)
    "collect_stats requires the real vllm engine; the selected runtime cannot emit complete serving telemetry"
  let _ ← require ((plan.models.any fun model => 1 < model.pipelineParallelSize) = plan.runtime.ppShardAware)
    "runtime.pp_shard_aware must be enabled exactly for PP models"

/-- `DeploymentPlan.__post_init__`, on values of the declared types. -/
def postInit : Except Raised Unit := do
  plan.checkModels
  plan.checkExposure
  plan.checkEnvelope
  plan.checkTopology
  plan.checkRuntime

end DeploymentFields

/-- What is served and how, as the constructor accepts it. -/
structure DeploymentPlan extends DeploymentFields where
  accepted : toDeploymentFields.postInit = .ok ()

section Print

def naturals (values : List Nat) : Json := .arr (values.map countJson)

def ReplicaPlan.asdict (replica : ReplicaPlan) : Json :=
  .obj [("replica_id", .str replica.replicaId), ("replica_index", countJson replica.replicaIndex),
    ("planned_ranks", naturals replica.plannedRanks),
    ("planned_device_ids", .arr (replica.plannedDeviceIds.map naturals)),
    ("tensor_parallel_size", countJson replica.tensorParallelSize),
    ("pipeline_parallel_size", countJson replica.pipelineParallelSize),
    ("gpu_demand", countJson replica.gpuDemand), ("cpu_demand", countJson replica.cpuDemand)]

def ModelPlan.asdict (model : ModelPlan) : Json :=
  .obj [("model_id", .str model.modelId), ("storage_name", .str model.storageName),
    ("route_name", .str model.routeName), ("tensor_parallel_size", countJson model.tensorParallelSize),
    ("pipeline_parallel_size", countJson model.pipelineParallelSize),
    ("max_model_len", countJson model.maxModelLen), ("size_b", countJson model.sizeB),
    ("gpu_memory_utilization", .float model.gpuMemoryUtilization), ("enforce_eager", .bool model.enforceEager),
    ("enable_log_requests", .bool model.enableLogRequests),
    ("max_num_seqs", optionalJson countJson model.maxNumSeqs),
    ("num_cpus_per_replica", countJson model.numCpusPerReplica), ("num_replicas", countJson model.numReplicas),
    ("replicas", .arr (model.replicas.map ReplicaPlan.asdict))]

def ReceiptRequirement.ownerScope (requirement : ReceiptRequirement) : OwnerScope :=
  if requirement.plannedRank.isSome then .rank else .global

def ReceiptRequirement.asdict (requirement : ReceiptRequirement) : Json :=
  .obj [("receipt_requirement_id", .str requirement.receiptRequirementId), ("role", .str requirement.role),
    ("component_slot", .str requirement.componentSlot), ("owner_scope", .str requirement.ownerScope.value),
    ("planned_rank", optionalJson countJson requirement.plannedRank), ("placement", .str requirement.placement),
    ("attestation_type", .str requirement.attestationType.value)]

namespace DeploymentFields

/-- The fields under the deployment's hash. -/
def canonical (plan : DeploymentFields) : List (String × Json) :=
  [("schema_version", .int schemaVersion), ("deployment_id", .str plan.deploymentId.val),
    ("site_profile_id", .str plan.siteProfileId.val), ("site_profile_hash", .str plan.siteProfileHash.val),
    ("compatibility_profile_hash", .str plan.compatibilityProfileHash.val),
    ("manifest_hash", .str plan.manifestHash.val), ("scale_envelope", plan.scaleEnvelope.asdict),
    ("num_nodes", countJson plan.numNodes.val), ("num_gpus_per_node", countJson plan.numGpusPerNode.val),
    ("node_cpus", countJson plan.nodeCpus.val), ("ray_port", countJson plan.rayPort.val),
    ("vendor", .str plan.vendor.val), ("engine", .str plan.engine.val),
    ("model_storage_path", .str plan.modelStoragePath.val), ("local_stage_path", .str plan.localStagePath.val),
    ("deployment_name", .str plan.deploymentName.val),
    ("replica_max_ongoing_requests", countJson plan.replicaMaxOngoingRequests.val),
    ("collect_stats", .bool plan.collectStats), ("models", .arr (plan.models.map ModelPlan.asdict)),
    ("exposure", plan.exposure.asdict), ("gateway", optionalJson GatewayPlan.asdict plan.gateway),
    ("receipt_requirements", .arr (plan.receiptRequirements.map ReceiptRequirement.asdict)),
    ("control", plan.control.asdict), ("readiness", plan.readiness.asdict), ("runtime", plan.runtime.asdict),
    ("validation_mode", .bool plan.validationMode)]

def computeHash (plan : DeploymentFields) : String := canonicalHash (.obj plan.canonical)

def asdict (plan : DeploymentFields) : Json :=
  .obj (plan.canonical ++ [("deployment_plan_hash", .str plan.deploymentPlanHash.val)])

/-- No check looks at the hash. -/
theorem postInit_hash (plan : DeploymentFields) (hash : OwnDigest) :
    postInit { plan with deploymentPlanHash := hash } = plan.postInit := rfl

end DeploymentFields

/-- `finalize`: the hash is the only field that changes. -/
def DeploymentPlan.finalize (plan : DeploymentPlan) : DeploymentPlan where
  toDeploymentFields := { plan.toDeploymentFields with
    deploymentPlanHash := ⟨plan.computeHash, .inr (isSha256Hex_canonicalHash _)⟩ }
  accepted := (plan.postInit_hash _).trans plan.accepted

end Print

end ExaServe.Plan
