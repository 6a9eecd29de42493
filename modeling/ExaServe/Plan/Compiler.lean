import Mathlib.Data.List.Sort
import ExaServe.Plan.Deployment
import ExaServe.Plan.Intents

namespace ExaServe.Plan

open Lib Control

/-- What is left of each rank, and the replicas placed so far for each model. -/
structure Placing where
  devices : Nat → List Nat
  cpus : Nat → Nat
  placements : Nat → List ReplicaPlan

section Placement

variable (numNodes : Nat) (intents : List ModelIntent)

/-- The order in which ranks are tried: the fullest first. -/
def rankOrder (state : Placing) (left right : Nat) : Bool :=
  let key (rank : Nat) := ((state.devices rank).length, state.cpus rank, rank)
  (key left).1 < (key right).1 ||
    ((key left).1 = (key right).1 && ((key left).2.1 < (key right).2.1 ||
      ((key left).2.1 = (key right).2.1 && left ≤ right)))

/-- The ranks that hold a stage of the model already, when it has several. -/
def ranksInUse (state : Placing) (index : Nat) (intent : ModelIntent) : List Nat :=
  if 1 < intent.pipelineParallelSize then (state.placements index).flatMap ReplicaPlan.plannedRanks else []

def eligiblePrimary (state : Placing) (index : Nat) (intent : ModelIntent) : List Nat :=
  ((List.range numNodes).filter fun rank =>
    rank ∉ ranksInUse state index intent ∧ intent.tensorParallelSize ≤ (state.devices rank).length ∧
      intent.numCpusPerReplica ≤ state.cpus rank).insertionSort fun left right => rankOrder state left right

def otherRanks (state : Placing) (index : Nat) (intent : ModelIntent) (primary : Nat) : List Nat :=
  ((List.range numNodes).filter fun rank =>
    rank ≠ primary ∧ rank ∉ ranksInUse state index intent ∧
      intent.tensorParallelSize ≤ (state.devices rank).length).insertionSort
        fun left right => rankOrder state left right

/-- The ranks of the next replica: the first primary with enough others. -/
def selectRanks (state : Placing) (index : Nat) (intent : ModelIntent) : Option (List Nat) :=
  (eligiblePrimary numNodes state index intent).findSome? fun primary =>
    let others := otherRanks numNodes state index intent primary
    if intent.pipelineParallelSize - 1 ≤ others.length then
      some (primary :: others.take (intent.pipelineParallelSize - 1))
    else none

/-- `reserve`: one more replica of a model, or none where it does not fit. -/
def reserve (state : Placing) (index : Nat) (intent : ModelIntent) : Except Raised (Option Placing) :=
  match selectRanks numNodes state index intent with
  | none => .ok none
  | some selected => do
    let replicaIndex := (state.placements index).length
    let replica ← ReplicaPlan.make s!"{intent.routeName}/replica-{replicaIndex}" replicaIndex selected
      (selected.map fun rank => (state.devices rank).take intent.tensorParallelSize)
      intent.tensorParallelSize intent.pipelineParallelSize
      (intent.tensorParallelSize * intent.pipelineParallelSize) intent.numCpusPerReplica
    .ok (some {
      devices := fun rank =>
        if rank ∈ selected then (state.devices rank).drop intent.tensorParallelSize else state.devices rank
      cpus := fun rank =>
        if some rank = selected.head? then state.cpus rank - intent.numCpusPerReplica else state.cpus rank
      placements := fun other =>
        if other = index then state.placements index ++ [replica] else state.placements other })

/-- So many reservations of one model, each of which has to succeed. -/
def reserveAll (index : Nat) (intent : ModelIntent) (failed : Raised) : Nat → Placing → Except Raised Placing
  | 0, state => .ok state
  | count + 1, state => do
    match ← reserve numNodes state index intent with
    | none => .error failed
    | some next => reserveAll index intent failed count next

/-- Explicit counts are promises: they fail rather than degrade. -/
def placeRequested (maxReplicas : Nat) (state : Placing) (indexed : ModelIntent × Nat) : Except Raised Placing :=
  let index := indexed.2
  match indexed.1.requestedReplicas with
  | none => .ok state
  | some count => do
    let _ ← require (count ≤ maxReplicas)
      s!"deployment.models[{index}].num_replicas exceeds envelope maximum {maxReplicas}"
    reserveAll numNodes index indexed.1 (planError
      s!"deployment.models[{index}].num_replicas={count} cannot be placed in the declared node/GPU/CPU demand")
      count state

/-- A pipelined model without a count gets one replica. -/
def placePipelined (state : Placing) (indexed : ModelIntent × Nat) : Except Raised Placing :=
  let index := indexed.2
  if indexed.1.requestedReplicas = none ∧ 1 < indexed.1.pipelineParallelSize then
    reserveAll numNodes index indexed.1 (planError
      s!"deployment.models[{index}] cannot place the required default single PP replica") 1 state
  else .ok state

/-- One turn of the round: whether anything was placed, and what is left. -/
def placeOne (maxReplicas : Nat) (progress : Bool × Placing) (indexed : ModelIntent × Nat) :
    Except Raised (Bool × Placing) :=
  if maxReplicas ≤ (progress.2.placements indexed.2).length then .ok progress
  else do
    match ← reserve numNodes progress.2 indexed.2 indexed.1 with
    | none => .ok progress
    | some next => .ok (true, next)

/-- Rounds over the models that share what is left, until one places nothing. Every
    round but the last takes a device, which bounds their number. -/
def placeRounds (maxReplicas : Nat) (auto : List (ModelIntent × Nat)) : Nat → Placing → Except Raised Placing
  | 0, state => .ok state
  | rounds + 1, state => do
    let (progressed, next) ← auto.foldlM (placeOne numNodes maxReplicas) (false, state)
    if progressed then placeRounds maxReplicas auto rounds next else .ok next

def fullPlacing (gpusPerNode cpusPerNode : Nat) : Placing where
  devices := fun _ => List.range gpusPerNode
  cpus := fun _ => cpusPerNode
  placements := fun _ => []

/-- Every model's replicas, in the order of the three passes. -/
def placeModels (gpusPerNode cpusPerNode maxReplicas : Nat) : Except Raised Placing := do
  let state ← intents.zipIdx.foldlM (placeRequested numNodes maxReplicas) (fullPlacing gpusPerNode cpusPerNode)
  let state ← intents.zipIdx.foldlM (placePipelined numNodes) state
  let auto := intents.zipIdx.filter fun indexed =>
    indexed.1.requestedReplicas = none ∧ indexed.1.pipelineParallelSize = 1
  placeRounds numNodes maxReplicas auto (numNodes * gpusPerNode + 1) state

/-- `_resolve_models`. -/
def resolveModels (gpusPerNode cpusPerNode : Nat) (envelope : ScaleEnvelope) : Except Raised (List ModelPlan) := do
  let state ← placeModels numNodes intents gpusPerNode cpusPerNode envelope.maxReplicasPerModel.val
  let missing := (intents.zipIdx.filter fun indexed => (state.placements indexed.2).isEmpty).map fun indexed =>
    indexed.1.modelId
  let shown := "[" ++ ", ".intercalate (missing.map quotedText) ++ "]"
  let _ ← require (missing = []) s!"no feasible replica placement for required model(s) {shown}"
  let total := (intents.zipIdx.map fun indexed => (state.placements indexed.2).length).sum
  let mostReplicas := envelope.maxTotalReplicas.val
  let _ ← require (total ≤ mostReplicas)
    s!"resolved replica count {total} exceeds envelope maximum {mostReplicas}"
  let mostModels := envelope.maxModels.val
  let _ ← require (intents.length ≤ mostModels)
    s!"model count {intents.length} exceeds envelope maximum {mostModels}"
  intents.zipIdx.mapM fun indexed =>
    ModelPlan.make indexed.1.toModelSettings (state.placements indexed.2).length (state.placements indexed.2)

end Placement

/-- The plan of the sections with these models. -/
def DeploymentSections.fields (sections : DeploymentSections) (models : List ModelPlan) : DeploymentFields where
  toDeploymentSections := sections
  models := models
  receiptRequirements := buildReceiptRequirements sections.numNodes.val models
    (sections.gateway.map GatewayPlan.kind) (!sections.runtime.nullCompute)
  deploymentPlanHash := ⟨"", .inl rfl⟩

/-- `DeploymentPlan(...)`. -/
def DeploymentPlan.make (fields : DeploymentFields) : Except Raised DeploymentPlan :=
  match accepted : fields.postInit with
  | .ok _ => .ok ⟨fields, accepted⟩
  | .error raised => .error raised

/-- The models of the input compiled into a plan with the sections resolved from the rest
    of it, in `compile_deployment_plan`. -/
def compileDeploymentPlan (sections : DeploymentSections) (launcherCapabilities : List String)
    (rawModels : Option Json) : Except Raised DeploymentPlan := do
  sections.scaleEnvelope.checkNodes sections.numNodes.val "deployment.num_nodes"
  let intents ← compileModelIntents rawModels sections.numNodes.val sections.numGpusPerNode.val
  let models ← resolveModels sections.numNodes.val intents sections.numGpusPerNode.val sections.nodeCpus.val
    sections.scaleEnvelope
  let _ ← require ((models.any fun model => 1 < model.numReplicas) = true →
      "ray_serve.run_many" ∈ launcherCapabilities)
    "canonical multi-replica placement requires the SiteProfile capability 'ray_serve.run_many'"
  let _ ← require (sections.runtime.ppShardAware = models.any fun model => 1 < model.pipelineParallelSize)
    "deployment.runtime.pp_shard_aware must be enabled exactly for pipeline-parallel models"
  let plan ← DeploymentPlan.make (sections.fields models)
  .ok plan.finalize

section Sample

def sampleDigest : Digest := ⟨String.ofList (List.replicate 64 '0'), by decide +kernel⟩

def sampleNumber : PositiveNumber := ⟨.int 1, by decide +kernel⟩
def sampleLonger : PositiveNumber := ⟨.int 3, by decide +kernel⟩

def sampleText : Text := ⟨"site", by decide⟩

def sampleControl : Artifact.ControlLimits where
  registrationDeadlineS := sampleNumber
  reconnectGraceS := sampleNumber
  heartbeatIntervalS := sampleNumber
  leaseTimeoutS := sampleLonger
  snapshotAssemblyDeadlineS := sampleNumber
  watchdogCleanupDeadlineS := sampleNumber
  maxFrameBytes := ⟨4096, by decide⟩
  maxSnapshotChunks := ⟨16, by decide⟩
  maxSnapshotBytes := ⟨65536, by decide⟩
  maxSnapshotItems := ⟨64, by decide⟩
  evidenceBacked := false
  leased := by decide +kernel

def sampleReadiness : ReadinessLimits where
  initialDeadlineS := sampleNumber
  recoveryDeadlineS := sampleNumber
  validationIntervalS := sampleNumber
  observationFreshnessS := sampleLonger
  gatewayStartDeadlineS := sampleNumber
  canaryTimeoutS := sampleNumber
  serveStartProxyTimeoutS := sampleNumber
  serveProxyHealthCheckTimeoutS := sampleNumber
  serveProxyReadyCheckTimeoutS := sampleNumber
  serveReplicaHealthCheckPeriodS := sampleNumber
  serveReplicaHealthCheckTimeoutS := sampleNumber
  allowExcessResources := false
  evidenceBacked := false
  fresh := by decide +kernel
  patient := by decide +kernel

def sampleEnvelope : ScaleEnvelope where
  envelopeId := sampleText
  siteId := sampleText
  schedulerType := sampleText
  vendor := sampleText
  accelerator := sampleText
  engine := sampleText
  compatibilityProfileRef := ⟨sampleDigest.val, by decide +kernel⟩
  gatewayKind := some .haproxy
  exposureMode := .proxiedInternal
  requestMode := sampleText
  streamingMode := sampleText
  minNodes := ⟨1, by decide⟩
  supportedMaxNodes := ⟨4, by decide⟩
  qualificationTargetNodes := ⟨4, by decide⟩
  qualificationTargetApproved := true
  maxReplicasPerModel := ⟨8, by decide⟩
  maxTotalReplicas := ⟨8, by decide⟩
  maxModels := ⟨4, by decide⟩
  validationTier := sampleText
  validationMode := false
  evidenceRefs := []
  direct := nofun
  proxied := fun _ => rfl
  production := fun _ _ => rfl
  supported := by decide
  targeted := by decide
  totalled := by decide

/-- A production deployment of so many nodes with four devices each. -/
def sampleSections (numNodes : Count) (ppShardAware : Bool) : DeploymentSections where
  deploymentId := sampleText
  siteProfileId := sampleText
  siteProfileHash := sampleDigest
  compatibilityProfileHash := sampleDigest
  manifestHash := sampleDigest
  scaleEnvelope := sampleEnvelope
  numNodes := numNodes
  numGpusPerNode := ⟨4, by decide⟩
  nodeCpus := ⟨64, by decide⟩
  rayPort := ⟨6379, by decide⟩
  vendor := sampleText
  engine := sampleText
  modelStoragePath := ⟨"/models", by decide +kernel⟩
  localStagePath := ⟨"/stage", by decide +kernel⟩
  deploymentName := sampleText
  replicaMaxOngoingRequests := ⟨8, by decide⟩
  collectStats := false
  exposure := {
    mode := .proxiedInternal
    requestBodyLimitBytes := some ⟨1048576, by decide⟩
    servePort := ⟨8000, by decide⟩ }
  gateway := some {
    kind := .haproxy
    port := ⟨8080, by decide⟩
    backendPort := ⟨8000, by decide⟩
    executableRef := ⟨"PATH:haproxy", by decide +kernel⟩
    workerCount := ⟨1, by decide⟩
    options := .empty }
  control := sampleControl
  readiness := sampleReadiness
  runtime := {
    nullCompute := false
    nullComputeLatencyS := ⟨.int 0, by decide +kernel⟩
    instrumentation := false
    ppShardAware := ppShardAware
    cleanStage := false
    statsRetention := ⟨100, by decide⟩
    statsPushPeriodS := sampleNumber
    statsSampleCap := ⟨100, by decide⟩ }
  validationMode := false

end Sample

end ExaServe.Plan
