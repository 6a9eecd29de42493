import ExaServe.Compat.Ledger
import ExaServe.Control.Session.Coordinator
import ExaServe.Plan.Applications

namespace ExaServe.Control.Readiness

open Lib Plan

section ReceiptPlan

def attestationType : Plan.AttestationType → Compat.AttestationType
  | .self => .self
  | .supervisor => .supervisor

/-- Only a slot without a rank is attested by the supervisor, and every rank is planned. -/
theorem requirement_sound {plan : DeploymentFields} (facts : plan.Facts) {requirement : ReceiptRequirement}
    (member : requirement ∈ plan.receiptRequirements) :
    (requirement.attestationType = .supervisor → requirement.plannedRank = none) ∧
      ∀ rank ∈ requirement.plannedRank, rank < plan.numNodes.val := by
  rw [facts.derived] at member
  unfold buildReceiptRequirements at member
  rcases List.mem_append.mp member with infrastructure | served
  · rcases List.mem_append.mp infrastructure with global | ranked
    · unfold globalRequirements at global
      split at global
      all_goals
        simp only [List.mem_cons, List.not_mem_nil, or_false] at global
      · subst global
        exact ⟨nofun, nofun⟩
      · rcases global with rfl | rfl
        · exact ⟨nofun, nofun⟩
        · exact ⟨fun _ => rfl, nofun⟩
    · obtain ⟨rank, below, among⟩ := List.mem_flatMap.mp ranked
      simp only [rankRequirements, List.mem_cons, List.not_mem_nil, or_false] at among
      rcases among with rfl | rfl
      all_goals
        refine ⟨nofun, ?_⟩
        rintro other ⟨⟩
        exact List.mem_range.mp below
  · obtain ⟨model, used, replicated⟩ := List.mem_flatMap.mp served
    obtain ⟨replica, inside, required⟩ := List.mem_flatMap.mp replicated
    have planned : ∀ rank ∈ replica.plannedRanks, rank < plan.numNodes.val :=
      facts.ranks replica (List.mem_flatMap.mpr ⟨model, used, inside⟩)
    have owner : replica.plannedRanks.headD 0 < plan.numNodes.val := by
      obtain ⟨rank, rest, ranks⟩ := List.exists_cons_of_ne_nil replica.ranks.1
      rw [ranks]
      exact planned rank (ranks ▸ List.mem_cons_self)
    unfold replicaRequirements workerRequirements at required
    dsimp only at required
    split_ifs at required
    all_goals
      simp only [List.mem_cons, List.not_mem_nil, or_false, List.mem_flatMap, List.mem_map] at required
    · rcases required with rfl | rfl
      all_goals exact ⟨nofun, fun rank found => Option.some.inj found ▸ owner⟩
    · rcases required with rfl | rfl | ⟨⟨⟨rank, devices⟩, stage⟩, staged, device, -, rfl⟩
      · exact ⟨nofun, fun rank found => Option.some.inj found ▸ owner⟩
      · exact ⟨nofun, fun rank found => Option.some.inj found ▸ owner⟩
      · refine ⟨nofun, fun other found => Option.some.inj found ▸ planned rank ?_⟩
        exact (List.of_mem_zip (List.fst_mem_of_mem_zipIdx staged)).1
    · subst required
      exact ⟨nofun, fun rank found => Option.some.inj found ▸ owner⟩

/-- A slot as the ledger reads it. -/
def receiptRequirement {plan : DeploymentFields} (facts : plan.Facts)
    (slot : { requirement // requirement ∈ plan.receiptRequirements }) : Compat.ReceiptRequirement where
  receiptRequirementId := slot.val.receiptRequirementId
  role := slot.val.role
  componentSlot := slot.val.componentSlot
  ownerScope := slot.val.ownerScope
  plannedRank := slot.val.plannedRank.map Int.ofNat
  attestationType := attestationType slot.val.attestationType
  pinned_iff_rank := by
    unfold ReceiptRequirement.ownerScope
    rw [Option.isSome_map]
    cases slot.val.plannedRank <;> simp
  rank_nonneg := by
    intro rank found
    obtain ⟨number, -, rfl⟩ := Option.map_eq_some_iff.mp found
    exact Int.natCast_nonneg number
  supervised_global := by
    intro supervised
    have none_planned := (requirement_sound facts slot.property).1 (by
      cases kind : slot.val.attestationType with
      | self => rw [kind] at supervised; cases supervised
      | supervisor => rfl)
    unfold ReceiptRequirement.ownerScope
    rw [none_planned]
    rfl

/-- What the ledger reads of a deployment plan. -/
def receiptPlan (plan : DeploymentPlan) : Compat.ReceiptPlan where
  deploymentId := plan.deploymentId.val
  deploymentPlanHash := plan.deploymentPlanHash.val
  siteProfileHash := plan.siteProfileHash.val
  compatibilityProfileHash := plan.compatibilityProfileHash.val
  manifestHash := plan.manifestHash.val
  models := plan.models.map fun model =>
    { routeName := model.routeName
      pipelineParallelSize := model.pipelineParallelSize
      tensorParallelSize := model.tensorParallelSize }
  numNodes := plan.numNodes.val
  receiptRequirements := plan.receiptRequirements.attach.map (receiptRequirement (DeploymentFields.facts plan.accepted))
  slots_distinct := by
    rw [List.map_map]
    have slots := (DeploymentFields.facts plan.accepted).slots
    rw [DeploymentFields.requirementIds, ← List.attach_map_subtype_val plan.receiptRequirements,
      List.map_map] at slots
    exact slots
  ranks_planned := by
    intro requirement member rank found
    obtain ⟨slot, -, rfl⟩ := List.mem_map.mp member
    obtain ⟨number, planned, rfl⟩ := Option.map_eq_some_iff.mp found
    exact Int.ofNat_lt.mpr ((requirement_sound (DeploymentFields.facts plan.accepted) slot.property).2 number planned)

theorem requirementKeys_receiptPlan (plan : DeploymentPlan) :
    (receiptPlan plan).requirementKeys = plan.requirementIds := by
  unfold Compat.ReceiptPlan.requirementKeys receiptPlan DeploymentFields.requirementIds
  dsimp only
  rw [List.map_map]
  exact @List.attach_map_val _ _ plan.receiptRequirements ReceiptRequirement.receiptRequirementId

end ReceiptPlan

inductive DeploymentPhase where
  | deploying | validating | ready | failed
  deriving DecidableEq, Repr

def DeploymentPhase.value : DeploymentPhase → String
  | deploying => "DEPLOYING"
  | validating => "VALIDATING"
  | ready => "READY"
  | failed => "FAILED"

/-- What a coordinator is made for: a plan with the names of its applications, and the
    binding its ledger was made for. `upper` is `str.upper`. -/
structure Setting where
  plan : DeploymentPlan
  binding : AllocationBinding
  profile : Compat.CompatibilityProfile
  timestamp : String → Option Bool
  upper : String → String
  applications : Finset String
  named : plan.plannedApplicationNames = .ok applications
  deployment_agrees : binding.deploymentId = plan.deploymentId.val
  plan_agrees : binding.deploymentPlanHash = plan.deploymentPlanHash.val
  site_agrees : binding.siteProfileHash = plan.siteProfileHash.val
  ranks_agree : binding.rankToNode.length = plan.numNodes.val

def Setting.context (setting : Setting) : Compat.LedgerContext where
  plan := receiptPlan setting.plan
  binding := setting.binding
  profile := setting.profile
  timestamp := setting.timestamp
  deployment_agrees := setting.deployment_agrees
  plan_agrees := setting.plan_agrees
  site_agrees := setting.site_agrees
  ranks_agree := setting.ranks_agree

/-- Items of which no two have one key. -/
structure Projection {α : Type} (key : α → String) where
  items : List α := []
  distinct : (items.map key).Nodup := by exact List.nodup_nil

def Projection.add {α : Type} {key : α → String} (projection : Projection key) (item : α)
    (fresh : key item ∉ projection.items.map key) : Projection key where
  items := projection.items ++ [item]
  distinct := by
    rw [List.map_append, List.nodup_append']
    refine ⟨projection.distinct, List.nodup_singleton _, ?_⟩
    intro other inside last
    rw [List.map_singleton, List.mem_singleton] at last
    exact fresh (last ▸ inside)

/-- A Ray node as it was observed. -/
structure NodeView where
  nodeId : Text
  nodeName : Text
  nodeAddress : Text
  alive : Bool
  cpu : NonNegativeNumber
  gpu : NonNegativeNumber
  deriving DecidableEq

structure ProxyView where
  nodeId : Text
  status : Text
  deriving DecidableEq

def NodeView.id (node : NodeView) : String := node.nodeId.val

def ProxyView.id (proxy : ProxyView) : String := proxy.nodeId.val

/-- The evidence a coordinator holds, and the phase it is in. -/
structure Evidence where
  phase : DeploymentPhase := .deploying
  advertisedEndpoint : String := ""
  gatewayAlive : Option Bool := none
  gatewayHealthy : Option Bool := none
  routesOk : Dict String Bool := .empty
  canaryOk : Dict String Bool := .empty
  replicasRunning : Dict String (Nat × Nat) := .empty
  nodes : Projection NodeView.id := {}
  proxies : Projection ProxyView.id := {}
  rankComponents : Dict Int Bool := .empty
  ownedComponents : Dict String Bool := .empty
  applicationNames : Finset String := ∅
  firstFailure : Option String := none

section Checks

def valueError (message : String) : Raised := .other "ValueError" message

def requiredText (value : Json) (label : String) : Except Raised Text :=
  let refused := valueError s!"readiness {label} must be non-empty text"
  match value with
  | .str text => if named : text ≠ "" then .ok ⟨text, named⟩ else .error refused
  | _ => .error refused

def requiredBool (value : Json) (label : String) : Except Raised Bool :=
  match value with
  | .bool flag => .ok flag
  | _ => .error (valueError s!"readiness {label} must be a boolean")

def optionalBool (value : Json) (label : String) : Except Raised (Option Bool) :=
  match value with
  | .null => .ok none
  | .bool flag => .ok (some flag)
  | _ => .error (valueError s!"readiness {label} must be null or a boolean")

def nonnegativeInt (value : Json) (label : String) : Except Raised Nat :=
  match value with
  | .int (.ofNat count) => .ok count
  | _ => .error (valueError s!"readiness {label} must be a non-negative integer")

/-- `_finite_resource`; an integer beyond the doubles does not convert at all. -/
def finiteResource (value : Json) (label : String) : Except Raised NonNegativeNumber :=
  let refused := valueError s!"readiness {label} must be finite and non-negative"
  match value with
  | .int count =>
    if finite : isFinite (.int count) = true then
      if least : 0 ≤ numberValue (.int count) then .ok ⟨.int count, finite, least⟩ else .error refused
    else .error (.other "OverflowError" "int too large to convert to float")
  | .float amount =>
    if finite : isFinite (.float amount) = true ∧ 0 ≤ numberValue (.float amount) then
      .ok ⟨.float amount, finite⟩
    else .error refused
  | _ => .error refused

def check (fact : Prop) [Decidable fact] (message : String) : Except Raised (PLift fact) :=
  if established : fact then .ok ⟨established⟩ else .error (valueError message)

end Checks

section Setters

variable (setting : Setting)

def unplannedEvidenceMargin : Nat := 64

def setAdvertisedEndpoint (evidence : Evidence) (endpoint : Json) : Except Raised Evidence := do
  let endpoint ← requiredText endpoint "advertised endpoint"
  .ok { evidence with advertisedEndpoint := endpoint.val }

def setGateway (evidence : Evidence) (alive healthy : Json) : Except Raised Evidence := do
  let gatewayAlive ← optionalBool alive "gateway alive state"
  let gatewayHealthy ← optionalBool healthy "gateway health state"
  .ok { evidence with gatewayAlive, gatewayHealthy }

def setRoute (evidence : Evidence) (route healthy : Json) : Except Raised Evidence := do
  let route ← requiredText route "route"
  let shown := quotedText route.val
  let _ ← check (route.val ∈ setting.plan.models.map fun model => model.routeName)
    s!"readiness route {shown} is not planned"
  let healthy ← requiredBool healthy s!"route {shown} health"
  .ok { evidence with routesOk := evidence.routesOk.insert route.val healthy }

def setCanary (evidence : Evidence) (modelId ok : Json) : Except Raised Evidence := do
  let modelId ← requiredText modelId "canary model_id"
  let shown := quotedText modelId.val
  let _ ← check (modelId.val ∈ setting.plan.models.map fun model => model.modelId)
    s!"readiness canary model {shown} is not planned"
  let ok ← requiredBool ok s!"canary {shown} result"
  .ok { evidence with canaryOk := evidence.canaryOk.insert modelId.val ok }

def setReplicas (evidence : Evidence) (modelId running target : Json) : Except Raised Evidence := do
  let modelId ← requiredText modelId "replica model_id"
  let shown := quotedText modelId.val
  let _ ← check (modelId.val ∈ setting.plan.models.map fun model => model.modelId)
    s!"readiness replica model {shown} is not planned"
  let running ← nonnegativeInt running s!"model {shown} running replicas"
  let target ← nonnegativeInt target s!"model {shown} target replicas"
  .ok { evidence with replicasRunning := evidence.replicasRunning.insert modelId.val (running, target) }

def nodeFields : List String := ["node_id", "node_name", "node_address", "alive", "cpu", "gpu"]

def proxyFields : List String := ["node_id", "status"]

/-- The fields of an item that has these and no others. -/
def itemFields (kind : String) (index : Nat) (expected : List String) (item : Json) :
    Except Raised (String → Json) :=
  let refused := valueError s!"readiness {kind} {index} has invalid fields"
  match item with
  | .obj fields =>
    if Json.sameNames fields expected then .ok fun name => (Json.lookup name fields).getD .null
    else .error refused
  | _ => .error refused

def addNode (earlier : Projection NodeView.id) (item : Json) : Except Raised (Projection NodeView.id) := do
  let index := earlier.items.length
  let field ← itemFields "node" index nodeFields item
  let nodeId ← requiredText (field "node_id") s!"node {index} node_id"
  let nodeName ← requiredText (field "node_name") s!"node {index} node_name"
  let nodeAddress ← requiredText (field "node_address") s!"node {index} node_address"
  let shown := quotedText nodeId.val
  let fresh ← check (nodeId.val ∉ earlier.items.map NodeView.id) s!"readiness node_id {shown} is duplicated"
  let alive ← requiredBool (field "alive") s!"node {index} alive state"
  let cpu ← finiteResource (field "cpu") s!"node {index} CPU"
  let gpu ← finiteResource (field "gpu") s!"node {index} GPU"
  .ok (earlier.add { nodeId, nodeName, nodeAddress, alive, cpu, gpu } fresh.down)

def addProxy (earlier : Projection ProxyView.id) (item : Json) : Except Raised (Projection ProxyView.id) := do
  let index := earlier.items.length
  let field ← itemFields "proxy" index proxyFields item
  let nodeId ← requiredText (field "node_id") s!"proxy {index} node_id"
  let status ← requiredText (field "status") s!"proxy {index} status"
  let shown := quotedText nodeId.val
  let fresh ← check (nodeId.val ∉ earlier.items.map ProxyView.id)
    s!"readiness proxy node_id {shown} is duplicated"
  .ok (earlier.add { nodeId, status } fresh.down)

def sequence (value : Json) (name : String) : Except Raised (List Json) :=
  match value with
  | .arr items => .ok items
  | _ => .error (valueError s!"readiness {name} must be a sequence")

/-- `set_cluster`: both projections are replaced, or none. -/
def setCluster (evidence : Evidence) (nodes proxies : Json) : Except Raised Evidence := do
  let nodes ← sequence nodes "nodes"
  let proxies ← sequence proxies "proxies"
  let limit := setting.plan.numNodes.val + unplannedEvidenceMargin
  let _ ← check (nodes.length ≤ limit ∧ proxies.length ≤ limit)
    "readiness cluster projection exceeds its plan-relative bound"
  let nodes ← nodes.foldlM addNode {}
  let proxies ← proxies.foldlM addProxy {}
  .ok { evidence with nodes, proxies }

def setRankComponent (evidence : Evidence) (rank healthy : Json) : Except Raised Evidence := do
  let rank ← nonnegativeInt rank "rank component owner"
  let _ ← check ((rank : Int) ∈ setting.binding.ranks) s!"readiness rank {rank} is not planned"
  let healthy ← requiredBool healthy s!"rank {rank} component health"
  .ok { evidence with rankComponents := evidence.rankComponents.insert rank healthy }

def ownedComponentIds : List String := ["rank_launcher", "deployment"]

def setOwnedComponent (evidence : Evidence) (componentId healthy : Json) : Except Raised Evidence := do
  let componentId ← requiredText componentId "owned component_id"
  let shown := quotedText componentId.val
  let _ ← check (componentId.val ∈ ownedComponentIds) s!"readiness global component {shown} is not planned"
  let healthy ← requiredBool healthy s!"component {shown} health"
  .ok { evidence with ownedComponents := evidence.ownedComponents.insert componentId.val healthy }

/-- The names of an iterable, up to the bound. -/
def applicationNames (limit : Nat) : Nat → List Json → Except Raised (List String)
  | _, [] => .ok []
  | index, name :: rest => do
    let _ ← check (index < limit) "readiness application projection exceeds its plan-relative bound"
    let first ← requiredText name s!"application name at index {index}"
    let others ← applicationNames limit (index + 1) rest
    .ok (first.val :: others)

def setApplications (evidence : Evidence) (names : Json) : Except Raised Evidence :=
  match names with
  | .arr items => do
    let names ← applicationNames (setting.applications.card + unplannedEvidenceMargin) 0 items
    let _ ← check names.Nodup "readiness application projection contains duplicate names"
    .ok { evidence with applicationNames := names.toFinset }
  | _ => .error (valueError "readiness applications must be an iterable of names")

inductive Input where
  | advertisedEndpoint (endpoint : Json)
  | gateway (alive healthy : Json)
  | route (route healthy : Json)
  | canary (modelId ok : Json)
  | replicas (modelId running target : Json)
  | cluster (nodes proxies : Json)
  | rankComponent (rank healthy : Json)
  | ownedComponent (componentId healthy : Json)
  | applications (names : Json)

def set (evidence : Evidence) : Input → Except Raised Evidence
  | .advertisedEndpoint endpoint => setAdvertisedEndpoint evidence endpoint
  | .gateway alive healthy => setGateway evidence alive healthy
  | .route route healthy => setRoute setting evidence route healthy
  | .canary modelId ok => setCanary setting evidence modelId ok
  | .replicas modelId running target => setReplicas setting evidence modelId running target
  | .cluster nodes proxies => setCluster setting evidence nodes proxies
  | .rankComponent rank healthy => setRankComponent setting evidence rank healthy
  | .ownedComponent componentId healthy => setOwnedComponent evidence componentId healthy
  | .applications names => setApplications setting evidence names

/-- The evidence after a sequence of calls; one that raises changes nothing. -/
def setAll (inputs : List Input) (evidence : Evidence) : Evidence :=
  inputs.foldl (fun evidence input => (set setting evidence input).toOption.getD evidence) evidence

end Setters

end ExaServe.Control.Readiness
