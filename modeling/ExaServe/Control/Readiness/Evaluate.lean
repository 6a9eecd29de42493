import ExaServe.Control.Readiness.Evidence
import ExaServe.State.Status
import ExaServe.Lib.Format
import Mathlib.Data.Finset.Sort

namespace ExaServe.Control.Readiness

open Lib Plan

/-- What the clauses of the predicate report. -/
structure Findings where
  blockers : List String := []
  satisfied : List String := []
  missing : List String := []
  unhealthy : List String := []

def Findings.append (left right : Findings) : Findings where
  blockers := left.blockers ++ right.blockers
  satisfied := left.satisfied ++ right.satisfied
  missing := left.missing ++ right.missing
  unhealthy := left.unhealthy ++ right.unhealthy

instance : Append Findings := ⟨Findings.append⟩

def startsWith (start text : String) : Bool := start.toList.isPrefixOf text.toList

section Clauses

variable (setting : Setting) (evidence : Evidence)

def shownReason : Option String → String
  | none => "None"
  | some reason => reason

/-- `readiness_revoked_ranks`. -/
def readinessRevokedRanks (sessions : Coordinator) : List Int :=
  (sessions.sessions.keys.filter fun rank => !sessions.holdsEstablished rank).insertionSort (· ≤ ·)

/-- Every planned rank has an established session. -/
def sessionFindings (sessions : Option Coordinator) : Findings :=
  match sessions with
  | none => {}
  | some sessions =>
    let revoked := readinessRevokedRanks sessions
    let shown := intListText (revoked.take 8)
    let planned := setting.binding.ranks.length
    let reason := shownReason sessions.terminalReason
    (if revoked ≠ [] then
      { blockers := [s!"ranks not established: {shown}"]
        missing := revoked.map fun rank => s!"session/rank/{rank}" }
    else { satisfied := [s!"sessions: {planned} planned ranks established"] }) ++
    if sessions.generationState = .terminal then
      { blockers := [s!"generation terminal: {reason}"], unhealthy := ["generation"] }
    else {}

def aliveNodes : List NodeView := evidence.nodes.items.filter fun node => node.alive

/-- The live nodes under the name a rank is bound to. -/
def nodeMatches (expectedName : String) : List NodeView :=
  (aliveNodes evidence).filter fun node => canonicalNodeId node.nodeName.val = canonicalNodeId expectedName

/-- The node of a rank, when there is just one. -/
def matchedNode (expectedName : String) : Option NodeView :=
  match nodeMatches evidence expectedName with
  | [node] => some node
  | _ => none

def matchedIds : List String :=
  setting.binding.rankToNode.filterMap fun entry => (matchedNode evidence entry.2).map NodeView.id

def matchedIdOf (rank : Int) : Option String :=
  match setting.binding.rankToNode.find? fun entry => entry.1 = rank with
  | some entry => (matchedNode evidence entry.2).map NodeView.id
  | none => none

/-- The resources of the node a rank was matched with. -/
def resourceFindings (rank : Int) (node : NodeView) : Findings :=
  let cpu := numberValue node.cpu.val
  let gpu := numberValue node.gpu.val
  let wantedCpu : ℚ := setting.plan.nodeCpus.val
  let wantedGpu : ℚ := setting.plan.numGpusPerNode.val
  let shownCpu := generalFormat cpu
  let shownGpu := generalFormat gpu
  let shownWantedCpu := generalFormat wantedCpu
  let shownWantedGpu := generalFormat wantedGpu
  if cpu < wantedCpu ∨ gpu < wantedGpu then
    { blockers := [s!"ray resources rank {rank}: CPU {shownCpu}/{shownWantedCpu}, GPU {shownGpu}/{shownWantedGpu}"]
      unhealthy := [s!"ray-node/rank/{rank}/resources"] }
  else if setting.plan.readiness.allowExcessResources = false ∧ (cpu ≠ wantedCpu ∨ gpu ≠ wantedGpu) then
    { blockers := [s!"ray resources rank {rank}: excess resources forbidden (CPU {shownCpu}, GPU {shownGpu})"]
      unhealthy := [s!"ray-node/rank/{rank}/resources"] }
  else {}

def rankFindings (entry : Int × String) : Findings :=
  match nodeMatches evidence entry.2 with
  | [node] => resourceFindings setting entry.1 node
  | found =>
    { blockers := [s!"ray membership rank {entry.1} node {entry.2}: {found.length} live matches"]
      missing := [s!"ray-node/rank/{entry.1}"] }

def extraIds : List String :=
  (((aliveNodes evidence).map NodeView.id).filter fun id => id ∉ matchedIds setting evidence).insertionSort (· ≤ ·)

/-- Exact live membership and resources, the expected set being the binding. -/
def membershipFindings (earlier : List String) : Findings :=
  let ranked := (setting.binding.rankToNode.map (rankFindings setting evidence)).foldl (· ++ ·) {}
  let extra := extraIds setting evidence
  let shown := DeploymentFields.shownTexts (extra.take 6)
  let found := ranked ++ if extra ≠ [] then
      { blockers := [s!"ray membership has unplanned live nodes: {shown}"]
        unhealthy := extra.map fun item => s!"ray-node/unplanned/{item}" }
    else ({} : Findings)
  let matched := (matchedIds setting evidence).toFinset.card
  found ++ if (earlier ++ found.blockers).any fun blocker =>
      startsWith "ray membership" blocker || startsWith "ray resources" blocker then {}
    else { satisfied := [s!"ray membership/resources: {matched} exact nodes"] }

def componentFindings : Findings :=
  let ranked := setting.binding.ranks.filter fun rank => evidence.rankComponents.get? rank ≠ some true
  let owned := ownedComponentIds.filter fun componentId => evidence.ownedComponents.get? componentId ≠ some true
  { blockers := (ranked.map fun rank => s!"rank {rank} ray component: not fresh/running") ++
      owned.map fun componentId => s!"owned component {componentId}: not running"
    unhealthy := (ranked.map fun rank => s!"component/rank/{rank}/ray") ++
      owned.map fun componentId => s!"component/global/{componentId}" }

def applicationFindings : Findings :=
  let missing := (setting.applications \ evidence.applicationNames).sort (· ≤ ·)
  let unexpected := (evidence.applicationNames \ setting.applications).sort (· ≤ ·)
  let shownMissing := DeploymentFields.shownTexts (missing.take 6)
  let shownUnexpected := DeploymentFields.shownTexts (unexpected.take 6)
  let count := setting.applications.card
  (if missing ≠ [] then
    { blockers := [s!"serve applications missing: {shownMissing}"]
      missing := missing.map fun name => s!"serve-application/{name}" }
  else ({} : Findings)) ++
  (if unexpected ≠ [] then
    { blockers := [s!"serve applications unplanned: {shownUnexpected}"]
      unhealthy := unexpected.map fun name => s!"serve-application/unplanned/{name}" }
  else {}) ++
  if missing = [] ∧ unexpected = [] then { satisfied := [s!"serve applications: {count} exact"] } else {}

/-- The nodes that have to have a proxy: all that were matched, or that of rank zero. -/
def expectedProxyIds : Finset String :=
  match setting.plan.usesHeadOnlyServeProxy, matchedIdOf setting evidence 0 with
  | true, some id => {id}
  | _, _ => (matchedIds setting evidence).toFinset

def isHealthy (status : String) : Bool :=
  "HEALTHY".toList <:+: status.toList ∧ ¬ "UNHEALTHY".toList <:+: status.toList

def proxyStatus (id : String) : Option String :=
  (evidence.proxies.items.find? fun proxy => proxy.id = id).map fun proxy => setting.upper proxy.status.val

def oneProxyFindings (id : String) : Findings :=
  let status := (proxyStatus setting evidence id).getD "MISSING"
  if isHealthy status then {}
  else
    { blockers := [s!"serve proxy {id}: status={status}"]
      missing := if status = "MISSING" then [s!"serve-proxy/{id}"] else []
      unhealthy := if status = "MISSING" then [] else [s!"serve-proxy/{id}"] }

def proxyFindings (earlier : List String) : Findings :=
  let expected := expectedProxyIds setting evidence
  let unplanned := ((evidence.proxies.items.map ProxyView.id).filter fun id => id ∉ expected).insertionSort (· ≤ ·)
  let shown := DeploymentFields.shownTexts (unplanned.take 6)
  let found := ((expected.sort (· ≤ ·)).map (oneProxyFindings setting evidence)).foldl (· ++ ·) {} ++
    if unplanned ≠ [] then
      { blockers := [s!"serve proxies on unplanned nodes: {shown}"]
        unhealthy := unplanned.map fun item => s!"serve-proxy/unplanned/{item}" }
    else ({} : Findings)
  found ++ if expected ≠ ∅ ∧ ¬ ((earlier ++ found.blockers).any fun blocker => startsWith "serve prox" blocker) then
    { satisfied := [s!"serve proxies: {expected.card} healthy"] } else {}

def receiptFindings (ledger : Compat.Ledger) : Findings :=
  let (ok, detail) := Compat.Ledger.satisfied setting.context ledger
  let shownMissing := DeploymentFields.shownTexts (detail.missing.take 6)
  let shownUnexpected := DeploymentFields.shownTexts (detail.unexpected.take 6)
  if ok then { satisfied := [s!"receipts: {detail.accepted}/{detail.planned} exact slots"] }
  else
    (if detail.missing ≠ [] then
      { blockers := [s!"receipts missing: {shownMissing}"]
        missing := detail.missing.map fun item => s!"receipt/{item}" }
    else ({} : Findings)) ++
    if detail.unexpected ≠ [] then
      { blockers := [s!"receipts unexpected: {shownUnexpected}"]
        unhealthy := detail.unexpected.map fun item => s!"receipt/unplanned/{item}" }
    else {}

/-- The running and the target replicas that were observed of a model. -/
def observedReplicas (modelId : String) : Nat × Nat := (evidence.replicasRunning.get? modelId).getD (0, 0)

def modelFindings (model : ModelPlan) : Findings :=
  let (running, target) := observedReplicas evidence model.modelId
  let planned := model.numReplicas
  (if target ≠ planned then
    { blockers := [s!"model {model.modelId}: observed target {target}, planned {planned}"]
      unhealthy := [s!"model/{model.modelId}/replica-target"] }
  else ({} : Findings)) ++
  if running ≠ planned then
    { blockers := [s!"model {model.modelId}: {running}/{planned} replicas"]
      missing := if running < planned then [s!"model/{model.modelId}/replicas"] else []
      unhealthy := if running < planned then [] else [s!"model/{model.modelId}/replicas"] }
  else { satisfied := [s!"model {model.modelId}: {running}/{planned}"] }

/-- The endpoint and, where there is one, the gateway behind it. -/
def endpointFindings : Findings :=
  if evidence.advertisedEndpoint = "" then
    { blockers := ["no advertised endpoint established"], missing := ["advertised-endpoint"] }
  else if setting.plan.exposure.mode = .proxiedInternal then
    match evidence.gatewayAlive, evidence.gatewayHealthy with
    | some false, _ => { blockers := ["gateway process is not running"], unhealthy := ["gateway/process"] }
    | none, _ =>
      { blockers := ["gateway process state unknown"], missing := ["gateway/process-observation"] }
    | some true, some true =>
      let kind := (setting.plan.gatewayKind.map GatewayKind.value).getD ""
      { satisfied := [s!"gateway {kind} healthy"] }
    | some true, _ => { blockers := ["gateway health check failed"], unhealthy := ["gateway/health"] }
  else {}

def routeFindings (model : ModelPlan) : Findings :=
  (if evidence.routesOk.get? model.routeName = some true then ({} : Findings)
  else
    { blockers := [s!"route {model.routeName}: not healthy"], unhealthy := [s!"route/{model.routeName}"] }) ++
  if evidence.canaryOk.get? model.modelId = some true then {}
  else
    { blockers := [s!"canary {model.modelId}: no completion via the advertised endpoint"]
      missing := [s!"canary/{model.modelId}"] }

/-- The routes, with a canary through the endpoint for each model. -/
def canaryFindings (earlier : List String) : Findings :=
  let found := (setting.plan.models.map (routeFindings evidence)).foldl (· ++ ·) {}
  found ++ if setting.plan.models ≠ [] ∧
      ¬ ((earlier ++ found.blockers).any fun blocker => startsWith "canary " blocker) then
    { satisfied := [s!"canaries: {setting.plan.models.length} model(s) answered"] } else {}

end Clauses

/-- What the verdict says of a model. -/
structure ModelView where
  routeName : String
  expectedReplicas : Nat
  observedReplicas : Nat
  observedTarget : Nat
  deriving DecidableEq

structure ReadinessVerdict where
  ready : Bool
  phase : DeploymentPhase
  blockers : List String
  satisfied : List String
  advertisedEndpoint : String
  generation : Nat
  deploymentPlanHash : String
  allocationBindingHash : String
  missingIdentities : List String
  unhealthyIdentities : List String
  receiptHashes : List String
  modelMap : List (String × ModelView)
  capabilityMap : Dict String (List String)
  nodes : List NodeView
  proxies : List ProxyView
  observedAt : State.Status.Reading

section Evaluate

variable (setting : Setting)

/-- All clauses in their order. -/
def findings (sessions : Option Coordinator) (ledger : Compat.Ledger) (evidence : Evidence) : Findings :=
  let found := sessionFindings setting sessions
  let found := found ++ membershipFindings setting evidence found.blockers
  let found := found ++ componentFindings setting evidence
  let found := found ++ applicationFindings setting evidence
  let found := found ++ proxyFindings setting evidence found.blockers
  let found := found ++ receiptFindings setting ledger
  let found := found ++ (setting.plan.models.map (modelFindings evidence)).foldl (· ++ ·) {}
  let found := found ++ endpointFindings setting evidence
  found ++ canaryFindings setting evidence found.blockers

/-- `accepted_receipts`: in the order of the slots. -/
def acceptedReceipts (ledger : Compat.Ledger) : List Compat.Receipt :=
  (ledger.bySlot.keys.insertionSort (· ≤ ·)).filterMap ledger.bySlot.get?

/-- `evaluate`, at a reading of the clock. -/
def evaluate (sessions : Option Coordinator) (ledger : Compat.Ledger) (now : State.Status.Reading)
    (evidence : Evidence) : ReadinessVerdict :=
  let found := findings setting sessions ledger evidence
  let receipts := acceptedReceipts ledger
  { ready := found.blockers = []
    phase := evidence.phase
    blockers := found.blockers
    satisfied := found.satisfied
    advertisedEndpoint := evidence.advertisedEndpoint
    generation := setting.binding.generation
    deploymentPlanHash := setting.plan.deploymentPlanHash.val
    allocationBindingHash := setting.binding.allocationBindingHash
    missingIdentities := Compat.RawReceipt.sortedUnique found.missing
    unhealthyIdentities := Compat.RawReceipt.sortedUnique found.unhealthy
    receiptHashes := (receipts.map Compat.Receipt.receiptHash).insertionSort (· ≤ ·)
    modelMap := setting.plan.models.map fun model =>
      (model.modelId, {
        routeName := model.routeName
        expectedReplicas := model.numReplicas
        observedReplicas := (observedReplicas evidence model.modelId).1
        observedTarget := (observedReplicas evidence model.modelId).2 })
    capabilityMap := receipts.foldl (fun map receipt => map.insert receipt.componentId receipt.capabilities) .empty
    nodes := evidence.nodes.items
    proxies := evidence.proxies.items
    observedAt := now }

end Evaluate

section Phases

def enterValidating (evidence : Evidence) : Evidence :=
  if evidence.phase = .failed then evidence else { evidence with phase := .validating }

/-- The failure that came first is the one that is kept. -/
def firstOf (earlier : Option String) (reason : String) : Option String :=
  match earlier with
  | some first => if first = "" then some reason else some first
  | none => some reason

def revoke (evidence : Evidence) (reason : String) (gatewayDead : Bool) : Evidence :=
  if gatewayDead then { evidence with phase := .failed, firstFailure := firstOf evidence.firstFailure reason }
  else if evidence.phase = .ready then { evidence with phase := .validating }
  else evidence

def fail (evidence : Evidence) (reason : String) : Evidence :=
  { evidence with phase := .failed, firstFailure := firstOf evidence.firstFailure reason }

end Phases

end ExaServe.Control.Readiness
