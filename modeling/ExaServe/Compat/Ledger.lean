import ExaServe.Compat.Receipt
import ExaServe.Lib.Dict

namespace ExaServe.Compat

open Lib Plan Control

structure PatchSpec where
  patchId : String
  roles : List String
  capability : String
  required : Bool := true
  envGate : String := ""
  targetSourceHash : String
  patchArtifactHash : String
  deliveryArtifactHash : String

/-- The part of a compatibility profile that receipts are compared with. -/
structure CompatibilityProfile where
  python : String
  ray : String
  vllm : String
  mpi4py : String := ""
  patches : List PatchSpec
  vllmModelinfoSeedManifestHash : String := ""
  vllmModelinfoInstallerHash : String := ""
  vllmModelinfoSupportSources : List (String × String) := []
  vllmModelinfoSeeds : List (String × String × String) := []

namespace CompatibilityProfile

def capabilities (profile : CompatibilityProfile) : List String :=
  RawReceipt.sortedUnique ((profile.patches.map PatchSpec.capability).filter (· ≠ "") ++
    if profile.vllmModelinfoSeeds.isEmpty then [] else ["vllm_modelinfo_cache_seed"])

def requiredPatchIds (profile : CompatibilityProfile) (role : String) (open_ : String → Bool) : List String :=
  ((profile.patches.filter fun patch =>
    patch.required && patch.roles.contains role && (patch.envGate = "" || open_ patch.envGate)).map
      PatchSpec.patchId).insertionSort (· ≤ ·)

def gatedOut (profile : CompatibilityProfile) (role : String) (open_ : String → Bool) : List String :=
  ((profile.patches.filter fun patch =>
    patch.roles.contains role && patch.envGate ≠ "" && !open_ patch.envGate).map
      PatchSpec.patchId).insertionSort (· ≤ ·)

def expectedVersions (profile : CompatibilityProfile) : List (String × String) :=
  [("python", profile.python), ("ray", profile.ray), ("vllm", profile.vllm)] ++
    if profile.mpi4py = "" then [] else [("mpi4py", profile.mpi4py)]

def expectedSources (profile : CompatibilityProfile) : List (String × String) :=
  (profile.patches.flatMap fun patch =>
    [(s!"target:{patch.patchId}", patch.targetSourceHash),
      (s!"artifact:{patch.patchId}", patch.patchArtifactHash),
      (s!"delivery:{patch.patchId}", patch.deliveryArtifactHash)]) ++
  if profile.vllmModelinfoSeeds.isEmpty then []
  else
    [("vllm_modelinfo:manifest", profile.vllmModelinfoSeedManifestHash),
      ("vllm_modelinfo:installer", profile.vllmModelinfoInstallerHash)] ++
    (profile.vllmModelinfoSupportSources.map fun source => (s!"vllm_modelinfo:support:{source.1}", source.2)) ++
    profile.vllmModelinfoSeeds.flatMap fun seed =>
      [(s!"vllm_modelinfo:target:{seed.1}", seed.2.1), (s!"vllm_modelinfo:seed:{seed.1}", seed.2.2)]

end CompatibilityProfile

/-- One exactly planned process or actor; its identity is the slot. -/
structure ReceiptRequirement where
  receiptRequirementId : String
  role : String
  componentSlot : String
  ownerScope : OwnerScope
  plannedRank : Option Int
  attestationType : AttestationType := .self
  pinned_iff_rank : plannedRank.isSome = true ↔ ownerScope = .rank
  rank_nonneg : ∀ rank ∈ plannedRank, 0 ≤ rank
  supervised_global : attestationType = .supervisor → ownerScope = .global

structure ModelPlan where
  routeName : String
  pipelineParallelSize : Nat
  tensorParallelSize : Nat

/-- The part of a deployment plan that receipts are reconciled with. -/
structure ReceiptPlan where
  deploymentId : String
  deploymentPlanHash : String
  siteProfileHash : String
  compatibilityProfileHash : String
  manifestHash : String
  models : List ModelPlan
  numNodes : Nat
  receiptRequirements : List ReceiptRequirement
  slots_distinct : (receiptRequirements.map ReceiptRequirement.receiptRequirementId).Nodup
  ranks_planned : ∀ requirement ∈ receiptRequirements, ∀ rank ∈ requirement.plannedRank, rank < numNodes

def ppPatchGate : String := "EXASERVE_VLLM_PATCH_PP_LAYER_FILTER"

def rayWorkerPatchGate : String := "EXASERVE_VLLM_PATCH_RAY_WORKERS"

def multiprocWorkerPatchGate : String := "EXASERVE_VLLM_PATCH_MULTIPROC_WORKERS"

namespace ReceiptPlan

def requirementKeys (plan : ReceiptPlan) : List String :=
  plan.receiptRequirements.map ReceiptRequirement.receiptRequirementId

def requirementFor (plan : ReceiptPlan) (requirementId : String) : Option ReceiptRequirement :=
  plan.receiptRequirements.find? fun requirement => requirement.receiptRequirementId = requirementId

/-- The gates a set of models opens: pipeline layers and ray workers, and
    multiprocessing workers. -/
def openGates (models : List ModelPlan) (gate : String) : Bool :=
  if gate = ppPatchGate ∨ gate = rayWorkerPatchGate then
    models.any fun model => 1 < model.pipelineParallelSize
  else if gate = multiprocWorkerPatchGate then
    models.any fun model => model.pipelineParallelSize = 1 && 1 < model.tensorParallelSize
  else false

def servesModel (requirementId : String) (model : ModelPlan) : Bool :=
  (s!"model/{model.routeName}/replica/").toList.isPrefixOf requirementId.toList

/-- `_requirement_patch_environment`: which gates are open for one slot. -/
def requirementPatchEnvironment (plan : ReceiptPlan) (requirement : ReceiptRequirement) :
    Except ReceiptFailure (String → Bool) :=
  let requirementId := requirement.receiptRequirementId
  if ["replica", "engine_core", "engine_worker"].contains requirement.role then
    match plan.models.filter (servesModel requirementId) with
    | [model] => .ok (openGates [model])
    | matching =>
      .error (.receiptError
        s!"model receipt requirement {quotedText requirementId} maps to {matching.length} planned models")
  else .ok (openGates plan.models)

/-- The required and the excluded patches of one slot, as the head resolves them. -/
def patchRequirements (plan : ReceiptPlan) (profile : CompatibilityProfile) (requirementId : Json) :
    Except ReceiptFailure (List String × List String) :=
  let named := match requirementId with
    | .str text => plan.requirementFor text
    | _ => none
  match named with
  | none => .error (.receiptError s!"no planned receipt requirement {requirementId.reprText}")
  | some requirement => do
    let open_ ← plan.requirementPatchEnvironment requirement
    .ok (profile.requiredPatchIds requirement.role open_, profile.gatedOut requirement.role open_)

end ReceiptPlan

/-- What a ledger is built for: the constructor refuses a binding of another plan. -/
structure LedgerContext where
  plan : ReceiptPlan
  binding : AllocationBinding
  profile : CompatibilityProfile
  timestamp : String → Option Bool
  deployment_agrees : binding.deploymentId = plan.deploymentId
  plan_agrees : binding.deploymentPlanHash = plan.deploymentPlanHash
  site_agrees : binding.siteProfileHash = plan.siteProfileHash
  ranks_agree : binding.rankToNode.length = plan.numNodes

/-- A call of the durable binding store. -/
inductive StoreCall where
  | bindReceipt (receipt : Receipt)
  | revokeSlot (slot reason : String)
  deriving DecidableEq

/-- `ExactReceiptLedger`; `storeCalls` is absent in a ledger without a store. -/
structure Ledger where
  bySlot : Dict String Receipt := Dict.empty
  superseded : List String := []
  rejected : List (Json × String) := []
  storeCalls : Option (List StoreCall) := none

/-- Who submits a receipt. -/
structure Submission where
  sessionRank : Option Int := none
  sessionNode : Option String := none
  fromGlobalAuthority : Bool := false

namespace Ledger

variable (context : LedgerContext)

def find (entries : List (String × String)) (key : String) : Option String :=
  (entries.find? fun entry => entry.1 = key).map Prod.snd

def optionRepr : Option String → String
  | some text => quotedText text
  | none => "None"

/-- The repr of the mapping from a version's name to what was wanted and seen. -/
def versionsText (mismatched : List (String × String × Option String)) : String :=
  "\x7b" ++ ", ".intercalate (mismatched.map fun entry =>
    quotedText entry.1 ++ ": (" ++ quotedText entry.2.1 ++ ", " ++ optionRepr entry.2.2 ++ ")") ++ "\x7d"

def mismatches (expected observed : List (String × String)) : List (String × String × Option String) :=
  (expected.filter fun entry => find observed entry.1 ≠ some entry.2).map fun entry =>
    (entry.1, entry.2, find observed entry.1)

/-- Why the receipt's evidence does not match the plan, the profile or the binding. -/
def evidenceRefusal (receipt : Receipt) : Option String :=
  let plan := context.plan
  let versions := mismatches context.profile.expectedVersions receipt.observedVersions
  if receipt.deploymentPlanHash ≠ plan.deploymentPlanHash then
    some "deployment_plan_hash does not match the plan"
  else if receipt.deploymentId ≠ plan.deploymentId then some "deployment_id does not match the plan"
  else if receipt.siteProfileHash ≠ plan.siteProfileHash then
    some "site_profile_hash does not match the plan"
  else if receipt.compatibilityProfileHash ≠ plan.compatibilityProfileHash then
    some "compatibility_profile_hash does not match the plan"
  else if receipt.manifestHash ≠ plan.manifestHash then some "manifest_hash does not match the plan"
  else if versions ≠ [] then some s!"observed compatibility versions mismatch: {versionsText versions}"
  else if mismatches context.profile.expectedSources receipt.observedSourceHashes ≠ [] then
    some "observed compatibility source/artifact hashes mismatch"
  else if receipt.attestationType = .self ∧ receipt.capabilities ≠ context.profile.capabilities then
    some "capabilities do not match the compatibility profile"
  else if receipt.allocationBindingHash ≠ context.binding.allocationBindingHash then
    some "allocation_binding_hash is from another generation"
  else if receipt.generation ≠ context.binding.generation then
    some s!"stale generation {receipt.generation}"
  else none

/-- Why the receipt does not fit the slot it names. -/
def slotRefusal (slot : ReceiptRequirement) (receipt : Receipt) : Option String :=
  if slot.role ≠ receipt.role then
    some s!"role {quotedText receipt.role} != planned {quotedText slot.role}"
  else if slot.ownerScope ≠ receipt.ownerScope then some "owner_scope does not match the planned slot"
  else if slot.componentSlot ≠ receipt.componentId then
    some s!"component_id {quotedText receipt.componentId} != planned {quotedText slot.componentSlot}"
  else if slot.attestationType ≠ receipt.attestationType then
    some s!"attestation_type {quotedText receipt.attestationType.value} != planned {quotedText slot.attestationType.value}"
  else none

def rankText : Option Int → String
  | some rank => toString rank
  | none => "None"

/-- Why the submitter may not submit it: a rank only its own RANK receipts, GLOBAL
    only the supervisor's authority on the head node. -/
def authorityRefusal (slot : ReceiptRequirement) (submission : Submission) (receipt : Receipt) :
    Option String :=
  match receipt.ownerScope with
  | .global =>
    let headNode := context.binding.nodeFor 0
    if !submission.fromGlobalAuthority then
      some "GLOBAL receipts may enter only from the in-process supervisor authority"
    else if !headNode.any (sameNode · receipt.nodeId) then
      some s!"GLOBAL node_id {quotedText receipt.nodeId} is not allocation head {optionRepr headNode}"
    else none
  | .rank =>
    match submission.sessionRank with
    | none => some "RANK receipt without an authenticated session"
    | some rank =>
      let bound := context.binding.nodeFor rank
      if receipt.ownerRank ≠ some rank then
        some s!"owner_rank {rankText receipt.ownerRank} != authenticated rank {rank}"
      else if slot.plannedRank ≠ some rank then
        some s!"slot is planned for rank {rankText slot.plannedRank}, session is rank {rank}"
      else if bound.any fun node => !sameNode node receipt.nodeId then
        some s!"node_id {quotedText receipt.nodeId} != bound {optionRepr bound} for rank {rank}"
      else if submission.sessionNode.any fun node => !sameNode node receipt.nodeId then
        some "node_id does not match the session"
      else none

def planRefusal (submission : Submission) (receipt : Receipt) : Option String :=
  match evidenceRefusal context receipt with
  | some reason => some reason
  | none =>
    match context.plan.requirementFor receipt.receiptRequirementId with
    | none => some "no such planned receipt requirement"
    | some slot =>
      match slotRefusal slot receipt with
      | some reason => some reason
      | none => authorityRefusal context slot submission receipt

def callStore (ledger : Ledger) (call : StoreCall) : Ledger :=
  { ledger with storeCalls := ledger.storeCalls.map (· ++ [call]) }

def reject (ledger : Ledger) (requirementId : Json) (reason : String) : Ledger × (Bool × String) :=
  ({ ledger with rejected := ledger.rejected ++ [(requirementId, reason)] }, false, reason)

/-- Bind an admitted receipt to its slot. A newer instance supersedes. -/
def bindSlot (ledger : Ledger) (receipt : Receipt) : Ledger × (Bool × String) :=
  let bound (before : Ledger) : Ledger × (Bool × String) :=
    ({ before.callStore (.bindReceipt receipt) with
      bySlot := before.bySlot.insert receipt.slotKey receipt }, true, "accepted")
  match ledger.bySlot.get? receipt.slotKey with
  | none => bound ledger
  | some existing =>
    if existing.instanceId = receipt.instanceId then
      if existing.receiptHash = receipt.receiptHash then (ledger, true, "duplicate")
      else ledger.reject (.str receipt.receiptRequirementId) "conflicting duplicate for the same instance"
    else bound { ledger with superseded := ledger.superseded ++ [existing.instanceId] }

/-- The receipt as `_accept` reads it, or why it is malformed. -/
def readReceipt (raw : RawReceipt) : Except ReceiptFailure Receipt := do
  let (required, notRequired) ←
    context.plan.patchRequirements context.profile (raw.field "receipt_requirement_id")
  validateReceipt context.timestamp required notRequired raw

/-- `ExactReceiptLedger.accept`: validate, authorize, then bind to exactly one slot. -/
def accept (ledger : Ledger) (submission : Submission) (raw : RawReceipt) :
    Ledger × Except String (Bool × String) :=
  match readReceipt context raw with
  | .error (.typeError message) => (ledger, .error message)
  | .error (.receiptError message) =>
    let refused := ledger.reject (raw.field "receipt_requirement_id") message
    (refused.1, .ok refused.2)
  | .ok receipt =>
    match planRefusal context submission receipt with
    | some reason =>
      let refused := ledger.reject (.str receipt.receiptRequirementId) reason
      (refused.1, .ok refused.2)
    | none =>
      let result := ledger.bindSlot receipt
      (result.1, .ok result.2)

/-- A restart invalidates the slot's evidence until it re-attests. -/
def supersedeInstance (ledger : Ledger) (slot instanceId : String) : Ledger :=
  match ledger.bySlot.get? slot with
  | none => ledger
  | some current =>
    if current.instanceId = instanceId then
      { ledger.callStore (.revokeSlot slot "superseded") with
        bySlot := ledger.bySlot.erase slot
        superseded := ledger.superseded ++ [instanceId] }
    else ledger

def ownedBy (rank : Int) (receipt : Receipt) : Bool := receipt.ownerRank = some rank

def rankSlots (ledger : Ledger) (rank : Int) : List (String × Receipt) :=
  ledger.bySlot.entries.filter fun entry => ownedBy rank entry.2

/-- Losing a rank's session removes its evidence. -/
def dropRank (ledger : Ledger) (rank : Int) : Ledger :=
  (ledger.rankSlots rank).foldl (fun dropped entry =>
    { dropped.callStore (.revokeSlot entry.1 "rank lease lost") with bySlot := dropped.bySlot.erase entry.1 })
    ledger

/-- Accept one after the other, up to the first refusal. -/
def acceptAll (submission : Submission) : Ledger → List RawReceipt → Except String (Except String Ledger)
  | ledger, [] => .ok (.ok ledger)
  | ledger, raw :: rest =>
    match ledger.accept context submission raw with
    | (_, .error message) => .error message
    | (_, .ok (false, detail)) => .ok (.error detail)
    | (later, .ok (true, _)) => acceptAll submission later rest

/-- Build, but do not publish, a replacement of one rank's slots; the outer error
    is an exception, the inner one a refusal. -/
def stageRankSnapshot (ledger : Ledger) (rank : Int) (receipts : List RawReceipt) (sessionNode : String) :
    Except String (Except String Ledger) :=
  acceptAll context { sessionRank := some rank, sessionNode := some sessionNode }
    ({ ledger with storeCalls := none }.dropRank rank) receipts

def revokeCalls (before after : List (String × Receipt)) : List StoreCall :=
  (before.filter fun entry => entry.1 ∉ after.map Prod.fst).map fun entry =>
    .revokeSlot entry.1 "replacement snapshot removed slot"

def bindCalls (before after : List (String × Receipt)) : List StoreCall :=
  (after.filter fun entry =>
    (findEntry entry.1 before).all fun prior => prior.instanceId ≠ entry.2.instanceId).map fun entry =>
      .bindReceipt entry.2

/-- Publish a staged ledger as a whole. -/
def commitStaged (ledger candidate : Ledger) : Ledger :=
  let before := ledger.bySlot.entries
  let after := candidate.bySlot.entries
  { bySlot := candidate.bySlot
    superseded := candidate.superseded
    rejected := candidate.rejected
    storeCalls := ledger.storeCalls.map fun calls =>
      calls ++ revokeCalls before after ++ bindCalls before after }

/-- Publish only one rank's part of a staged ledger. -/
def commitRankSnapshot (ledger : Ledger) (rank : Int) (candidate : Ledger) : Ledger :=
  let before := ledger.rankSlots rank
  let after := candidate.rankSlots rank
  let cleared := before.foldl (fun slots entry => slots.erase entry.1) ledger.bySlot
  { bySlot := after.foldl (fun slots entry => slots.insert entry.1 entry.2) cleared
    superseded := candidate.superseded
    rejected := candidate.rejected
    storeCalls := ledger.storeCalls.map fun calls =>
      calls ++ revokeCalls before after ++ bindCalls before after }

/-- What a reconciliation with the plan reports. -/
structure Reconciliation where
  planned : Nat
  accepted : Nat
  missing : List String
  unexpected : List String
  superseded : Nat
  rejected : Nat
  deriving DecidableEq

/-- `satisfied`: exact set equality of the planned and the accepted slots. -/
def satisfied (ledger : Ledger) : Bool × Reconciliation :=
  let planned := context.plan.requirementKeys
  let accepted := ledger.bySlot.keys
  let missing := (planned.filter fun key => key ∉ accepted).insertionSort (· ≤ ·)
  let unexpected := (accepted.filter fun key => key ∉ planned).insertionSort (· ≤ ·)
  (missing.isEmpty && unexpected.isEmpty,
    { planned := planned.length, accepted := accepted.length, missing, unexpected
      superseded := ledger.superseded.length, rejected := ledger.rejected.length })

end Ledger

end ExaServe.Compat
