import Mathlib.Data.List.Dedup
import ExaServe.Control.Contracts

namespace ExaServe.Compat

open Lib Plan Control

/-- What the receipt checks raise: a `ReceiptError`, or a `TypeError` that escapes them. -/
inductive ReceiptFailure where
  | receiptError (message : String)
  | typeError (message : String)
  deriving DecidableEq

inductive PatchStatus where
  | applied
  | notRequired
  | failed
  deriving DecidableEq, Repr

def PatchStatus.value : PatchStatus → String
  | applied => "APPLIED"
  | notRequired => "NOT_REQUIRED"
  | failed => "FAILED"

def PatchStatus.ofValue (text : String) : Option PatchStatus :=
  [applied, notRequired, failed].find? fun status => status.value = text

inductive AttestationType where
  | self
  | supervisor
  deriving DecidableEq, Repr

def AttestationType.value : AttestationType → String
  | self => "SELF"
  | supervisor => "SUPERVISOR"

def AttestationType.ofValue (text : String) : Option AttestationType :=
  [self, supervisor].find? fun attestation => attestation.value = text

structure PatchResult where
  status : PatchStatus
  postconditionPassed : Bool
  evidenceHash : Option String
  deriving DecidableEq

/-- The pattern `^[0-9a-f]{64}$`, whose end also matches before a final newline. -/
def matchesSha256 (text : String) : Bool :=
  isSha256Hex text || (text.toList.getLast? = some '\n' && isSha256Hex (String.ofList text.toList.dropLast))

def unhashable : Json → Option String
  | .arr _ => some "unhashable type: 'list'"
  | .obj _ => some "unhashable type: 'dict'"
  | _ => none

/-- How an f-string shows a value. -/
def shownText : Json → String
  | .str text => text
  | value => value.reprText

def namesText (names : List String) : String :=
  Json.reprText (.arr ((names.insertionSort (· ≤ ·)).map .str))

def requireSha (name : String) : Json → Except ReceiptFailure String
  | .str text =>
    if matchesSha256 text then .ok text
    else .error (.receiptError s!"{name} must be a lowercase sha256 hex digest, got {quotedText text}")
  | value => .error (.receiptError s!"{name} must be a lowercase sha256 hex digest, got {value.reprText}")

def requireOptionalSha (name : String) : Json → Except ReceiptFailure (Option String)
  | .null => .ok none
  | value => (requireSha name value).map some

/-- Truth of a decoded value. -/
def truthy : Json → Bool
  | .null => false
  | .bool value => value
  | .int value => value ≠ 0
  | .float value => value.value ≠ 0
  | .str text => text ≠ ""
  | .arr items => !items.isEmpty
  | .obj fields => !fields.isEmpty

/-- `value in {...}` for a set of texts, naming the member. -/
def memberOf {β : Type} (ofValue : String → Option β) (error : String) : Json → Except ReceiptFailure β
  | .str text =>
    match ofValue text with
    | some member => .ok member
    | none => .error (.receiptError error)
  | value =>
    match unhashable value with
    | some message => .error (.typeError message)
    | none => .error (.receiptError error)

def patchFields : List String := ["status", "postcondition_passed", "evidence_hash"]

/-- `PatchResult(**value)` with the checks of its `__post_init__`. -/
def patchResult (value : List (String × Json)) : Except ReceiptFailure PatchResult := do
  let field (name : String) : Json := (Json.lookup name value).getD .null
  let named := field "status"
  let status ← memberOf PatchStatus.ofValue s!"patch status {named.reprText} unknown" named
  if status = .applied ∧ truthy (field "postcondition_passed") = false then
    .error (.receiptError "APPLIED requires a true semantic postcondition")
  else match field "postcondition_passed" with
    | .bool passed => do
      let evidenceHash ← requireOptionalSha "evidence_hash" (field "evidence_hash")
      .ok { status, postconditionPassed := passed, evidenceHash }
    | _ => .error (.receiptError "postcondition_passed must be a boolean")

/-- A rehydrated receipt: its payload, with the patch results already built. The
    other fields are as they came; `validateReceipt` reads them. -/
structure RawReceipt where
  data : List (String × Json)
  patchResults : List (String × PatchResult)

namespace RawReceipt

def field (raw : RawReceipt) (name : String) : Json := (Json.lookup name raw.data).getD .null

def fields : List String :=
  ["schema_version", "deployment_id", "generation", "deployment_plan_hash", "site_profile_hash",
    "allocation_binding_hash", "compatibility_profile_hash", "manifest_hash", "receipt_requirement_id",
    "role", "component_id", "instance_id", "owner_scope", "owner_rank", "node_id", "pid", "actor_id",
    "executable_hash", "argv_hash", "prepared_environment_hash", "observed_versions",
    "observed_package_hashes", "observed_source_hashes", "patch_results", "capabilities",
    "attestation_type", "attested_at", "receipt_hash"]

end RawReceipt

def shapeMismatch (expected : List String) (data : List (String × Json)) : String :=
  let unknown := namesText ((Json.fieldNames data).filter fun name => name ∉ expected)
  let missing := namesText (expected.filter fun name => name ∉ Json.fieldNames data)
  s!"shape mismatch: unknown={unknown}, missing={missing}"

def buildPatches : List (String × Json) → Except ReceiptFailure (List (String × PatchResult))
  | [] => .ok []
  | (key, .obj value) :: rest =>
    if !Json.sameNames value patchFields then
      .error (.typeError (s!"patch_results.{key} " ++ shapeMismatch patchFields value))
    else do
      let patch ← patchResult value
      let later ← buildPatches rest
      .ok ((key, patch) :: later)
  | _ :: _ => .error (.typeError "patch_results must be map<string,object>")

def requireMaps (data : List (String × Json)) : List String → Except ReceiptFailure Unit
  | [] => .ok ()
  | name :: rest =>
    match Json.lookup name data with
    | some (.obj _) => requireMaps data rest
    | _ => .error (.typeError s!"{name} must be a map")

def rehydrate (data : List (String × Json)) : Except ReceiptFailure RawReceipt :=
  match Json.lookup "patch_results" data with
  | some (.obj patches) => do
    let patchResults ← buildPatches patches
    requireMaps data ["observed_versions", "observed_package_hashes", "observed_source_hashes"]
    match Json.lookup "capabilities" data with
    | some (.arr _) => .ok { data, patchResults }
    | _ => .error (.typeError "capabilities must be a JSON array")
  | _ => .error (.typeError "patch_results must be a map")

/-- Inside the `try`, every `TypeError` and `ValueError` becomes a `ReceiptError`. -/
def payloadInvalid : ReceiptFailure → ReceiptFailure
  | .receiptError message => .receiptError s!"receipt payload invalid: {message}"
  | .typeError message => .receiptError s!"receipt payload invalid: {message}"

/-- `receipt_from_dict`. A version-1 payload fails closed here. -/
def receiptFromDict (data : List (String × Json)) : Except ReceiptFailure RawReceipt :=
  let version := (Json.lookup "schema_version" data).getD .null
  let current := match version with
    | .bool _ => false
    | value => Json.pyEq value (.int 2)
  if !current then
    .error (.receiptError
      s!"receipt schema_version {shownText version} rejected; version-1 role-only receipts are not permissively upgraded")
  else if !Json.sameNames data RawReceipt.fields then
    .error (.receiptError ("receipt payload " ++ shapeMismatch RawReceipt.fields data))
  else (rehydrate data).mapError payloadInvalid

/-- A receipt that passed `validate_receipt`. -/
structure Receipt where
  deploymentId : String
  generation : Int
  deploymentPlanHash : String
  siteProfileHash : String
  allocationBindingHash : String
  compatibilityProfileHash : String
  manifestHash : String
  receiptRequirementId : String
  role : String
  componentId : String
  instanceId : String
  ownerScope : OwnerScope
  ownerRank : Option Int
  nodeId : String
  pid : Option Int
  actorId : Option String
  executableHash : String
  argvHash : Option String
  preparedEnvironmentHash : String
  observedVersions : List (String × String)
  observedPackageHashes : List (String × String)
  observedSourceHashes : List (String × String)
  patchResults : List (String × PatchResult)
  capabilities : List String
  attestationType : AttestationType
  attestedAt : String
  receiptHash : String
  deriving DecidableEq

def Receipt.slotKey (receipt : Receipt) : String := receipt.receiptRequirementId

namespace RawReceipt

def sortedUnique (texts : List String) : List String := (texts.insertionSort (· ≤ ·)).dedup

theorem mem_sortedUnique {text : String} {texts : List String} : text ∈ sortedUnique texts ↔ text ∈ texts := by
  rw [sortedUnique, List.mem_dedup, List.mem_insertionSort]

/-- Texts in strictly increasing order are sorted and unique. -/
theorem sortedUnique_of_lt {texts : List String} (increasing : texts.Pairwise (· < ·)) :
    sortedUnique texts = texts := by
  have sorted : texts.insertionSort (· ≤ ·) = texts := by
    apply List.Pairwise.insertionSort_eq
    exact increasing.imp le_of_lt
  rw [sortedUnique, sorted]
  exact List.dedup_eq_self.mpr (increasing.imp ne_of_lt)

def texts? : List Json → Option (List String)
  | [] => some []
  | .str text :: rest => (texts? rest).map (text :: ·)
  | _ :: _ => none

/-- The fields as `canonical` hashes them, without the hash itself. -/
def canonicalField (field : String × Json) : String × Json :=
  if field.1 = "schema_version" then (field.1, .int 2)
  else if field.1 = "capabilities" then
    match field.2 with
    | .arr items => (field.1, .arr (((texts? items).map fun texts => (sortedUnique texts).map .str).getD items))
    | value => (field.1, value)
  else field

def canonical (raw : RawReceipt) : Json :=
  .obj ((raw.data.filter fun field => field.1 ≠ "receipt_hash").map canonicalField)

def computeHash (raw : RawReceipt) : String := canonicalHash raw.canonical

def requireText (raw : RawReceipt) (name : String) : Except ReceiptFailure String :=
  match raw.field name with
  | .str text =>
    if text = "" then .error (.receiptError s!"{name} must be a non-empty string") else .ok text
  | _ => .error (.receiptError s!"{name} must be a non-empty string")

def requireGeneration (raw : RawReceipt) : Except ReceiptFailure Int :=
  match raw.field "generation" with
  | .int value =>
    if value < 0 then .error (.receiptError "generation must be non-negative") else .ok value
  | _ => .error (.receiptError "generation must be non-negative")

def requireOwnerRank (raw : RawReceipt) : OwnerScope → Except ReceiptFailure (Option Int)
  | .global =>
    match raw.field "owner_rank" with
    | .null => .ok none
    | _ => .error (.receiptError "owner_rank must be null exactly for GLOBAL")
  | .rank =>
    match raw.field "owner_rank" with
    | .int rank =>
      if rank < 0 then .error (.receiptError "RANK receipts require a non-negative owner_rank")
      else .ok (some rank)
    | _ => .error (.receiptError "RANK receipts require a non-negative owner_rank")

def requirePid (raw : RawReceipt) : Except ReceiptFailure (Option Int) :=
  match raw.field "pid" with
  | .null =>
    if truthy (raw.field "actor_id") then .ok none
    else .error (.receiptError "at least one of pid or actor_id must be present")
  | .int pid =>
    if pid ≤ 0 then .error (.receiptError "pid must be a positive integer when present") else .ok (some pid)
  | _ => .error (.receiptError "pid must be a positive integer when present")

def requireActorId (raw : RawReceipt) : Except ReceiptFailure (Option String) :=
  match raw.field "actor_id" with
  | .null => .ok none
  | .str text =>
    if text = "" then .error (.receiptError "actor_id must be null or a non-empty string")
    else .ok (some text)
  | _ => .error (.receiptError "actor_id must be null or a non-empty string")

/-- A map from text to text; with `digests` its values are digests. -/
def requireTexts (name : String) (digests : Bool) :
    List (String × Json) → Except ReceiptFailure (List (String × String))
  | [] => .ok []
  | (key, .str value) :: rest =>
    if key = "" then .error (.receiptError s!"{name} must be map<string,string>")
    else if digests then do
      let digest ← requireSha s!"{name}.{key}" (.str value)
      let later ← requireTexts name digests rest
      .ok ((key, digest) :: later)
    else do
      let later ← requireTexts name digests rest
      .ok ((key, value) :: later)
  | _ :: _ => .error (.receiptError s!"{name} must be map<string,string>")

def requireMap (raw : RawReceipt) (name : String) (digests : Bool) :
    Except ReceiptFailure (List (String × String)) :=
  match raw.field name with
  | .obj values => requireTexts name digests values
  | _ => .error (.receiptError s!"{name} must be a map")

def requireCapabilities (raw : RawReceipt) : Except ReceiptFailure (List String) :=
  let refused : ReceiptFailure := .receiptError "capabilities must be a sorted unique list of strings"
  match raw.field "capabilities" with
  | .arr items =>
    match texts? items with
    | some texts => if texts.all (· ≠ "") && sortedUnique texts = texts then .ok texts else .error refused
    | none => .error refused
  | _ => .error refused

def failedPatch (result : PatchResult) : Bool :=
  result.status = .failed || !(result.postconditionPassed || result.status = .notRequired)

/-- Why the patch results do not prove what the slot's resolved manifest requires. -/
def patchRefusal (required notRequired : List String) (role : String)
    (results : List (String × PatchResult)) : Option String :=
  let named := results.map Prod.fst
  let unknown := sortedUnique (named.filter fun key => key ∉ required ∧ key ∉ notRequired)
  let missing := sortedUnique (required.filter fun key => key ∉ named)
  let failed := ((results.filter fun result => failedPatch result.2).map Prod.fst).insertionSort (· ≤ ·)
  let bogus := ((results.filter fun result =>
    result.2.status = .notRequired ∧ result.1 ∈ required ∧ result.1 ∉ notRequired).map
      Prod.fst).insertionSort (· ≤ ·)
  if "" ∈ named then some "patch_results keys must be non-empty strings"
  else if unknown ≠ [] then some s!"unknown patch key(s): {namesText unknown}"
  else if missing ≠ [] then some s!"missing required patch key(s): {namesText missing}"
  else if failed ≠ [] then some s!"failed patch(es): {namesText failed}"
  else if bogus ≠ [] then
    some s!"patch(es) {namesText bogus} are targeted at role {quotedText role} by the resolved manifest and cannot be reported NOT_REQUIRED"
  else none

def digestStart (digest : String) : String := String.ofList (digest.toList.take 12)

end RawReceipt

open RawReceipt in
/-- `validate_receipt` with its strict hash check, in the order of the source;
    `timestamp` says whether `datetime` reads a text, and whether as a UTC time. -/
def validateReceipt (timestamp : String → Option Bool) (required notRequired : List String)
    (raw : RawReceipt) : Except ReceiptFailure Receipt := do
  let deploymentId ← raw.requireText "deployment_id"
  let receiptRequirementId ← raw.requireText "receipt_requirement_id"
  let role ← raw.requireText "role"
  let componentId ← raw.requireText "component_id"
  let instanceId ← raw.requireText "instance_id"
  let nodeId ← raw.requireText "node_id"
  let attestedAt ← raw.requireText "attested_at"
  let generation ← raw.requireGeneration
  let deploymentPlanHash ← requireSha "deployment_plan_hash" (raw.field "deployment_plan_hash")
  let siteProfileHash ← requireSha "site_profile_hash" (raw.field "site_profile_hash")
  let allocationBindingHash ← requireSha "allocation_binding_hash" (raw.field "allocation_binding_hash")
  let compatibilityProfileHash ←
    requireSha "compatibility_profile_hash" (raw.field "compatibility_profile_hash")
  let manifestHash ← requireSha "manifest_hash" (raw.field "manifest_hash")
  let executableHash ← requireSha "executable_hash" (raw.field "executable_hash")
  let preparedEnvironmentHash ←
    requireSha "prepared_environment_hash" (raw.field "prepared_environment_hash")
  let argvHash ← requireOptionalSha "argv_hash" (raw.field "argv_hash")
  let receiptHash ← requireSha "receipt_hash" (raw.field "receipt_hash")
  let scope := raw.field "owner_scope"
  let ownerScope ← memberOf OwnerScope.ofValue s!"owner_scope {scope.reprText} invalid" scope
  let ownerRank ← raw.requireOwnerRank ownerScope
  let pid ← raw.requirePid
  let actorId ← raw.requireActorId
  let attestation := raw.field "attestation_type"
  let attestationType ←
    memberOf AttestationType.ofValue s!"attestation_type {attestation.reprText} invalid" attestation
  let observedVersions ← raw.requireMap "observed_versions" false
  let observedPackageHashes ← raw.requireMap "observed_package_hashes" true
  let observedSourceHashes ← raw.requireMap "observed_source_hashes" true
  let capabilities ← raw.requireCapabilities
  match timestamp attestedAt with
  | none => .error (.receiptError "attested_at must be an RFC3339 timestamp")
  | some false => .error (.receiptError "attested_at must be an RFC3339 UTC timestamp")
  | some true =>
    match patchRefusal required notRequired role raw.patchResults with
    | some reason => .error (.receiptError reason)
    | none =>
      if receiptHash ≠ raw.computeHash then
        let declared := digestStart receiptHash
        let computed := digestStart raw.computeHash
        .error (.receiptError s!"receipt_hash mismatch: declared {declared}, computed {computed}")
      else
        .ok { deploymentId, generation, deploymentPlanHash, siteProfileHash, allocationBindingHash
              compatibilityProfileHash, manifestHash, receiptRequirementId, role, componentId, instanceId
              ownerScope, ownerRank, nodeId, pid, actorId, executableHash, argvHash
              preparedEnvironmentHash, observedVersions, observedPackageHashes, observedSourceHashes
              patchResults := raw.patchResults, capabilities, attestationType, attestedAt, receiptHash }

end ExaServe.Compat
