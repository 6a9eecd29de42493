import ExaServe.Lib.Except
import ExaServe.Lib.Value
import ExaServe.Plan.Sections
import Mathlib.Data.Finset.Basic

namespace ExaServe.Telemetry

open Lib Plan Control

/-- A `TelemetryContractError`, or another exception that escapes the checks. -/
inductive Failure where
  | contract (message : String)
  | other (type message : String)
  deriving DecidableEq

def schemaVersion : Int := 1

def maxEnvelopeBytes : Nat := 2 * 1024 * 1024

def maxSamplesPerReplica : Nat := 10000

def maxInitPayloadBytes : Nat := 256 * 1024

def require (fact : Prop) [Decidable fact] (message : String) : Except Failure Unit :=
  if fact then .ok () else .error (.contract message)

theorem require_ok {fact : Prop} [Decidable fact] {message : String} {done : Unit}
    (passed : require fact message = .ok done) : fact := by
  unfold require at passed
  split_ifs at passed with holds
  exact holds

theorem require_of {fact : Prop} [Decidable fact] (holds : fact) (message : String) :
    require fact message = .ok () := if_pos holds

def text? : Value → Option String
  | .str text => some text
  | _ => none

def count? : Value → Option Nat
  | .int (.ofNat count) => some count
  | _ => none

def digest? : Value → Option Digest
  | .str text => if valid : isSha256Hex text = true then some ⟨text, valid⟩ else none
  | _ => none

/-- The value, where it is there and satisfies the condition. -/
def expect {α : Type} (found : Option α) (fits : α → Prop) [DecidablePred fits] (message : String) :
    Except Failure α :=
  match found with
  | some value => if fits value then .ok value else .error (.contract message)
  | none => .error (.contract message)

theorem expect_ok {α : Type} {found : Option α} {fits : α → Prop} [DecidablePred fits] {message : String} {value : α}
    (read : expect found fits message = .ok value) : found = some value ∧ fits value := by
  unfold expect at read
  split at read
  · split_ifs at read with held
    cases read
    exact ⟨rfl, held⟩
  · cases read

section Identity

/-- The generation a report belongs to. -/
structure TelemetryIdentity where
  deploymentId : Text
  generation : Nat
  deploymentPlanHash : Digest
  allocationBindingHash : Digest
  deriving DecidableEq

def identityFields : List String :=
  ["deployment_id", "generation", "deployment_plan_hash", "allocation_binding_hash"]

/-- `TelemetryIdentity(...)` on whatever values a payload has. -/
def makeIdentity (fields : List (String × Value)) : Except Failure TelemetryIdentity := do
  let field := Value.field fields
  let deploymentId ← expect (text? (field "deployment_id")) (· ≠ "") "telemetry deployment_id is required"
  let generation ← expect (count? (field "generation")) (fun _ => True) "telemetry generation is invalid"
  let planHash ← expect (digest? (field "deployment_plan_hash")) (fun _ => True)
    "telemetry deployment_plan_hash is not SHA-256"
  let bindingHash ← expect (digest? (field "allocation_binding_hash")) (fun _ => True)
    "telemetry allocation_binding_hash is not SHA-256"
  if named : deploymentId ≠ "" then
    .ok ⟨⟨deploymentId, named⟩, generation, planHash, bindingHash⟩
  else .error (.contract "telemetry deployment_id is required")

def TelemetryIdentity.toDict (identity : TelemetryIdentity) : List (String × Value) :=
  [("deployment_id", .str identity.deploymentId.val), ("generation", .int identity.generation),
    ("deployment_plan_hash", .str identity.deploymentPlanHash.val),
    ("allocation_binding_hash", .str identity.allocationBindingHash.val)]

theorem digest?_str (digest : Digest) : digest? (.str digest.val) = some digest := by
  simp only [digest?, digest.property, dif_pos]

/-- An identity is read from any fields that say it. -/
theorem makeIdentity_of {fields : List (String × Value)} (identity : TelemetryIdentity)
    (said : ∀ name ∈ identityFields, Value.field fields name = Value.field identity.toDict name) :
    makeIdentity fields = .ok identity := by
  have deployment := said "deployment_id" (by decide)
  have generation := said "generation" (by decide)
  have planned := said "deployment_plan_hash" (by decide)
  have bound := said "allocation_binding_hash" (by decide)
  have first : expect (text? (Value.field fields "deployment_id")) (· ≠ "") "telemetry deployment_id is required" =
      .ok identity.deploymentId.val := by
    rw [deployment]
    exact if_pos identity.deploymentId.property
  have second : expect (count? (Value.field fields "generation")) (fun _ => True) "telemetry generation is invalid" =
      .ok identity.generation := by
    rw [generation]
    rfl
  have third : expect (digest? (Value.field fields "deployment_plan_hash")) (fun _ => True)
      "telemetry deployment_plan_hash is not SHA-256" = .ok identity.deploymentPlanHash := by
    rw [planned, show Value.field identity.toDict "deployment_plan_hash" = .str identity.deploymentPlanHash.val from rfl,
      digest?_str]
    rfl
  have fourth : expect (digest? (Value.field fields "allocation_binding_hash")) (fun _ => True)
      "telemetry allocation_binding_hash is not SHA-256" = .ok identity.allocationBindingHash := by
    rw [bound, show Value.field identity.toDict "allocation_binding_hash" = .str identity.allocationBindingHash.val from rfl,
      digest?_str]
    rfl
  unfold makeIdentity
  dsimp only
  rw [ok_bind first, ok_bind second, ok_bind third, ok_bind fourth, dif_pos identity.deploymentId.property]

end Identity

section Checks

def requireSchema (value : Value) (message : String) : Except Failure Unit :=
  match value with
  | .int version => require (version = schemaVersion) message
  | _ => .error (.contract message)

/-- `float(value)` of an integer beyond the doubles is an `OverflowError`. -/
def finite (value : Value) (fits : ℚ → Prop) [DecidablePred fits] (message : String) : Except Failure Unit :=
  match value with
  | .int value =>
    if floatLimit ≤ |(value : ℚ)| then .error (.other "OverflowError" "int too large to convert to float")
    else require (fits value) message
  | .float value => require (|value.value| < floatLimit ∧ fits value.value) message
  | _ => .error (.contract message)

/-- `observed_at`: a finite time after the epoch. -/
def requireObserved (value : Value) (message : String) : Except Failure Unit :=
  finite value (fun time => 0 < time) message

def finiteNumber (value : Value) (name : String) : Except Failure Unit :=
  finite value (fun number => 0 ≤ number) s!"{name} must be a finite nonnegative number"

def nullableNumber (value : Value) (name : String) : Except Failure Unit :=
  match value with
  | .none => .ok ()
  | value => finiteNumber value name

def positiveInt? : Value → Option Int
  | .int value => if 0 < value then some value else none
  | _ => none

/-- A non-empty text of at most 256 characters. -/
def boundedText (value : Value) (message : String) : Except Failure String :=
  expect (text? value) (fun text => text ≠ "" ∧ text.length ≤ 256) message

def shaped (value : Value) (expected : List String) (message : String) : Except Failure (List (String × Value)) :=
  match Value.shaped? value expected with
  | some fields => .ok fields
  | none => .error (.contract message)

theorem shaped_ok {value : Value} {expected : List String} {message : String} {fields : List (String × Value)}
    (read : shaped value expected message = .ok fields) : Value.shaped? value expected = some fields := by
  unfold shaped at read
  split at read
  · cases read
    assumption
  · cases read

def hasKey (name : String) : Value → Bool
  | .dict entries => entries.any fun entry => match entry.1 with
    | .str key => key = name
    | _ => false
  | _ => false

/-- The value under a text, whatever the other keys are. -/
def valueOf (name : String) : List (Value × Value) → Value
  | [] => .none
  | (.str key, value) :: rest => if key = name then value else valueOf name rest
  | _ :: rest => valueOf name rest

def statistics : List String := ["mean", "p50", "p90", "p99", "max"]

def validateDistribution (value : Value) (name : String) : Except Failure Unit :=
  match value with
  | .dict entries => do
    require (hasKey "n" value = true) s!"{name} must be a distribution object"
    let count ← expect (count? (valueOf "n" entries)) (fun _ => True) s!"{name}.n is invalid"
    let shown := if count = 0 then [] else statistics
    let fields ← shaped value ("n" :: shown) s!"{name} distribution fields are invalid"
    shown.forM fun field => finiteNumber (Value.field fields field) s!"{name}.{field}"
  | _ => .error (.contract s!"{name} must be a distribution object")

def distributions : List String := ["server_ttft", "server_tbt", "e2e", "queued_time", "prefill_time", "decode_time"]

def summaryFields : List String :=
  "total_requests" :: distributions ++ ["mean_batch_size", "max_batch_size", "kv_cache_peak"]

def validateSummary (value : Value) : Except Failure Unit := do
  let fields ← shaped value summaryFields "serving stats summary shape mismatch"
  let _ ← expect (count? (Value.field fields "total_requests")) (fun _ => True)
    "serving stats total_requests is invalid"
  distributions.forM fun field => validateDistribution (Value.field fields field) s!"summary.{field}"
  ["mean_batch_size", "kv_cache_peak"].forM fun field => finiteNumber (Value.field fields field) s!"summary.{field}"
  let _ ← expect (count? (Value.field fields "max_batch_size")) (fun _ => True)
    "summary.max_batch_size must be a nonnegative integer"

def sampleFields : List String := ["finished_at", "ttft", "tbt", "e2e"]

def validateSampleItem (entry : Value × Nat) : Except Failure Unit := do
  let index := entry.2
  let fields ← shaped entry.1 sampleFields s!"serving stats sample[{index}] shape mismatch"
  finiteNumber (Value.field fields "finished_at") s!"sample[{index}].finished_at"
  finiteNumber (Value.field fields "ttft") s!"sample[{index}].ttft"
  nullableNumber (Value.field fields "tbt") s!"sample[{index}].tbt"
  finiteNumber (Value.field fields "e2e") s!"sample[{index}].e2e"

def validateSample : Value → Except Failure Unit
  | .list items => do
    require (items.length ≤ maxSamplesPerReplica) "serving stats sample is invalid or unbounded"
    items.zipIdx.forM validateSampleItem
  | _ => .error (.contract "serving stats sample is invalid or unbounded")

end Checks

section Serving

def servingFields : List String :=
  "schema_version" :: identityFields ++ ["replica_id", "sequence", "observed_at", "payload"]

def payloadFields : List String := ["model_id", "node_ip", "pid", "summary", "sample"]

/-- What a store reads of an envelope that passed its checks. -/
structure ServingReading where
  identity : TelemetryIdentity
  replicaId : String
  sequence : Nat
  deriving DecidableEq

def validatePayload (isAddress : String → Bool) (payload : Value) : Except Failure Unit := do
  let fields ← shaped payload payloadFields "serving stats payload shape mismatch"
  let _ ← expect (text? (Value.field fields "model_id")) (· ≠ "") "serving stats model_id is invalid"
  let nodeIp ← expect (text? (Value.field fields "node_ip")) (· ≠ "") "serving stats node_ip is invalid"
  require (isAddress nodeIp = true) "serving stats node_ip is not an IP address"
  let _ ← expect (positiveInt? (Value.field fields "pid")) (fun _ => True) "serving stats pid is invalid"
  validateSummary (Value.field fields "summary")
  validateSample (Value.field fields "sample")

/-- `validate_serving_envelope`; `isAddress` is whether `ipaddress` reads a text. -/
def validateServingEnvelope (isAddress : String → Bool) (raw : Value) : Except Failure ServingReading := do
  let fields ← shaped raw servingFields "serving stats envelope shape mismatch"
  requireSchema (Value.field fields "schema_version") "unsupported serving stats schema"
  let identity ← makeIdentity fields
  let replicaId ← boundedText (Value.field fields "replica_id") "serving stats replica_id is invalid"
  let sequence ← expect (count? (Value.field fields "sequence")) (fun _ => True) "serving stats sequence is invalid"
  requireObserved (Value.field fields "observed_at") "serving stats observed_at is invalid"
  validatePayload isAddress (Value.field fields "payload")
  let printed ← expect raw.json? (fun _ => True) "serving stats payload is not finite JSON"
  require ((Json.dumps printed).length ≤ maxEnvelopeBytes)
    s!"serving stats envelope exceeds {maxEnvelopeBytes} bytes"
  .ok { identity, replicaId, sequence }

/-- `serving_envelope`, at a reading of the clock. -/
def servingEnvelope (identity : TelemetryIdentity) (replicaId : String) (sequence : Nat) (observedAt : FloatText)
    (modelId nodeIp : String) (pid : Int) (summary sample : Value) : Value :=
  .ofFields ([("schema_version", Value.int schemaVersion)] ++ identity.toDict ++
    [("replica_id", Value.str replicaId), ("sequence", .int sequence), ("observed_at", .float observedAt),
      ("payload", .ofFields [("model_id", .str modelId), ("node_ip", .str nodeIp), ("pid", .int pid),
        ("summary", summary), ("sample", sample)])])

end Serving

section Init

def initFields : List String := "schema_version" :: identityFields ++ ["replica_id", "observed_at", "payload"]

/-- The payload of an init envelope, with the replica it is about. -/
structure InitReading where
  identity : TelemetryIdentity
  replicaId : String
  payload : Value

def isDict : Value → Bool
  | .dict _ => true
  | _ => false

def requireEncodable (payload : Value) (subject : String) : Except Failure Unit := do
  let printed ← expect payload.json? (fun _ => True) s!"{subject} is not finite JSON"
  require ((Json.dumps printed).length ≤ maxInitPayloadBytes) s!"{subject} is too large"

/-- The checks of `ReplicaInitStatsStore.report` that need no state but the identity. -/
def validateInitEnvelope (own : TelemetryIdentity) (raw : Value) : Except Failure InitReading := do
  let fields ← shaped raw initFields "replica init envelope shape mismatch"
  requireSchema (Value.field fields "schema_version") "unsupported replica init schema"
  let identity ← makeIdentity fields
  require (identity = own) "stale or foreign telemetry identity"
  let replicaId ← boundedText (Value.field fields "replica_id") "replica init replica_id is invalid"
  requireObserved (Value.field fields "observed_at") "replica init observed_at is invalid"
  let payload := Value.field fields "payload"
  require (isDict payload = true) "replica init payload must be an object"
  requireEncodable payload "replica init payload"
  .ok { identity, replicaId, payload }

end Init

section Lifecycle

inductive LifecycleEvent where
  | started | stopped | failed
  deriving DecidableEq, Repr

def LifecycleEvent.value : LifecycleEvent → String
  | started => "STARTED"
  | stopped => "STOPPED"
  | failed => "FAILED"

def LifecycleEvent.ofValue (text : String) : Option LifecycleEvent :=
  [started, stopped, failed].find? fun event => event.value = text

def lifecycleFields : List String :=
  "schema_version" :: identityFields ++
    ["component_id", "instance_id", "event", "model_id", "node_id", "pid", "observed_at", "detail"]

/-- What a store reads of a lifecycle event that passed its checks. -/
structure LifecycleReading where
  identity : TelemetryIdentity
  componentId : String
  instanceId : String
  event : LifecycleEvent
  deriving DecidableEq

/-- `value in set`; a list or a dictionary has no hash. -/
def member {α : Type} (ofText : String → Option α) (value : Value) (message : String) : Except Failure α :=
  match value with
  | .str text => expect (ofText text) (fun _ => True) message
  | .list _ => .error (.other "TypeError" "unhashable type: 'list'")
  | .dict _ => .error (.other "TypeError" "unhashable type: 'dict'")
  | _ => .error (.contract message)

def requireDetail (value : Value) (message : String) : Except Failure Unit := do
  let _ ← expect (text? value) (fun text => text.length ≤ 400) message

/-- The checks of a lifecycle event, under the name its reader gives it. The store asks for the
    identity before the component, the validator of a snapshot for both at once. -/
def validateLifecycleEvent (subject schema foreign unplanned : String) (own : TelemetryIdentity) (expected : Finset String)
    (raw : Value) : Except Failure LifecycleReading := do
  let fields ← shaped raw lifecycleFields s!"lifecycle {subject}event shape mismatch"
  requireSchema (Value.field fields "schema_version") schema
  let identity ← makeIdentity fields
  require (identity = own) foreign
  let componentId ← member (fun text => if text ∈ expected then some text else none)
    (Value.field fields "component_id") unplanned
  let instanceId ← boundedText (Value.field fields "instance_id") s!"lifecycle {subject}instance_id is invalid"
  ["model_id", "node_id"].forM fun name => do
    let _ ← boundedText (Value.field fields name) s!"lifecycle {subject}{name} is invalid"
  let event ← member LifecycleEvent.ofValue (Value.field fields "event") s!"lifecycle {subject}event is invalid"
  let _ ← expect (positiveInt? (Value.field fields "pid")) (fun _ => True) s!"lifecycle {subject}pid is invalid"
  requireObserved (Value.field fields "observed_at") s!"lifecycle {subject}observed_at is invalid"
  requireDetail (Value.field fields "detail") s!"lifecycle {subject}detail is invalid"
  .ok { identity, componentId, instanceId, event }

end Lifecycle

end ExaServe.Telemetry
