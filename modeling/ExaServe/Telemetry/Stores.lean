import ExaServe.Lib.Run
import ExaServe.Telemetry.Contracts
import Mathlib.Data.Finset.Sort

namespace ExaServe.Telemetry

open Lib Plan

/-- `dict(sorted(entries.items()))`. -/
def sortedEntries {β : Type} (dict : Dict String β) : List (String × β) :=
  dict.entries.insertionSort fun left right => left.1 ≤ right.1

/-- A report that a `TelemetryContractError` refuses is counted, one that another exception ends is not. -/
def countRejection (rejected : Nat) : Failure → Nat
  | .contract _ => rejected + 1
  | .other _ _ => rejected

/-- The fields every telemetry snapshot begins with. -/
def snapshotHeader (identity : TelemetryIdentity) (expected received duplicates rejected : Nat) :
    List (String × Value) :=
  [("schema_version", .int schemaVersion), ("identity", .ofFields identity.toDict),
    ("expected_replicas", .int expected), ("received_replicas", .int received),
    ("complete", .bool (received = expected)), ("duplicates_ignored", .int duplicates),
    ("rejected_reports", .int rejected)]

section Serving

/-- An envelope that passed its checks, and what was read of it. -/
structure ServingEnvelope (isAddress : String → Bool) where
  raw : Value
  reading : ServingReading
  valid : validateServingEnvelope isAddress raw = .ok reading

/-- Bounded actor state with generation fencing and sequence deduplication. -/
structure ServingStatsStore (isAddress : String → Bool) where
  identity : TelemetryIdentity
  expectedReplicas : Count
  latest : Dict String (ServingEnvelope isAddress) := .empty
  duplicates : Nat := 0
  rejected : Nat := 0

namespace ServingStatsStore

variable {isAddress : String → Bool}

def put (store : ServingStatsStore isAddress) (envelope : ServingEnvelope isAddress) : ServingStatsStore isAddress :=
  { store with latest := store.latest.insert envelope.reading.replicaId envelope }

/-- What becomes of an envelope that passed its own checks. -/
def admitHeld (store : ServingStatsStore isAddress) (envelope : ServingEnvelope isAddress) :
    Except Failure (ServingStatsStore isAddress × Bool) := do
  require (envelope.reading.identity = store.identity) "stale or foreign telemetry identity"
  match store.latest.get? envelope.reading.replicaId with
  | some previous => do
    require (previous.reading.sequence ≤ envelope.reading.sequence) "serving stats sequence regressed"
    if envelope.reading.sequence = previous.reading.sequence then do
      require (Value.pyEq envelope.raw previous.raw = true) "conflicting serving stats duplicate sequence"
      .ok ({ store with duplicates := store.duplicates + 1 }, false)
    else .ok (store.put envelope, true)
  | none => do
    require (store.latest.size < store.expectedReplicas.val) "telemetry contains more replicas than the plan"
    .ok (store.put envelope, true)

def accept (store : ServingStatsStore isAddress) (raw : Value) : Except Failure (ServingStatsStore isAddress × Bool) :=
  match valid : validateServingEnvelope isAddress raw with
  | .ok reading => store.admitHeld { raw, reading, valid }
  | .error failure => .error failure

/-- `report`: the store afterwards, and the answer or the exception. -/
def report (store : ServingStatsStore isAddress) (raw : Value) : ServingStatsStore isAddress × Except Failure Bool :=
  match store.accept raw with
  | .ok (after, fresh) => (after, .ok fresh)
  | .error failure => ({ store with rejected := countRejection store.rejected failure }, .error failure)

def snapshot (store : ServingStatsStore isAddress) : Value :=
  .ofFields (snapshotHeader store.identity store.expectedReplicas.val store.latest.size store.duplicates
    store.rejected ++
    [("replicas", .ofFields ((sortedEntries store.latest).map fun entry => (entry.1, entry.2.raw)))])

end ServingStatsStore

end Serving

section Init

/-- One bounded init record per planned replica, fenced to one generation. -/
structure ReplicaInitStatsStore where
  identity : TelemetryIdentity
  expectedReplicas : Count
  replicas : Dict String Value := .empty
  fingerprints : Dict String String := .empty
  duplicates : Nat := 0
  rejected : Nat := 0

namespace ReplicaInitStatsStore

/-- `canonical_hash`, whose `PlanError` is no `TelemetryContractError`. -/
def fingerprint (raw : Value) : Except Failure String :=
  match Value.canonical "$" raw with
  | .ok payload => .ok (canonicalHash payload)
  | .error message => .error (.other "PlanError" message)

def refuse (store : ReplicaInitStatsStore) (failure : Failure) : ReplicaInitStatsStore × Except Failure Bool :=
  ({ store with rejected := countRejection store.rejected failure }, .error failure)

/-- A replica that has reported before may only repeat its report. -/
def repeated (store : ReplicaInitStatsStore) (raw : Value) (replicaId : String) :
    ReplicaInitStatsStore × Except Failure Bool :=
  match fingerprint raw with
  | .error failure => store.refuse failure
  | .ok digest =>
    match store.fingerprints.get? replicaId with
    | none => store.refuse (.other "KeyError" replicaId)
    | some held =>
      if held = digest then ({ store with duplicates := store.duplicates + 1 }, .ok false)
      else store.refuse (.contract "conflicting replica init duplicate")

/-- `report`. The payload is kept before the fingerprint of the envelope is taken. -/
def report (store : ReplicaInitStatsStore) (raw : Value) : ReplicaInitStatsStore × Except Failure Bool :=
  match validateInitEnvelope store.identity raw with
  | .error failure => store.refuse failure
  | .ok reading =>
    if (store.replicas.get? reading.replicaId).isSome then store.repeated raw reading.replicaId
    else if store.expectedReplicas.val ≤ store.replicas.size then
      store.refuse (.contract "replica init stats exceed planned replicas")
    else
      let kept := { store with replicas := store.replicas.insert reading.replicaId reading.payload }
      match fingerprint raw with
      | .error failure => kept.refuse failure
      | .ok digest =>
        ({ kept with fingerprints := kept.fingerprints.insert reading.replicaId digest }, .ok true)

def snapshot (store : ReplicaInitStatsStore) : Value :=
  .ofFields (snapshotHeader store.identity store.expectedReplicas.val store.replicas.size store.duplicates
    store.rejected ++ [("replicas", .ofFields (sortedEntries store.replicas))])

end ReplicaInitStatsStore

end Init

section Lifecycle

/-- The checks a lifecycle event passes when it is reported. -/
def checkReport (own : TelemetryIdentity) (expected : Finset String) (raw : Value) : Except Failure LifecycleReading :=
  validateLifecycleEvent "" "unsupported lifecycle schema" "stale or foreign lifecycle identity"
    "lifecycle event names an unplanned component" own expected raw

/-- An event that passed its checks, and what was read of it. -/
structure LifecycleReport (own : TelemetryIdentity) (expected : Finset String) where
  raw : Value
  reading : LifecycleReading
  valid : checkReport own expected raw = .ok reading

/-- Exact proof that every planned replica teardown completed. -/
structure ReplicaLifecycleStore where
  identity : TelemetryIdentity
  expectedComponents : Finset String
  planned : expectedComponents.Nonempty ∧ "" ∉ expectedComponents
  current : Dict String (LifecycleReport identity expectedComponents) := .empty
  duplicates : Nat := 0
  rejected : Nat := 0
  replacements : Dict String Nat := .empty

namespace ReplicaLifecycleStore

def currentEvent (store : ReplicaLifecycleStore) (componentId : String) : Option LifecycleEvent :=
  (store.current.get? componentId).map fun held => held.reading.event

def put (store : ReplicaLifecycleStore) (held : LifecycleReport store.identity store.expectedComponents) :
    ReplicaLifecycleStore :=
  { store with current := store.current.insert held.reading.componentId held }

/-- What becomes of an event that passed its own checks. -/
def admitHeld (store : ReplicaLifecycleStore) (held : LifecycleReport store.identity store.expectedComponents) :
    Except Failure (ReplicaLifecycleStore × Bool) :=
  let componentId := held.reading.componentId
  match held.reading.event, store.current.get? componentId with
  | .started, none => .ok (store.put held, true)
  | .started, some previous =>
    if previous.reading.event = .started then
      if previous.reading.instanceId = held.reading.instanceId then do
        require (Value.pyEq previous.raw held.raw = true) "conflicting lifecycle STARTED duplicate"
        .ok ({ store with duplicates := store.duplicates + 1 }, false)
      else .error (.contract "lifecycle component has two active instances")
    else
      let replaced := (store.replacements.get? componentId).getD 0 + 1
      .ok ({ store.put held with replacements := store.replacements.insert componentId replaced }, true)
  | _, none => .error (.contract "lifecycle terminal event has no active instance")
  | _, some previous => do
    require (previous.reading.event = .started) "lifecycle terminal event has no active instance"
    require (previous.reading.instanceId = held.reading.instanceId) "lifecycle terminal event has the wrong instance"
    .ok (store.put held, true)

def accept (store : ReplicaLifecycleStore) (raw : Value) : Except Failure (ReplicaLifecycleStore × Bool) :=
  match valid : checkReport store.identity store.expectedComponents raw with
  | .ok reading => store.admitHeld { raw, reading, valid }
  | .error failure => .error failure

def report (store : ReplicaLifecycleStore) (raw : Value) : ReplicaLifecycleStore × Except Failure Bool :=
  match store.accept raw with
  | .ok (after, fresh) => (after, .ok fresh)
  | .error failure => ({ store with rejected := countRejection store.rejected failure }, .error failure)

/-- The components whose current event is the given one. -/
def standing (store : ReplicaLifecycleStore) (event : LifecycleEvent) : List String :=
  ((store.current.entries.filter fun entry => entry.2.reading.event = event).map Prod.fst).insertionSort (· ≤ ·)

instance : IsTrans String (· ≤ ·) := inferInstance

instance : Std.Antisymm (fun left right : String => left ≤ right) := inferInstance

def missing (store : ReplicaLifecycleStore) : List String :=
  (store.expectedComponents \ store.current.keys.toFinset).sort (· ≤ ·)

def complete (store : ReplicaLifecycleStore) : Bool := store.missing.isEmpty && (store.standing .started).isEmpty

def clean (store : ReplicaLifecycleStore) : Bool := store.complete && (store.standing .failed).isEmpty

def texts (names : List String) : Value := .list (names.map .str)

def snapshot (store : ReplicaLifecycleStore) : Value :=
  .ofFields [("schema_version", .int schemaVersion), ("identity", .ofFields store.identity.toDict),
    ("expected_components", texts (store.expectedComponents.sort (· ≤ ·))),
    ("missing_components", texts store.missing), ("active_components", texts (store.standing .started)),
    ("failed_components", texts (store.standing .failed)), ("stopped_components", texts (store.standing .stopped)),
    ("complete", .bool store.complete), ("clean", .bool store.clean), ("duplicates_ignored", .int store.duplicates),
    ("rejected_reports", .int store.rejected),
    ("replacements", .ofFields ((sortedEntries store.replacements).map fun entry => (entry.1, .int entry.2))),
    ("components", .ofFields ((sortedEntries store.current).map fun entry => (entry.1, entry.2.raw)))]

end ReplicaLifecycleStore

end Lifecycle

end ExaServe.Telemetry
