import ExaServe.Telemetry.Stores

namespace ExaServe.Telemetry

open Lib Plan

section Header

/-- What is read of the header of a snapshot. -/
structure HeaderReading where
  fields : List (String × Value)
  identity : TelemetryIdentity
  expected : Nat
  received : Nat

def counterFields : List String := ["duplicates_ignored", "rejected_reports"]

def snapshotFields : List String :=
  ["schema_version", "identity", "expected_replicas", "received_replicas", "complete"] ++ counterFields ++ ["replicas"]

def requireIdentity (value : Value) (expectedIdentity : Option TelemetryIdentity) (shape foreign : String) :
    Except Failure TelemetryIdentity := do
  let fields ← shaped value identityFields shape
  let identity ← makeIdentity fields
  require (∀ own ∈ expectedIdentity, identity = own) foreign
  .ok identity

def requireCounters (fields : List (String × Value)) (subject : String) : Except Failure Unit :=
  counterFields.forM fun name => do
    let _ ← expect (count? (Value.field fields name)) (fun _ => True) s!"{subject} snapshot {name} is invalid"

def requireFlag (value : Value) (flag : Bool) (message : String) : Except Failure Unit :=
  match value with
  | .bool shown => require (shown = flag) message
  | _ => .error (.contract message)

/-- `_validate_snapshot_header`. -/
def validateSnapshotHeader (raw : Value) (expectedIdentity : Option TelemetryIdentity)
    (expectedReplicas : Option Nat) : Except Failure HeaderReading := do
  let fields ← shaped raw snapshotFields "telemetry snapshot shape mismatch"
  requireSchema (Value.field fields "schema_version") "unsupported telemetry snapshot schema"
  let identity ← requireIdentity (Value.field fields "identity") expectedIdentity
    "telemetry snapshot identity shape mismatch" "telemetry snapshot has stale or foreign identity"
  let expected ← expect (count? (Value.field fields "expected_replicas")) (0 < ·)
    "telemetry snapshot expected_replicas is invalid"
  require (∀ size ∈ expectedReplicas, expected = size) "telemetry snapshot expected replica count disagrees"
  let received ← expect (count? (Value.field fields "received_replicas")) (· ≤ expected)
    "telemetry snapshot received_replicas is invalid"
  requireCounters fields "telemetry"
  requireFlag (Value.field fields "complete") (received = expected)
    "telemetry snapshot complete flag is inconsistent"
  .ok { fields, identity, expected, received }

/-- The entries of the inventory, as many as the header says. -/
def inventory (value : Value) (received : Nat) (message : String) : Except Failure (List (Value × Value)) :=
  match value with
  | .dict entries => do
    require (entries.length = received) message
    .ok entries
  | _ => .error (.contract message)

end Header

section Validators

def validateServingEntry (isAddress : String → Bool) (identity : TelemetryIdentity) (entry : Value × Value) :
    Except Failure Unit := do
  let replicaId ← expect (text? entry.1) (· ≠ "") "serving snapshot replica key is invalid"
  let reading ← validateServingEnvelope isAddress entry.2
  require (reading.identity = identity ∧ reading.replicaId = replicaId)
    "serving snapshot replica identity is inconsistent"

def validateServingSnapshot (isAddress : String → Bool) (raw : Value) (expectedIdentity : Option TelemetryIdentity)
    (expectedReplicas : Option Nat) : Except Failure Value := do
  let header ← validateSnapshotHeader raw expectedIdentity expectedReplicas
  let replicas ← inventory (Value.field header.fields "replicas") header.received
    "serving snapshot replica inventory is inconsistent"
  replicas.forM (validateServingEntry isAddress header.identity)
  .ok raw

def validateInitEntry (entry : Value × Value) : Except Failure Unit := do
  let _ ← expect (text? entry.1) (· ≠ "") "replica-init snapshot entry is invalid"
  require (isDict entry.2 = true) "replica-init snapshot entry is invalid"
  requireEncodable entry.2 "replica-init snapshot payload"

def validateReplicaInitSnapshot (raw : Value) (expectedIdentity : Option TelemetryIdentity)
    (expectedReplicas : Option Nat) : Except Failure Value := do
  let header ← validateSnapshotHeader raw expectedIdentity expectedReplicas
  let replicas ← inventory (Value.field header.fields "replicas") header.received
    "replica-init snapshot inventory is inconsistent"
  replicas.forM validateInitEntry
  .ok raw

def lifecycleSnapshotFields : List String :=
  ["schema_version", "identity", "expected_components", "missing_components", "active_components",
    "failed_components", "stopped_components", "complete", "clean"] ++ counterFields ++ ["replacements", "components"]

def textItems? : List Value → Option (List String)
  | [] => some []
  | .str text :: rest => (textItems? rest).map (text :: ·)
  | _ :: _ => none

def textList? : Value → Option (List String)
  | .list items => textItems? items
  | _ => none

/-- A component of a snapshot under its name, with the event it shows. -/
def validateComponent (identity : TelemetryIdentity) (expected : Finset String) (entry : Value × Value) :
    Except Failure (String × LifecycleEvent) := do
  let inconsistent := "lifecycle snapshot event identity is inconsistent"
  let reading ← validateLifecycleEvent "snapshot " "unsupported lifecycle snapshot event schema" inconsistent
    inconsistent identity expected entry.2
  let componentId ← expect (text? entry.1) (fun name => reading.componentId = name)
    "lifecycle snapshot component key is inconsistent"
  .ok (componentId, reading.event)

/-- The names with an event, sorted. -/
def shownWith (events : List (String × LifecycleEvent)) (event : LifecycleEvent) : List String :=
  ((events.filter fun entry => entry.2 = event).map Prod.fst).insertionSort (· ≤ ·)

def requireGroup (fields : List (String × Value)) (name : String) (observed : List String) : Except Failure Unit :=
  require (textList? (Value.field fields name) = some observed) s!"lifecycle snapshot {name} is inconsistent"

def knownKey (expected : Finset String) (entry : Value × Value) : Bool :=
  match entry.1 with
  | .str name => name ∈ expected
  | _ => false

def validReplacement (expected : Finset String) (entry : Value × Value) : Bool :=
  knownKey expected entry && (positiveInt? entry.2).isSome

def dictEntries? : Value → Option (List (Value × Value))
  | .dict entries => some entries
  | _ => none

def validateLifecycleSnapshot (raw : Value) (expectedIdentity : Option TelemetryIdentity) : Except Failure Value := do
  let fields ← shaped raw lifecycleSnapshotFields "lifecycle snapshot shape mismatch"
  requireSchema (Value.field fields "schema_version") "unsupported lifecycle snapshot schema"
  let identity ← requireIdentity (Value.field fields "identity") expectedIdentity
    "lifecycle snapshot identity shape mismatch" "lifecycle snapshot has stale or foreign identity"
  let names ← expect (textList? (Value.field fields "expected_components"))
    (fun names => names ≠ [] ∧ "" ∉ names ∧ names = names.toFinset.sort (· ≤ ·))
    "lifecycle snapshot expected components are invalid"
  let expected := names.toFinset
  let components ← expect (dictEntries? (Value.field fields "components"))
    (fun entries => entries.all (knownKey expected) = true) "lifecycle snapshot component inventory is invalid"
  let events ← components.mapM (validateComponent identity expected)
  let missing := (expected \ (events.map Prod.fst).toFinset).sort (· ≤ ·)
  requireGroup fields "missing_components" missing
  requireGroup fields "active_components" (shownWith events .started)
  requireGroup fields "failed_components" (shownWith events .failed)
  requireGroup fields "stopped_components" (shownWith events .stopped)
  let complete := missing.isEmpty && (shownWith events .started).isEmpty
  requireFlag (Value.field fields "complete") complete "lifecycle snapshot complete flag is inconsistent"
  requireFlag (Value.field fields "clean") (complete && (shownWith events .failed).isEmpty)
    "lifecycle snapshot clean flag is inconsistent"
  requireCounters fields "lifecycle"
  let _ ← expect (dictEntries? (Value.field fields "replacements"))
    (fun entries => entries.all (validReplacement expected) = true) "lifecycle snapshot replacements are invalid"
  .ok raw

end Validators

section Accepted

variable {isAddress : String → Bool}

theorem sortedEntries_perm {β : Type} (dict : Dict String β) : (sortedEntries dict).Perm dict.entries :=
  List.perm_insertionSort _ _

theorem length_sortedEntries {β : Type} (dict : Dict String β) : (sortedEntries dict).length = dict.size :=
  (sortedEntries_perm dict).length_eq

theorem mem_sortedEntries {β : Type} {dict : Dict String β} {entry : String × β} :
    entry ∈ sortedEntries dict ↔ dict.get? entry.1 = some entry.2 := by
  rw [(sortedEntries_perm dict).mem_iff, Dict.get?_eq_some_iff]

theorem expect_of {α : Type} {found : Option α} {fits : α → Prop} [DecidablePred fits] {value : α}
    (shown : found = some value) (held : fits value) (message : String) : expect found fits message = .ok value := by
  rw [shown]
  exact if_pos held

theorem expect_count {count : Nat} {fits : Nat → Prop} [DecidablePred fits] (held : fits count) (message : String) :
    expect (count? (.int count)) fits message = .ok count := expect_of rfl held message

theorem shaped_of {fields : List (String × Value)} {expected : List String}
    (same : Value.sameNames fields expected = true) (message : String) :
    shaped (.ofFields fields) expected message = .ok fields := by
  rw [shaped, Value.shaped?_ofFields same]

theorem requireIdentity_own (identity : TelemetryIdentity) (shape foreign : String) :
    requireIdentity (.ofFields identity.toDict) (some identity) shape foreign = .ok identity := by
  have named : Value.sameNames identity.toDict identityFields = true := Value.sameNames_self identity.toDict
  unfold requireIdentity
  rw [ok_bind (shaped_of named shape),
    ok_bind (makeIdentity_of identity fun _ _ => rfl), ok_bind (require_of ?_ foreign)]
  rintro own ⟨⟩
  rfl

/-- The header of a store within its size is that of a snapshot of it. -/
theorem header_accepted (identity : TelemetryIdentity) (expected : Count) {received : Nat}
    (within : received ≤ expected.val) (duplicates rejected : Nat) (replicas : Value) :
    validateSnapshotHeader
        (.ofFields (snapshotHeader identity expected.val received duplicates rejected ++ [("replicas", replicas)]))
        (some identity) (some expected.val) =
      .ok { fields := snapshotHeader identity expected.val received duplicates rejected ++ [("replicas", replicas)],
            identity, expected := expected.val, received } := by
  have named : Value.sameNames (snapshotHeader identity expected.val received duplicates rejected ++
      [("replicas", replicas)]) snapshotFields = true := Value.sameNames_self _
  have version : ∀ message, requireSchema (.int schemaVersion) message = .ok () := fun _ => require_of rfl _
  have agreed : ∀ size ∈ some expected.val, expected.val = size := by
    rintro size ⟨⟩
    rfl
  refine (ok_bind (shaped_of named _) _).trans ?_
  refine (ok_bind (version _) _).trans ?_
  refine (ok_bind (requireIdentity_own identity _ _) _).trans ?_
  refine (ok_bind (expect_count expected.property _) _).trans ?_
  refine (ok_bind (require_of agreed _) _).trans ?_
  refine (ok_bind (@expect_count received (· ≤ expected.val) _ within _) _).trans ?_
  exact ok_bind (require_of rfl _) _

theorem inventory_of {entries : List (Value × Value)} {received : Nat} (counted : entries.length = received)
    (message : String) : inventory (.dict entries) received message = .ok entries := by
  rw [inventory, ok_bind (require_of counted message)]

/-- Every envelope is of the store's generation and under its own replica. -/
structure ServingStatsStore.Sound (store : ServingStatsStore isAddress) : Prop where
  named : ∀ replicaId envelope, store.latest.get? replicaId = some envelope →
    envelope.reading.identity = store.identity ∧ envelope.reading.replicaId = replicaId
  within : store.latest.size ≤ store.expectedReplicas.val

theorem serving_named {raw : Value} {reading : ServingReading}
    (valid : validateServingEnvelope isAddress raw = .ok reading) : reading.replicaId ≠ "" := by
  unfold validateServingEnvelope at valid
  obtain ⟨fields, -, valid⟩ := bind_ok valid
  obtain ⟨-, -, valid⟩ := bind_ok valid
  obtain ⟨identity, -, valid⟩ := bind_ok valid
  obtain ⟨replicaId, bounded, valid⟩ := bind_ok valid
  obtain ⟨sequence, -, valid⟩ := bind_ok valid
  obtain ⟨-, -, valid⟩ := bind_ok valid
  obtain ⟨-, -, valid⟩ := bind_ok valid
  obtain ⟨printed, -, valid⟩ := bind_ok valid
  obtain ⟨-, -, valid⟩ := bind_ok valid
  cases valid
  exact (expect_ok bounded).2.1

theorem serving_entry_accepted {identity : TelemetryIdentity} {replicaId : String} {envelope : ServingEnvelope isAddress}
    (named : envelope.reading.identity = identity ∧ envelope.reading.replicaId = replicaId) :
    validateServingEntry isAddress identity (.str replicaId, envelope.raw) = .ok () := by
  have present : replicaId ≠ "" := by
    rw [← named.2]
    exact serving_named envelope.valid
  refine (ok_bind (@expect_of _ (some replicaId) (· ≠ "") _ replicaId rfl present _) _).trans ?_
  refine (ok_bind envelope.valid _).trans ?_
  exact require_of named _

theorem serving_snapshot_accepted {store : ServingStatsStore isAddress} (sound : store.Sound) :
    validateServingSnapshot isAddress store.snapshot (some store.identity) (some store.expectedReplicas.val) =
      .ok store.snapshot := by
  unfold validateServingSnapshot ServingStatsStore.snapshot
  refine (ok_bind (header_accepted _ _ sound.within _ _ _) _).trans ?_
  refine (ok_bind (inventory_of ?counted _) _).trans ?_
  case counted => rw [List.length_map, List.length_map, length_sortedEntries]
  refine (ok_bind (forM_ok ?entries) _).trans rfl
  intro entry member
  obtain ⟨shown, listed, rfl⟩ := List.mem_map.mp member
  obtain ⟨held, present, rfl⟩ := List.mem_map.mp listed
  exact serving_entry_accepted (sound.named held.1 held.2 (mem_sortedEntries.mp present))

/-- Every payload is an object that JSON can write within its bound, under a named replica. -/
structure ReplicaInitStatsStore.Sound (store : ReplicaInitStatsStore) : Prop where
  encodable : ∀ replicaId payload, store.replicas.get? replicaId = some payload → replicaId ≠ "" ∧
    isDict payload = true ∧ ∀ subject, requireEncodable payload subject = .ok ()
  within : store.replicas.size ≤ store.expectedReplicas.val

theorem init_snapshot_accepted {store : ReplicaInitStatsStore} (sound : store.Sound) :
    validateReplicaInitSnapshot store.snapshot (some store.identity) (some store.expectedReplicas.val) =
      .ok store.snapshot := by
  unfold validateReplicaInitSnapshot ReplicaInitStatsStore.snapshot
  refine (ok_bind (header_accepted _ _ sound.within _ _ _) _).trans ?_
  refine (ok_bind (inventory_of ?counted _) _).trans ?_
  case counted => rw [List.length_map, length_sortedEntries]
  refine (ok_bind (forM_ok ?entries) _).trans rfl
  intro entry member
  obtain ⟨held, present, rfl⟩ := List.mem_map.mp member
  obtain ⟨named, object, encodable⟩ := sound.encodable held.1 held.2 (mem_sortedEntries.mp present)
  refine (ok_bind (@expect_of _ (some held.1) (· ≠ "") _ held.1 rfl named _) _).trans ?_
  refine (ok_bind (require_of object _) _).trans ?_
  exact encodable _

end Accepted

section Teardown

/-- The value of a check that passes is the same under every message. -/
theorem expect_relabel {α : Type} {found : Option α} {fits : α → Prop} [DecidablePred fits] {message : String} {value : α}
    (read : expect found fits message = .ok value) (other : String) : expect found fits other = .ok value := by
  obtain ⟨shown, held⟩ := expect_ok read
  exact expect_of shown held other

theorem finite_relabel {value : Value} {fits : ℚ → Prop} [DecidablePred fits] {message : String} {done : Unit}
    (passed : finite value fits message = .ok done) (other : String) : finite value fits other = .ok () := by
  cases value with
  | int number =>
    simp only [finite] at passed ⊢
    split_ifs at passed ⊢ with beyond
    exact require_of (require_ok passed) other
  | float number => exact require_of (require_ok passed) other
  | _ => cases passed

theorem shaped_relabel {value : Value} {expected : List String} {message : String} {fields : List (String × Value)}
    (read : shaped value expected message = .ok fields) (other : String) : shaped value expected other = .ok fields := by
  rw [shaped, shaped_ok read]

theorem schema_relabel {value : Value} {message : String} {done : Unit}
    (passed : requireSchema value message = .ok done) (other : String) : requireSchema value other = .ok () := by
  cases value with
  | int version => exact require_of (require_ok passed) other
  | _ => cases passed

theorem member_relabel {α : Type} {ofText : String → Option α} {value : Value} {message : String} {item : α}
    (passed : member ofText value message = .ok item) (other : String) : member ofText value other = .ok item := by
  cases value with
  | str text => exact expect_relabel passed other
  | _ => cases passed

theorem detail_relabel {value : Value} {message : String} {done : Unit}
    (passed : requireDetail value message = .ok done) (other : String) : requireDetail value other = .ok () := by
  obtain ⟨detail, short, -⟩ := bind_ok passed
  exact ok_bind (expect_relabel short other) _

theorem lifecycle_relabel {subject schema foreign unplanned : String} {own : TelemetryIdentity} {expected : Finset String}
    {raw : Value} {reading : LifecycleReading}
    (passed : validateLifecycleEvent subject schema foreign unplanned own expected raw = .ok reading)
    (subject' schema' foreign' unplanned' : String) :
    validateLifecycleEvent subject' schema' foreign' unplanned' own expected raw = .ok reading := by
  unfold validateLifecycleEvent at passed ⊢
  obtain ⟨fields, shape, passed⟩ := bind_ok passed
  obtain ⟨⟨⟩, version, passed⟩ := bind_ok passed
  obtain ⟨identity, identified, passed⟩ := bind_ok passed
  obtain ⟨⟨⟩, owned, passed⟩ := bind_ok passed
  obtain ⟨componentId, planned, passed⟩ := bind_ok passed
  obtain ⟨instanceId, bounded, passed⟩ := bind_ok passed
  obtain ⟨⟨⟩, texts, passed⟩ := bind_ok passed
  obtain ⟨event, known, passed⟩ := bind_ok passed
  obtain ⟨pid, positive, passed⟩ := bind_ok passed
  obtain ⟨⟨⟩, observed, passed⟩ := bind_ok passed
  obtain ⟨⟨⟩, detailed, passed⟩ := bind_ok passed
  refine (ok_bind (shaped_relabel shape _) _).trans ?_
  refine (ok_bind (schema_relabel version _) _).trans ?_
  refine (ok_bind identified _).trans ?_
  refine (ok_bind (require_of (require_ok owned) _) _).trans ?_
  refine (ok_bind (member_relabel planned _) _).trans ?_
  refine (ok_bind (expect_relabel bounded _) _).trans ?_
  refine (ok_bind (forM_ok ?texts) _).trans ?_
  case texts =>
    intro name listed
    obtain ⟨text, named, -⟩ := bind_ok (forM_all texts name listed)
    exact ok_bind (expect_relabel named _) _
  refine (ok_bind (member_relabel known _) _).trans ?_
  refine (ok_bind (expect_relabel positive _) _).trans ?_
  refine (ok_bind (finite_relabel observed _) _).trans ?_
  refine (ok_bind (detail_relabel detailed _) _).trans ?_
  exact passed

/-- Every event is under its own component, and only planned components count as replaced. -/
structure ReplicaLifecycleStore.Sound (store : ReplicaLifecycleStore) : Prop where
  named : ∀ componentId held, store.current.get? componentId = some held → held.reading.componentId = componentId
  counted : ∀ componentId count, store.replacements.get? componentId = some count →
    componentId ∈ store.expectedComponents ∧ 0 < count

theorem lifecycle_planned {subject schema foreign unplanned : String} {own : TelemetryIdentity}
    {expected : Finset String} {raw : Value} {reading : LifecycleReading}
    (passed : validateLifecycleEvent subject schema foreign unplanned own expected raw = .ok reading) :
    reading.componentId ∈ expected := by
  unfold validateLifecycleEvent at passed
  obtain ⟨fields, -, passed⟩ := bind_ok passed
  obtain ⟨-, -, passed⟩ := bind_ok passed
  obtain ⟨identity, -, passed⟩ := bind_ok passed
  obtain ⟨-, -, passed⟩ := bind_ok passed
  obtain ⟨componentId, planned, passed⟩ := bind_ok passed
  obtain ⟨instanceId, -, passed⟩ := bind_ok passed
  obtain ⟨-, -, passed⟩ := bind_ok passed
  obtain ⟨event, -, passed⟩ := bind_ok passed
  obtain ⟨-, -, passed⟩ := bind_ok passed
  obtain ⟨-, -, passed⟩ := bind_ok passed
  obtain ⟨-, -, passed⟩ := bind_ok passed
  cases passed
  cases shown : Value.field fields "component_id" with
  | str text =>
    rw [shown] at planned
    obtain ⟨found, -⟩ := expect_ok planned
    replace found : (if text ∈ expected then some text else none) = some componentId := found
    split_ifs at found with listed
    cases found
    exact listed
  | _ =>
    rw [shown] at planned
    cases planned

theorem textList?_texts (names : List String) : textList? (ReplicaLifecycleStore.texts names) = some names := by
  unfold ReplicaLifecycleStore.texts textList?
  induction names with
  | nil => rfl
  | cons name rest ih => exact congrArg (Option.map (name :: ·)) ih

variable {store : ReplicaLifecycleStore}

def ReplicaLifecycleStore.events (store : ReplicaLifecycleStore) : List (String × LifecycleEvent) :=
  (sortedEntries store.current).map fun entry => (entry.1, entry.2.reading.event)

theorem component_accepted (sound : store.Sound) {componentId : String}
    {held : LifecycleReport store.identity store.expectedComponents}
    (present : store.current.get? componentId = some held) :
    validateComponent store.identity store.expectedComponents (.str componentId, held.raw) =
      .ok (componentId, held.reading.event) := by
  refine (ok_bind (lifecycle_relabel held.valid _ _ _ _) _).trans ?_
  exact ok_bind (@expect_of _ (some componentId) (held.reading.componentId = ·) _ componentId rfl
    (sound.named componentId held present) _) _

theorem names_of_events : (store.events.map Prod.fst).toFinset = store.current.keys.toFinset := by
  rw [ReplicaLifecycleStore.events, List.map_map]
  exact List.toFinset_eq_of_perm _ _ ((sortedEntries_perm store.current).map _)

/-- The groups a validator finds in the events are those the store reports. -/
theorem shownWith_events (event : LifecycleEvent) : shownWith store.events event = store.standing event := by
  unfold shownWith ReplicaLifecycleStore.standing ReplicaLifecycleStore.events
  rw [List.filter_map, List.map_map]
  have same : (((sortedEntries store.current).filter fun entry => entry.2.reading.event = event).map Prod.fst).Perm
      ((store.current.entries.filter fun entry => entry.2.reading.event = event).map Prod.fst) :=
    ((sortedEntries_perm store.current).filter _).map _
  have perm := ((List.perm_insertionSort (· ≤ ·) _).trans same).trans (List.perm_insertionSort (· ≤ ·) _).symm
  exact perm.eq_of_pairwise' (List.pairwise_insertionSort _ _) (List.pairwise_insertionSort _ _)

def ReplicaLifecycleStore.shownReplacements (store : ReplicaLifecycleStore) : List (Value × Value) :=
  ((sortedEntries store.replacements).map fun entry => (entry.1, Value.int entry.2)).map
    fun entry => (.str entry.1, entry.2)

theorem replacements_valid (sound : store.Sound) :
    store.shownReplacements.all (validReplacement store.expectedComponents) = true := by
  rw [List.all_eq_true]
  intro shown listed
  obtain ⟨printed, written, rfl⟩ := List.mem_map.mp listed
  obtain ⟨entry, member, rfl⟩ := List.mem_map.mp written
  obtain ⟨planned, positive⟩ := sound.counted entry.1 entry.2 (mem_sortedEntries.mp member)
  simp only [validReplacement, knownKey, positiveInt?, planned, decide_true, Bool.true_and]
  rw [if_pos (by exact_mod_cast positive)]
  rfl

def ReplicaLifecycleStore.shownComponents (store : ReplicaLifecycleStore) : List (Value × Value) :=
  ((sortedEntries store.current).map fun entry => (entry.1, entry.2.raw)).map fun entry => (.str entry.1, entry.2)

theorem components_known (sound : store.Sound) :
    store.shownComponents.all (knownKey store.expectedComponents) = true := by
  rw [List.all_eq_true]
  intro shown listed
  obtain ⟨printed, written, rfl⟩ := List.mem_map.mp listed
  obtain ⟨entry, member, rfl⟩ := List.mem_map.mp written
  have planned := lifecycle_planned entry.2.valid
  rw [sound.named entry.1 entry.2 (mem_sortedEntries.mp member)] at planned
  simp only [knownKey, planned, decide_true]

theorem components_accepted (sound : store.Sound) :
    store.shownComponents.mapM (validateComponent store.identity store.expectedComponents) = .ok store.events := by
  unfold ReplicaLifecycleStore.shownComponents ReplicaLifecycleStore.events
  rw [List.map_map, List.mapM_map]
  exact mapM_ok fun entry member => component_accepted sound (mem_sortedEntries.mp member)

theorem lifecycle_snapshot_accepted (sound : store.Sound) :
    validateLifecycleSnapshot store.snapshot (some store.identity) = .ok store.snapshot := by
  have version : ∀ message, requireSchema (.int schemaVersion) message = .ok () := fun _ => require_of rfl _
  have expected : store.expectedComponents.sort (· ≤ ·) ≠ [] ∧ "" ∉ store.expectedComponents.sort (· ≤ ·) ∧
      store.expectedComponents.sort (· ≤ ·) =
        (store.expectedComponents.sort (· ≤ ·)).toFinset.sort (· ≤ ·) := by
    refine ⟨?_, ?_, ?_⟩
    · intro empty
      obtain ⟨name, member⟩ := store.planned.1
      rw [← Finset.mem_sort (· ≤ ·), empty] at member
      cases member
    · rw [Finset.mem_sort]
      exact store.planned.2
    · rw [Finset.sort_toFinset]
  unfold validateLifecycleSnapshot ReplicaLifecycleStore.snapshot
  refine (ok_bind (shaped_of ?named _) _).trans ?_
  case named => exact Value.sameNames_self _
  refine (ok_bind (version _) _).trans ?_
  refine (ok_bind (requireIdentity_own store.identity _ _) _).trans ?_
  refine (ok_bind (expect_of (textList?_texts _) expected _) _).trans ?_
  rw [Finset.sort_toFinset]
  refine (ok_bind (@expect_of _ (some store.shownComponents)
    (fun entries => entries.all (knownKey store.expectedComponents) = true) _ store.shownComponents rfl
    (components_known sound) _) _).trans ?_
  refine (ok_bind (components_accepted sound) _).trans ?_
  rw [names_of_events, shownWith_events, shownWith_events, shownWith_events]
  refine (ok_bind (require_of (textList?_texts store.missing) _) _).trans ?_
  refine (ok_bind (require_of (textList?_texts (store.standing .started)) _) _).trans ?_
  refine (ok_bind (require_of (textList?_texts (store.standing .failed)) _) _).trans ?_
  refine (ok_bind (require_of (textList?_texts (store.standing .stopped)) _) _).trans ?_
  refine (ok_bind (@require_of (store.complete = _) _ rfl _) _).trans ?_
  refine (ok_bind (@require_of (store.clean = _) _ rfl _) _).trans ?_
  exact ok_bind (@expect_of _ (some store.shownReplacements)
    (fun entries => entries.all (validReplacement store.expectedComponents) = true) _ store.shownReplacements rfl
    (replacements_valid sound) _) _

end Teardown

end ExaServe.Telemetry
