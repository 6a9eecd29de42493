import ExaServe.Compat.Receipt
import ExaServe.Lib.Dict
import ExaServe.Lib.JsonCanonical
import ExaServe.Lib.Padded
import ExaServe.Lib.Run

namespace ExaServe.State

open Lib Plan Control Compat

def planError (message : String) : Raised := .other "PlanError" message

def storeError (message : String) : Raised := .other "BindingStoreError" message

inductive BindingState where
  | active | superseded | revoked
  deriving DecidableEq, Repr

namespace BindingState

def value : BindingState → String
  | active => "ACTIVE"
  | superseded => "SUPERSEDED"
  | revoked => "REVOKED"

def ofValue (text : String) : Option BindingState :=
  [active, superseded, revoked].find? fun state => state.value = text

end BindingState

/-- What every event of one store has in common. -/
structure BindingIdentity where
  deploymentId : String
  generation : Int
  deploymentPlanHash : String
  siteProfileHash : String
  allocationBindingHash : String
  deriving DecidableEq

def BindingIdentity.toDict (identity : BindingIdentity) : List (String × Json) :=
  [("deployment_id", .str identity.deploymentId), ("generation", .int identity.generation),
    ("deployment_plan_hash", .str identity.deploymentPlanHash),
    ("site_profile_hash", .str identity.siteProfileHash),
    ("allocation_binding_hash", .str identity.allocationBindingHash)]

structure ComponentInstanceBinding where
  identity : BindingIdentity
  receiptRequirementId : String
  componentId : String
  instanceId : String
  ownerScope : OwnerScope
  ownerRank : Option Int
  nodeId : String
  boundAt : Number
  state : BindingState := .active
  bindingSequence : Nat := 0
  supersedesInstanceId : Option String := none
  componentInstanceBindingHash : String := ""
  deriving DecidableEq

namespace ComponentInstanceBinding

def key (event : ComponentInstanceBinding) : String := event.receiptRequirementId

def optionalJson : Option String → Json
  | some text => .str text
  | none => .null

def rankJson : Option Int → Json
  | some rank => .int rank
  | none => .null

def canonical (event : ComponentInstanceBinding) : List (String × Json) :=
  ("schema_version", .int 3) :: event.identity.toDict ++
    [("receipt_requirement_id", .str event.receiptRequirementId), ("component_id", .str event.componentId),
      ("instance_id", .str event.instanceId), ("owner_scope", .str event.ownerScope.value),
      ("owner_rank", rankJson event.ownerRank), ("node_id", .str event.nodeId),
      ("bound_at", event.boundAt.toJson), ("state", .str event.state.value),
      ("binding_sequence", .int event.bindingSequence),
      ("supersedes_instance_id", optionalJson event.supersedesInstanceId)]

def asdict (event : ComponentInstanceBinding) : List (String × Json) :=
  event.canonical ++ [("component_instance_binding_hash", Json.str event.componentInstanceBindingHash)]

def computeHash (event : ComponentInstanceBinding) : String := canonicalHash (.obj event.canonical)

def finalize (event : ComponentInstanceBinding) : ComponentInstanceBinding :=
  { event with componentInstanceBindingHash := event.computeHash }

/-- The fields of the dataclass, in its order. -/
def fieldNames : List String :=
  ["schema_version", "deployment_id", "generation", "deployment_plan_hash", "site_profile_hash",
    "allocation_binding_hash", "receipt_requirement_id", "component_id", "instance_id", "owner_scope",
    "owner_rank", "node_id", "bound_at", "state", "binding_sequence", "supersedes_instance_id",
    "component_instance_binding_hash"]

section Checks

variable (field : String → Json)

def requireSchema : Except Raised Unit :=
  match field "schema_version" with
  | .int 3 => .ok ()
  | value =>
    .error (planError
      s!"instance_binding.schema_version must be supported schema version 3, got {value.reprText}")

def requireText (name : String) : Except Raised String :=
  match field name with
  | .str text =>
    if text = "" then .error (planError s!"instance_binding.{name} must be a non-empty string") else .ok text
  | _ => .error (planError s!"instance_binding.{name} must be a non-empty string")

def requireDigest (name : String) (allowEmpty : Bool) : Except Raised String :=
  match field name with
  | .str text =>
    if (allowEmpty && text = "") || isSha256Hex text then .ok text
    else .error (planError s!"instance_binding.{name} must be a lowercase SHA-256 digest")
  | _ => .error (planError s!"instance_binding.{name} must be a lowercase SHA-256 digest")

def requireCount (name message : String) : Except Raised Int :=
  match field name with
  | .int value => if value < 0 then .error (planError message) else .ok value
  | _ => .error (planError message)

def requireBoundAt : Except Raised Number :=
  let refused := planError "instance_binding.bound_at must be finite and non-negative"
  match field "bound_at" with
  | .int value =>
    if floatLimit ≤ |(value : ℚ)| then .error (.other "OverflowError" "int too large to convert to float")
    else if value < 0 then .error refused
    else .ok (.int value)
  | .float value =>
    if floatLimit ≤ |value.value| ∨ value.value < 0 then .error refused else .ok (.float value)
  | _ => .error refused

def requireOneOf {β : Type} (ofValue : String → Option β) (message : String) :
    Json → Except Raised β
  | .str text =>
    match ofValue text with
    | some member => .ok member
    | none => .error (planError message)
  | value =>
    match unhashable value with
    | some text => .error (.other "TypeError" text)
    | none => .error (planError message)

def requireOwner : OwnerScope → Except Raised (Option Int)
  | .global =>
    match field "owner_rank" with
    | .null => .ok none
    | _ => .error (planError "instance_binding.owner_rank must be null for GLOBAL")
  | .rank =>
    match field "owner_rank" with
    | .int rank =>
      if rank < 0 then
        .error (planError "instance_binding RANK owner requires a non-negative owner_rank")
      else .ok (some rank)
    | _ => .error (planError "instance_binding RANK owner requires a non-negative owner_rank")

def requireSupersedes (instanceId : String) : Except Raised (Option String) :=
  let refused :=
    planError "instance_binding.supersedes_instance_id must name a distinct non-empty instance"
  match field "supersedes_instance_id" with
  | .null => .ok none
  | .str text => if text = "" ∨ text = instanceId then .error refused else .ok (some text)
  | _ => .error refused

/-- The constructor with its `__post_init__`, on the values of its arguments. -/
def make : Except Raised ComponentInstanceBinding := do
  requireSchema field
  let deploymentId ← requireText field "deployment_id"
  let receiptRequirementId ← requireText field "receipt_requirement_id"
  let componentId ← requireText field "component_id"
  let instanceId ← requireText field "instance_id"
  let nodeId ← requireText field "node_id"
  let deploymentPlanHash ← requireDigest field "deployment_plan_hash" false
  let siteProfileHash ← requireDigest field "site_profile_hash" false
  let allocationBindingHash ← requireDigest field "allocation_binding_hash" false
  let componentInstanceBindingHash ← requireDigest field "component_instance_binding_hash" true
  let generation ← requireCount field "generation" "instance_binding.generation must be a non-negative integer"
  let sequence ← requireCount field "binding_sequence" "instance_binding.binding_sequence must be non-negative"
  let boundAt ← requireBoundAt field
  let ownerScope ←
    requireOneOf OwnerScope.ofValue "instance_binding.owner_scope must be GLOBAL or RANK" (field "owner_scope")
  let ownerRank ← requireOwner field ownerScope
  let state ←
    requireOneOf BindingState.ofValue "instance_binding.state must be ACTIVE, SUPERSEDED, or REVOKED"
      (field "state")
  let supersedesInstanceId ← requireSupersedes field instanceId
  .ok { identity := { deploymentId, generation, deploymentPlanHash, siteProfileHash, allocationBindingHash }
        receiptRequirementId, componentId, instanceId, ownerScope, ownerRank, nodeId, boundAt, state
        bindingSequence := sequence.toNat, supersedesInstanceId, componentInstanceBindingHash }

end Checks

def argument (fields : List (String × Json)) (name : String) : Json := (Json.lookup name fields).getD .null

/-- Building the value anew from its own fields, as `replace` does. -/
def rebuilt (event : ComponentInstanceBinding) : Except Raised ComponentInstanceBinding :=
  make (argument event.asdict)

/-- `component_instance_binding_from_dict`. -/
def fromDict : Json → Except Raised ComponentInstanceBinding
  | .obj fields =>
    if !Json.sameNames fields fieldNames then
      .error (planError ("component instance binding " ++ shapeMismatch fieldNames fields))
    else match make (argument fields) with
      | .error (.other "OverflowError" message) => .error (.other "OverflowError" message)
      | .error failure => .error (planError s!"component instance binding invalid: {failure.text}")
      | .ok event =>
        match argument fields "component_instance_binding_hash" with
        | .str declared =>
          if event.finalize.componentInstanceBindingHash = declared then .ok event.finalize
          else .error (planError "component instance binding hash mismatch")
        | _ => .error (planError "component instance binding hash mismatch")
  | _ => .error (planError "component instance binding must be a JSON object")

end ComponentInstanceBinding

/-- What a store is opened with: a finalized plan and binding, and its batch sizes. -/
structure StoreConfig where
  identity : BindingIdentity
  eventsDir : String
  currentPublishBatchSize : Nat
  eventPublishBatchSize : Nat
  named : identity.deploymentId ≠ ""
  nonneg : 0 ≤ identity.generation
  plan_digest : isSha256Hex identity.deploymentPlanHash = true
  site_digest : isSha256Hex identity.siteProfileHash = true
  binding_digest : isSha256Hex identity.allocationBindingHash = true
  sizes_positive : 1 ≤ currentPublishBatchSize ∧ 1 ≤ eventPublishBatchSize

/-- The memory of a `ComponentBindingStore`. -/
structure BindingStore where
  current : Dict String ComponentInstanceBinding := Dict.empty
  sequence : Nat := 0
  publishedSequence : Nat := 0
  pending : List ComponentInstanceBinding := []

/-- What an event does to the current bindings. -/
def applyEvent (current : Dict String ComponentInstanceBinding) (event : ComponentInstanceBinding) :
    Dict String ComponentInstanceBinding :=
  match event.state with
  | .active => current.insert event.key event
  | _ =>
    if (current.get? event.key).any fun held => held.instanceId = event.instanceId then
      current.erase event.key
    else current

namespace StoreConfig

variable (config : StoreConfig)

def path (name : String) : String := config.eventsDir ++ "/" ++ name

def verifyIdentity (event : ComponentInstanceBinding) : Except Raised Unit :=
  if event.identity = config.identity then .ok ()
  else .error (storeError "component binding identity mismatch")

def sequenceAt (event : Option ComponentInstanceBinding) : Nat :=
  (event.map ComponentInstanceBinding.bindingSequence).getD 0

def batchBody (events : List ComponentInstanceBinding) : List (String × Json) :=
  [("schema_version", Json.int 3), ("kind", .str "component_binding_batch")] ++ config.identity.toDict ++
    [("start_sequence", .int (sequenceAt events.head?)), ("end_sequence", .int (sequenceAt events.getLast?)),
      ("events", .arr (events.map fun event => .obj event.asdict))]

def batchHash (events : List ComponentInstanceBinding) : String := canonicalHash (.obj (config.batchBody events))

def batchPayload (events : List ComponentInstanceBinding) : List (String × Json) :=
  config.batchBody events ++ [("batch_hash", Json.str (config.batchHash events))]

def batchName (events : List ComponentInstanceBinding) : String :=
  String.ofList (padded 12 (sequenceAt events.head?) ++ '-' :: (padded 12 (sequenceAt events.getLast?) ++
    '-' :: ((config.batchHash events).toList ++ ".batch.json".toList)))

/-- The file of a batch: its name, and the value its text decodes to. -/
def batchFile (events : List ComponentInstanceBinding) : String × Json :=
  (config.batchName events, Json.canonical (.obj (config.batchPayload events)))

def currentPayload (store : BindingStore) : Json :=
  .obj (("schema_version", .int 3) :: config.identity.toDict ++
    [("revision", .int store.sequence),
      ("bindings", .arr ((Json.sortFields store.current.entries).map fun entry => .obj entry.2.asdict))])

def batchFields : List String :=
  ["schema_version", "kind", "deployment_id", "generation", "deployment_plan_hash", "site_profile_hash",
    "allocation_binding_hash", "start_sequence", "end_sequence", "events", "batch_hash"]

def decodeEvents (path : String) : List Json → Except Raised (List ComponentInstanceBinding)
  | [] => .ok []
  | item :: rest =>
    match ComponentInstanceBinding.fromDict item with
    | .error (.other "OverflowError" message) => .error (.other "OverflowError" message)
    | .error failure =>
      .error (storeError s!"component binding batch {quotedText path} contains an invalid event: {failure.text}")
    | .ok event => (decodeEvents path rest).map (event :: ·)

def decodeBatch (fields : List (String × Json)) (path : String) :
    Except Raised (List ComponentInstanceBinding) :=
  let value (name : String) : Json := (Json.lookup name fields).getD .null
  if !Json.sameNames fields batchFields || !Json.pyEq (value "schema_version") (.int 3) then
    .error (storeError s!"component binding batch {quotedText path} has invalid fields")
  else if config.identity.toDict.any fun entry => !Json.pyEq (value entry.1) entry.2 then
    .error (storeError s!"component binding batch {quotedText path} has wrong identity")
  else
    let unhashed := fields.filter fun field => field.1 ≠ "batch_hash"
    let hashed := match value "batch_hash" with
      | .str declared => declared = canonicalHash (.obj unhashed)
      | _ => false
    if !hashed then .error (storeError s!"component binding batch {quotedText path} hash mismatch")
    else match value "events" with
      | .arr (item :: rest) => do
        let events ← decodeEvents path (item :: rest)
        let first := sequenceAt events.head?
        let last := sequenceAt events.getLast?
        if events.map ComponentInstanceBinding.bindingSequence ≠ List.range' first (last + 1 - first) ∨
            !Json.pyEq (value "start_sequence") (.int first) ∨ !Json.pyEq (value "end_sequence") (.int last) then
          .error (storeError s!"component binding batch {quotedText path} sequence range is invalid")
        else .ok events
      | _ => .error (storeError s!"component binding batch {quotedText path} is empty")

/-- The events of one file: a batch, or one event of an earlier schema. -/
def decodeFile (path : String) (payload : Json) : Except Raised (List ComponentInstanceBinding) :=
  let single := match ComponentInstanceBinding.fromDict payload with
    | .error (.other "OverflowError" message) => .error (.other "OverflowError" message)
    | .error failure =>
      .error (storeError s!"component binding event {quotedText path} is invalid: {failure.text}")
    | .ok event => .ok [event]
  match payload with
  | .obj fields =>
    match Json.lookup "kind" fields with
    | some (.str "component_binding_batch") => config.decodeBatch fields path
    | _ => single
  | _ => single

def applyRecovered (path : String) : BindingStore → List ComponentInstanceBinding → Except Raised BindingStore
  | store, [] => .ok store
  | store, event :: rest => do
    config.verifyIdentity event
    if event.bindingSequence ≠ store.sequence + 1 then
      .error (storeError s!"component binding sequence is not contiguous at {quotedText path}")
    else
      applyRecovered path
        { store with current := applyEvent store.current event, sequence := event.bindingSequence } rest

def recoverFiles : BindingStore → List (String × Json) → Except Raised BindingStore
  | store, [] => .ok store
  | store, (name, payload) :: rest =>
    if !".json".toList.isSuffixOf name.toList then recoverFiles store rest
    else do
      let events ← config.decodeFile (config.path name) payload
      let later ← config.applyRecovered (config.path name) store events
      recoverFiles later rest

/-- `_recover`: replay the files of the events directory in the order of their names. -/
def recover (files : List (String × Json)) : Except Raised BindingStore :=
  (config.recoverFiles {} (Json.sortFields files)).map fun store =>
    { store with publishedSequence := store.sequence }

end StoreConfig

/-- What `bind_receipt` reads of a receipt. -/
structure BindRequest where
  receiptRequirementId : String
  componentId : String
  instanceId : String
  ownerScope : OwnerScope
  ownerRank : Option Int
  nodeId : String
  deriving DecidableEq

inductive BindingCall where
  | bindReceipt (request : BindRequest) (now : Number)
  | revokeSlot (slot : String)
  | flush

/-- The steps a call has left. -/
inductive StoreTask where
  | retire (slot : String) (state : BindingState)
  | activate (request : BindRequest) (now : Number) (supersedes : Option String)
  | acquireLease
  | publishEvents
  | publishCurrent
  deriving DecidableEq

/-- How a step's I/O ends; a failure after the link or the replacement leaves the
    file in place. -/
inductive IoOutcome where
  | succeeded
  | failedBefore
  | failedAfter
  deriving DecidableEq, Repr

/-- A store with its directory, in the middle of a call or between calls. -/
structure Writer where
  store : BindingStore := {}
  files : List (String × Json) := []
  currentFile : Option Json := none
  todo : List StoreTask := []
  raised : Option Raised := none

inductive WriterEvent where
  | call (call : BindingCall)
  | advance (outcome : IoOutcome)

namespace Writer

variable (config : StoreConfig)

def raise (writer : Writer) (failure : Raised) : Writer :=
  { writer with todo := [], raised := some failure }

/-- `_publish_barrier`: what it does under the lease. -/
def barrier (publishCurrent : Bool) : List StoreTask :=
  .acquireLease :: .publishEvents :: if publishCurrent then [.publishCurrent] else []

/-- The memory after an event. -/
def appended (store : BindingStore) (event : ComponentInstanceBinding) : BindingStore :=
  { store with
    current := applyEvent store.current event
    sequence := event.bindingSequence
    pending := store.pending ++ [event] }

/-- What an append leaves to be published: nothing until a batch is full. -/
def dueTasks (store : BindingStore) : List StoreTask :=
  let publishCurrent := decide (config.currentPublishBatchSize ≤ store.sequence - store.publishedSequence)
  if decide (config.eventPublishBatchSize ≤ store.pending.length) || publishCurrent then barrier publishCurrent
  else []

/-- `_append`: apply the event, then publish when a batch is full. -/
def append (writer : Writer) (event : ComponentInstanceBinding) : Writer :=
  match config.verifyIdentity event with
  | .error failure => writer.raise failure
  | .ok () =>
    if event.componentInstanceBindingHash ≠ event.computeHash then
      writer.raise (storeError "component binding event is not finalized")
    else
      let store := appended writer.store event
      { writer with store, todo := dueTasks config store ++ writer.todo }

def appendBuilt (writer : Writer) : Except Raised ComponentInstanceBinding → Writer
  | .error failure => writer.raise failure
  | .ok event => writer.append config event.finalize

/-- The event that ends a current binding. -/
def retired (store : BindingStore) (state : BindingState) (held : ComponentInstanceBinding) :
    ComponentInstanceBinding :=
  { held with state, bindingSequence := store.sequence + 1, componentInstanceBindingHash := "" }

def activated (store : BindingStore) (request : BindRequest) (now : Number) (supersedes : Option String) :
    ComponentInstanceBinding :=
  { identity := config.identity, receiptRequirementId := request.receiptRequirementId
    componentId := request.componentId, instanceId := request.instanceId, ownerScope := request.ownerScope
    ownerRank := request.ownerRank, nodeId := request.nodeId, boundAt := now, state := .active
    bindingSequence := store.sequence + 1, supersedesInstanceId := supersedes }

/-- `_publish_pending_events`; the link refuses a name that is taken. -/
def publishEvents (writer : Writer) (outcome : IoOutcome) : Writer :=
  if writer.store.pending = [] then writer
  else
    let file := config.batchFile writer.store.pending
    let failure : Raised := .other "OSError" "component binding batch write failed"
    match outcome with
    | .failedBefore => writer.raise failure
    | _ =>
      if file.1 ∈ writer.files.map Prod.fst then
        writer.raise (storeError s!"component binding batch already exists: {config.path file.1}")
      else
        let linked := { writer with files := writer.files ++ [file] }
        if outcome = .failedAfter then linked.raise failure
        else { linked with store := { linked.store with pending := [] } }

/-- `_publish_current`, unless the projection is up to date. -/
def publishCurrent (writer : Writer) (outcome : IoOutcome) : Writer :=
  if writer.store.publishedSequence = writer.store.sequence then writer
  else
    let failure : Raised := .other "OSError" "component binding projection write failed"
    let replaced := { writer with currentFile := some (config.currentPayload writer.store) }
    match outcome with
    | .failedBefore => writer.raise failure
    | .failedAfter => replaced.raise failure
    | .succeeded =>
      { replaced with store := { replaced.store with publishedSequence := replaced.store.sequence } }

def perform (writer : Writer) (outcome : IoOutcome) : StoreTask → Writer
  | .retire slot state =>
    match writer.store.current.get? slot with
    | some held => writer.appendBuilt config (retired writer.store state held).rebuilt
    | none => writer
  | .activate request now supersedes =>
    writer.appendBuilt config (activated config writer.store request now supersedes).rebuilt
  | .acquireLease =>
    if outcome = .succeeded then writer else writer.raise (.other "LeaseError" "component binding lease not acquired")
  | .publishEvents => writer.publishEvents config outcome
  | .publishCurrent => writer.publishCurrent config outcome

/-- The steps of a call, as it finds the store. -/
def tasks (store : BindingStore) : BindingCall → List StoreTask
  | .bindReceipt request now =>
    match store.current.get? request.receiptRequirementId with
    | some held =>
      if held.instanceId = request.instanceId then []
      else [.retire request.receiptRequirementId .superseded, .activate request now (some held.instanceId)]
    | none => [.activate request now none]
  | .revokeSlot slot => if (store.current.get? slot).isSome then [.retire slot .revoked] else []
  | .flush => barrier true

/-- A call begins between calls only; an advance does the next step of the call. -/
def step (writer : Writer) : WriterEvent → Writer
  | .call call =>
    match writer.todo with
    | [] => { writer with todo := tasks writer.store call, raised := none }
    | _ :: _ => writer
  | .advance outcome =>
    match writer.todo with
    | [] => writer
    | task :: rest => { writer with todo := rest }.perform config outcome task

end Writer

end ExaServe.State
