import ExaServe.State.Status

namespace ExaServe.State.Ownership

open Lib Plan Control Status

def ownershipError (message : String) : Raised := .other "ProcessOwnershipError" message

/-- What a NodeSupervisor recorded of a process group it created. -/
structure ProcessOwnershipReceipt where
  uid : Nat
  hostname : String
  deploymentId : String
  generation : Nat
  rank : Nat
  componentId : String
  pid : Nat
  pgid : Nat
  processStartTicks : Nat
  argvHash : String
  tempPaths : List String
  createdAt : Number
  receiptHash : String
  deriving DecidableEq

def receiptFields : List String :=
  ["schema_version", "uid", "hostname", "deployment_id", "generation", "rank", "component_id", "pid", "pgid",
    "process_start_ticks", "argv_hash", "temp_paths", "created_at", "receipt_hash"]

/-- The process that cleans up: its user and node, how it reads a path, the paths it
    takes for owned and the state root of a generation. -/
structure Site where
  uid : Nat
  hostname : String
  abspath : String → String
  isOwnedTempPath : String → String → Nat → Bool
  defaultLocalStateRoot : String → Nat → String

section Load

variable (site : Site) (field : String → Json)

def countField (name : String) : Except Raised Nat :=
  match field name with
  | .int (.ofNat value) => .ok value
  | _ => .error (ownershipError s!"process ownership {name} is invalid")

def textField (name : String) : Except Raised String :=
  match field name with
  | .str text =>
    if text = "" then .error (ownershipError s!"process ownership {name} is required") else .ok text
  | _ => .error (ownershipError s!"process ownership {name} is required")

def schemaField : Except Raised Unit :=
  match Number.ofJson? (field "schema_version") with
  | some version => require (Number.value version = 1) (ownershipError "unsupported process ownership schema")
  | none => .error (ownershipError "unsupported process ownership schema")

def argvHashField : Except Raised String :=
  match field "argv_hash" with
  | .str text =>
    if isSha256Hex text then .ok text else .error (ownershipError "process ownership argv_hash is invalid")
  | _ => .error (ownershipError "process ownership argv_hash is invalid")

def createdAtField : Except Raised Number := do
  let refused := ownershipError "process ownership created_at is invalid"
  let createdAt ← finiteNumber (field "created_at") refused
  require (0 < Number.value createdAt) refused
  .ok createdAt

def tempPathsOf (deploymentId : String) (generation : Nat) : List Json → Except Raised (List String)
  | [] => .ok []
  | .str path :: rest => do
    require (path ≠ "") (ownershipError "owned temp path is invalid")
    require (site.isOwnedTempPath path deploymentId generation = true)
      (ownershipError s!"owned temp path escapes ownership root: {path}")
    let others ← tempPathsOf deploymentId generation rest
    .ok (path :: others)
  | _ :: _ => .error (ownershipError "owned temp path is invalid")

def tempPathsField (deploymentId : String) (generation : Nat) : Except Raised (List String) :=
  match field "temp_paths" with
  | .arr items => tempPathsOf site deploymentId generation items
  | _ => .error (ownershipError "owned temp paths must be a sequence")

def receiptHashField : Except Raised String :=
  match field "receipt_hash" with
  | .str text =>
    if text = "" ∨ isSha256Hex text then .ok text
    else .error (ownershipError "process ownership receipt_hash is invalid")
  | _ => .error (ownershipError "process ownership receipt_hash is invalid")

/-- `ProcessOwnershipReceipt.__post_init__`. -/
def receiptOf : Except Raised ProcessOwnershipReceipt := do
  schemaField field
  let uid ← countField field "uid"
  let generation ← countField field "generation"
  let rank ← countField field "rank"
  let pid ← countField field "pid"
  let pgid ← countField field "pgid"
  let processStartTicks ← countField field "process_start_ticks"
  require (0 < pid ∧ 0 < pgid ∧ 0 < processStartTicks)
    (ownershipError "process ownership PID identity is invalid")
  let hostname ← textField field "hostname"
  let deploymentId ← textField field "deployment_id"
  let componentId ← textField field "component_id"
  let argvHash ← argvHashField field
  let createdAt ← createdAtField field
  let tempPaths ← tempPathsField site field deploymentId generation
  let receiptHash ← receiptHashField field
  .ok {
    uid, hostname, deploymentId, generation, rank, componentId, pid, pgid, processStartTicks, argvHash
    tempPaths, createdAt, receiptHash }

/-- `load_process_ownership`, from what the file could be read as. -/
def loadProcessOwnership (content : Except Raised Json) : Except Raised ProcessOwnershipReceipt := do
  let raw ← content
  require (raw.wellKeyed = true) (ownershipError "invalid ownership receipt: duplicate JSON key")
  match raw with
  | .obj fields => do
    require (Json.sameNames fields receiptFields = true)
      (ownershipError "process ownership receipt shape mismatch")
    let receipt ← receiptOf site fun name => (Json.lookup name fields).getD .null
    require (receipt.receiptHash = canonicalHash (.obj (fields.filter fun entry => entry.1 ≠ "receipt_hash")))
      (ownershipError "process ownership receipt hash mismatch")
    .ok receipt
  | _ => .error (ownershipError "process ownership receipt shape mismatch")

end Load

/-- A process as `/proc` shows it, and whether this user may signal it. -/
structure Process where
  startTicks : Nat
  pgid : Nat
  uid : Nat
  permitted : Bool := true
  deriving DecidableEq

/-- What a `killpg` comes back with. -/
inductive Delivery where
  | delivered | noProcess | denied
  deriving DecidableEq

/-- The node while one receipt is handled: its processes, what the kernel answers to
    each signal, whether the group is still there afterwards, and which paths fail to
    go and why. -/
structure Scene where
  processes : Dict Nat Process
  unreadable : Bool := false
  term : Delivery := .delivered
  outlastsTerm : Bool := false
  kill : Delivery := .delivered
  outlastsKill : Bool := false
  failure : String → Option String := fun _ => none
  unlink : Except Raised Unit := .ok ()

namespace Scene

variable (site : Site) (scene : Scene) (receipt : ProcessOwnershipReceipt)

/-- `_same_process`. -/
def sameProcess : Except Raised Bool :=
  match scene.processes.get? receipt.pid with
  | none => .ok false
  | some process =>
    if process.permitted = false then
      .error (ownershipError s!"cannot verify ownership of live pid {receipt.pid}: not permitted")
    else if scene.unreadable then
      .error (ownershipError s!"cannot verify process identity for pid {receipt.pid}: input/output error")
    else .ok (process.startTicks = receipt.processStartTicks && process.pgid = receipt.pgid &&
      process.uid = receipt.uid && receipt.uid = site.uid)

/-- `_group_alive`. -/
def groupAlive (pgid : Nat) : Bool := scene.processes.values.any fun process => process.pgid = pgid

end Scene

inductive Sig where
  | term | kill
  deriving DecidableEq

/-- A signal that was sent, the receipt it was sent for and the processes then. -/
structure Killpg where
  pgid : Nat
  sig : Sig
  receipt : ProcessOwnershipReceipt
  processes : Dict Nat Process

/-- What a cleanup has sent and what it came to. -/
structure Cleaned (α : Type) where
  sent : List Killpg := []
  outcome : Except Raised α

section Cleanup

variable (site : Site) (scene : Scene) (receipt : ProcessOwnershipReceipt)

def killpg (sig : Sig) : Killpg :=
  { pgid := receipt.pgid, sig, receipt, processes := scene.processes }

def denied : Raised := .other "PermissionError" "Operation not permitted"

def survived : Except Raised Unit :=
  if scene.outlastsKill then .error (ownershipError s!"owned process group {receipt.pgid} survived cleanup")
  else .ok ()

/-- `_terminate_owned_group`. -/
def terminateOwnedGroup : Cleaned Unit :=
  if scene.groupAlive receipt.pgid = false then { outcome := .ok () }
  else match scene.term with
    | .noProcess => { sent := [killpg scene receipt .term], outcome := .ok () }
    | .denied => { sent := [killpg scene receipt .term], outcome := .error denied }
    | .delivered =>
      if scene.outlastsTerm = false then
        { sent := [killpg scene receipt .term], outcome := survived scene receipt }
      else {
        sent := [killpg scene receipt .term, killpg scene receipt .kill]
        outcome := match scene.kill with
          | .noProcess => .ok ()
          | .denied => .error denied
          | .delivered => survived scene receipt }

/-- `_remove_owned_paths`. -/
def removeOwnedPaths (preservePaths : List String) : Except Raised Unit :=
  let failures := (receipt.tempPaths.map site.abspath).filterMap fun path =>
    if path ∈ preservePaths.map site.abspath then none
    else if site.isOwnedTempPath path receipt.deploymentId receipt.generation = false then
      some s!"unsafe path {path}"
    else scene.failure path
  if failures = [] then .ok ()
  else .error (ownershipError ("owned runtime cleanup failed: " ++ "; ".intercalate failures))

/-- The paths and the receipt go after the group has. -/
def Cleaned.thenRemove (cleaned : Cleaned Unit) (preservePaths : List String) : Cleaned Unit :=
  { cleaned with outcome := do
      cleaned.outcome
      removeOwnedPaths site scene receipt preservePaths
      scene.unlink }

end Cleanup

/-- A file of the receipt directory, in the order of its paths: what it reads as, and
    the node when the guardian is looked for and when the receipt is handled. -/
structure Entry where
  content : Except Raised Json
  earlier : Scene
  scene : Scene

structure Component where
  deploymentId : String
  generation : Nat
  rank : Nat
  componentId : String
  deriving DecidableEq

section Calls

variable (site : Site)

def Component.of (receipt : ProcessOwnershipReceipt) : Component :=
  { deploymentId := receipt.deploymentId, generation := receipt.generation, rank := receipt.rank,
    componentId := receipt.componentId }

def isMatch (component : Component) (receipt : ProcessOwnershipReceipt) : Bool :=
  receipt.uid = site.uid ∧ receipt.hostname = site.hostname ∧ Component.of receipt = component

/-- The receipt of a live guardian. -/
def guardianLive (component : Component) : List (Entry × ProcessOwnershipReceipt) → Except Raised Bool
  | [] => .ok false
  | (entry, receipt) :: rest =>
    if isMatch site { component with componentId := "ray" } receipt then do
      let live ← entry.earlier.sameProcess site receipt
      if live then .ok true else guardianLive component rest
    else guardianLive component rest

def loadAll : List Entry → Except Raised (List (Entry × ProcessOwnershipReceipt))
  | [] => .ok []
  | entry :: rest => do
    let receipt ← loadProcessOwnership site entry.content
    let others ← loadAll rest
    .ok ((entry, receipt) :: others)

/-- What `cleanup_owned_component_processes` does before its loop. -/
def componentReceipts (component : Component) (deadlineS : ℚ) (entries : List Entry) :
    Except Raised (List (Entry × ProcessOwnershipReceipt)) := do
  require (component.deploymentId ≠ "" ∧ component.componentId ≠ "")
    (ownershipError "owned component cleanup identity is invalid")
  require (0 < deadlineS) (ownershipError "owned component cleanup deadline must be finite and positive")
  let receipts ← loadAll site entries
  let guarded ← if component.componentId = "ray_child" then guardianLive site component receipts else .ok false
  require (guarded = false)
    (ownershipError "refusing child fallback cleanup while its exact guardian is still live")
  .ok receipts

def cleanComponents (component : Component) : Nat → List (Entry × ProcessOwnershipReceipt) → Cleaned Nat
  | cleaned, [] => { outcome := .ok cleaned }
  | cleaned, (entry, receipt) :: rest =>
    if isMatch site component receipt then
      let one := (terminateOwnedGroup entry.scene receipt).thenRemove site entry.scene receipt []
      match one.outcome with
      | .error raised => { sent := one.sent, outcome := .error raised }
      | .ok _ =>
        let others := cleanComponents component (cleaned + 1) rest
        { others with sent := one.sent ++ others.sent }
    else cleanComponents component cleaned rest

def cleanupOwnedComponentProcesses (component : Component) (deadlineS : ℚ) (entries : List Entry) :
    Cleaned Nat :=
  match componentReceipts site component deadlineS entries with
  | .error raised => { outcome := .error raised }
  | .ok receipts => cleanComponents site component 0 receipts

/-- The paths that stay when a dead receipt of the current generation goes. -/
def preservePaths (deploymentId : String) (generation : Nat) (receipt : ProcessOwnershipReceipt) : List String :=
  if receipt.deploymentId = deploymentId ∧ receipt.generation = generation then
    [site.defaultLocalStateRoot deploymentId generation]
  else []

/-- A receipt of this node that may be stale. A live one of the same deployment stops
    the cleanup unless its generation is older. -/
def cleanStale (deploymentId : String) (generation : Nat) (scene : Scene) (receipt : ProcessOwnershipReceipt) :
    Cleaned Bool :=
  let preserved := preservePaths site deploymentId generation receipt
  if receipt.uid ≠ site.uid ∨ receipt.hostname ≠ site.hostname then { outcome := .ok false }
  else match scene.sameProcess site receipt with
    | .error raised => { outcome := .error raised }
    | .ok true =>
      if receipt.deploymentId ≠ deploymentId then { outcome := .ok false }
      else if generation ≤ receipt.generation then
        let relationship := if receipt.generation = generation then "same" else "newer"
        let shown := quotedText deploymentId
        let owner := s!"live {relationship} generation {receipt.generation} already owns"
        { outcome := .error (ownershipError
            s!"{owner} process group {receipt.pgid} for deployment {shown}") }
      else
        let one := (terminateOwnedGroup scene receipt).thenRemove site scene receipt preserved
        { sent := one.sent, outcome := one.outcome.map fun _ => true }
    | .ok false =>
      let one := Cleaned.thenRemove site scene receipt { outcome := .ok () } preserved
      { sent := one.sent, outcome := one.outcome.map fun _ => true }

def cleanStales (deploymentId : String) (generation : Nat) : Nat → List Entry → Cleaned Nat
  | cleaned, [] => { outcome := .ok cleaned }
  | cleaned, entry :: rest =>
    match loadProcessOwnership site entry.content with
    | .error raised => { outcome := .error raised }
    | .ok receipt =>
      let one := cleanStale site deploymentId generation entry.scene receipt
      match one.outcome with
      | .error raised => { sent := one.sent, outcome := .error raised }
      | .ok removed =>
        let others := cleanStales deploymentId generation (if removed then cleaned + 1 else cleaned) rest
        { others with sent := one.sent ++ others.sent }

def cleanupStaleOwnedProcesses (deploymentId : String) (generation : Nat) (deadlineS : ℚ)
    (entries : List Entry) : Cleaned Nat :=
  if deadlineS ≤ 0 then { outcome := .error (ownershipError "stale cleanup deadline must be finite and positive") }
  else cleanStales site deploymentId generation 0 entries

end Calls

end ExaServe.State.Ownership
