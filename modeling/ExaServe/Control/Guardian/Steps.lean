import ExaServe.Lib.Run
import ExaServe.State.ProcessOwnership

namespace ExaServe.Control.Guardian

open Lib Plan State.Ownership

/-- A process as its receipt names it. -/
structure ProcessIdentity where
  pid : Nat
  pgid : Nat
  startTicks : Nat
  deriving DecidableEq

/-- One guarded launch: what the NodeSupervisor and the guardian it starts are given, and the
    processes that come of it. -/
structure Launch where
  uid : Nat
  hostname : String
  deploymentId : String
  generation : Nat
  rank : Nat
  guardian : ProcessIdentity
  guardianArgv : List String
  tempPaths : List String
  child : ProcessIdentity
  childArgv : List String
  createdAt : Number
  receiptWait : String

section Receipts

def canonicalArgv (argv : List String) : String := canonicalHash (.arr (argv.map .str))

/-- `ProcessOwnershipReceipt.canonical`. -/
def canonical (receipt : ProcessOwnershipReceipt) : Json :=
  .obj [("schema_version", .int 1), ("uid", .int receipt.uid), ("hostname", .str receipt.hostname),
    ("deployment_id", .str receipt.deploymentId), ("generation", .int receipt.generation),
    ("rank", .int receipt.rank), ("component_id", .str receipt.componentId), ("pid", .int receipt.pid),
    ("pgid", .int receipt.pgid), ("process_start_ticks", .int receipt.processStartTicks),
    ("argv_hash", .str receipt.argvHash), ("temp_paths", .arr (receipt.tempPaths.map .str)),
    ("created_at", receipt.createdAt.toJson)]

def finalize (receipt : ProcessOwnershipReceipt) : ProcessOwnershipReceipt :=
  { receipt with receiptHash := canonicalHash (canonical receipt) }

variable (launch : Launch)

/-- The receipt that `ProcessOwnershipRegistry.record` creates. -/
def record (componentId : String) (identity : ProcessIdentity) (argv tempPaths : List String) :
    ProcessOwnershipReceipt :=
  finalize {
    uid := launch.uid, hostname := launch.hostname, deploymentId := launch.deploymentId
    generation := launch.generation, rank := launch.rank, componentId, pid := identity.pid, pgid := identity.pgid
    processStartTicks := identity.startTicks, argvHash := canonicalArgv argv, tempPaths
    createdAt := launch.createdAt, receiptHash := "" }

def guardianRecord : ProcessOwnershipReceipt :=
  record launch "ray" launch.guardian launch.guardianArgv launch.tempPaths

def childRecord : ProcessOwnershipReceipt := record launch "ray_child" launch.child launch.childArgv []

def isOwn (identity : ProcessIdentity) (componentId : String) (receipt : ProcessOwnershipReceipt) : Bool :=
  receipt.pid = identity.pid ∧ receipt.pgid = identity.pgid ∧ receipt.processStartTicks = identity.startTicks ∧
    receipt.deploymentId = launch.deploymentId ∧ receipt.generation = launch.generation ∧
    receipt.rank = launch.rank ∧ receipt.componentId = componentId

/-- What `_await_own_receipt` asks of the receipt it finds. -/
def ownReceipt (receipt : ProcessOwnershipReceipt) : Bool := isOwn launch launch.guardian "ray" receipt

/-- What `_await_child_receipt` asks of the receipt it finds. -/
def childReceipt (receipt : ProcessOwnershipReceipt) : Bool :=
  isOwn launch launch.child "ray_child" receipt && receipt.argvHash = canonicalArgv launch.childArgv

theorem ownReceipt_record : ownReceipt launch (guardianRecord launch) = true := by
  simp [ownReceipt, isOwn, guardianRecord, record, finalize]

theorem childReceipt_record : childReceipt launch (childRecord launch) = true := by
  simp [childReceipt, isOwn, childRecord, record, finalize]

end Receipts

/-- A receipt file: its content is synced before it is linked under its name, its directory after. -/
inductive Publication where
  | absent
  | linked (receipt : ProcessOwnershipReceipt)
  | synced (receipt : ProcessOwnershipReceipt)
  deriving DecidableEq

namespace Publication

def receipt? : Publication → Option ProcessOwnershipReceipt
  | absent => none
  | linked receipt | synced receipt => some receipt

def sync : Publication → Publication
  | linked receipt => synced receipt
  | other => other

@[simp] theorem receipt?_sync (publication : Publication) : publication.sync.receipt? = publication.receipt? := by
  cases publication <;> rfl

end Publication

/-- Why the guardian stops its child. -/
inductive Cause where
  | childExited (code : Int)
  | signalled
  | ownerLost
  | raised (message : String)
  deriving DecidableEq

/-- Where `run_guardian` is. -/
inductive GuardianPhase where
  | unborn
  | arming
  | armed
  | spawned
  | publishing
  | watching
  | unwinding (failure : String) (killed : Bool)
  | stopping (cause : Cause) (killed : Bool)
  | stopped (cause : Cause)
  | released (cause : Cause)
  | disowned
  | exited (result : Except String Nat)
  | expired (failure : String)
  | crashed
  deriving DecidableEq

/-- Where the process that is to become Ray is. -/
inductive ChildPhase where
  | unborn
  | bootstrap
  | fenced
  | ray
  | ended
  deriving DecidableEq

/-- Where the NodeSupervisor is. -/
inductive OwnerPhase where
  | ready
  | started
  | publishing
  | running
  | loaded (sawGuardian sawChild : Bool)
  | terminating (sawChild killed : Bool)
  | cleaned
  | incomplete
  | released
  | lost
  deriving DecidableEq

/-- The three processes, the rest of the child's group, and the two receipt files. -/
structure Party where
  owner : OwnerPhase := .ready
  guardian : GuardianPhase := .unborn
  child : ChildPhase := .unborn
  descendants : Nat := 0
  guardianFile : Publication := .absent
  childFile : Publication := .absent
  stopSignal : Bool := false
  deriving DecidableEq

def GuardianPhase.alive : GuardianPhase → Bool
  | .unborn | .exited _ | .expired _ | .crashed => false
  | _ => true

def ChildPhase.alive : ChildPhase → Bool
  | .bootstrap | .fenced | .ray => true
  | .unborn | .ended => false

namespace Party

def groupAlive (party : Party) : Bool := party.child.alive || 0 < party.descendants

/-- A process that came of the exec is alive. -/
def rayAlive (party : Party) : Bool := party.child = .ray || 0 < party.descendants

end Party

section Guardian

inductive GuardianStep where
  | ownerGone
  | identityUnreadable (message : String)
  | readReceipt
  | receiptInvalid (message : String)
  | waitExpires
  | spawn
  | spawnFails (message : String)
  | link
  | recordFails (message : String)
  | sync
  | childExits (code : Int)
  | heedSignal
  | kill
  | groupEmpty
  | deadline
  | release
  | releaseFails (message : String)
  | finish
  deriving DecidableEq

/-- `_normalized_exit_code`. -/
def normalizedExitCode : Option Int → Nat
  | none => 1
  | some code => if code = 0 then 0 else if code < 0 then 128 + code.natAbs else min 255 code.toNat

def startFailed (failure : String) : String := s!"guarded Ray process failed to start: {failure}"

def Cause.reason : Cause → String
  | .ownerLost => "NodeSupervisor owner lost"
  | _ => "guardian shutdown"

def retained (reason : String) : String :=
  s!"component 'guarded_ray' retained process-group members after cleanup deadline ({reason})"

/-- What `run_guardian` comes to once its child is gone. -/
def result (stopSignal : Bool) : Cause → Except String Nat
  | .raised message => .error message
  | .ownerLost => .ok 1
  | .signalled => .ok 0
  | .childExited code => .ok (if stopSignal then 0 else normalizedExitCode (some code))

variable (launch : Launch)

/-- One step of the guardian; a step that is not its next leaves everything as it is. -/
def guardianStep (party : Party) (step : GuardianStep) : Party :=
  match party.guardian, step with
  | .arming, .ownerGone =>
    if party.owner = .lost then
      { party with guardian := .exited (.error "exact NodeSupervisor owner disappeared before arming") }
    else party
  | .arming, .identityUnreadable message => { party with guardian := .exited (.error message) }
  | .arming, .readReceipt =>
    match party.guardianFile.receipt? with
    | none => party
    | some receipt =>
      if ownReceipt launch receipt then { party with guardian := .armed }
      else { party with guardian := .exited (.error "guardian ownership receipt has the wrong identity") }
  | .arming, .receiptInvalid message =>
    { party with guardian := .exited (.error s!"guardian ownership receipt is invalid: {message}") }
  | .arming, .waitExpires =>
    let wait := launch.receiptWait
    { party with guardian := .exited (.error s!"guardian ownership receipt was not published within {wait}s") }
  | .armed, .spawn => { party with guardian := .spawned, child := .bootstrap }
  | .armed, .spawnFails message => { party with guardian := .exited (.error (startFailed message)) }
  | .spawned, .link =>
    match party.childFile with
    | .absent => { party with guardian := .publishing, childFile := .linked (childRecord launch) }
    | _ => { party with guardian := .unwinding "ownership receipt already exists" false }
  | .spawned, .recordFails message => { party with guardian := .unwinding message false }
  | .publishing, .sync => { party with guardian := .watching, childFile := party.childFile.sync }
  | .publishing, .recordFails message => { party with guardian := .unwinding message false }
  | .watching, .childExits code =>
    if party.child = .ended then { party with guardian := .stopping (.childExited code) false } else party
  | .watching, .heedSignal =>
    if party.stopSignal then { party with guardian := .stopping .signalled false } else party
  | .watching, .ownerGone =>
    if party.owner = .lost then { party with guardian := .stopping .ownerLost false } else party
  | .watching, .identityUnreadable message => { party with guardian := .stopping (.raised message) false }
  | .unwinding failure _, .kill => { party with guardian := .unwinding failure true }
  | .unwinding failure _, .groupEmpty =>
    if party.groupAlive then party else { party with guardian := .exited (.error (startFailed failure)) }
  | .unwinding failure true, .deadline =>
    let outlived := retained "child ownership publication failed"
    { party with guardian := .expired s!"guarded Ray ownership failed ({failure}); cleanup also failed: {outlived}" }
  | .stopping cause _, .kill => { party with guardian := .stopping cause true }
  | .stopping cause _, .groupEmpty =>
    if party.groupAlive then party else { party with guardian := .stopped cause }
  | .stopping cause true, .deadline =>
    let outlived := retained cause.reason
    { party with guardian := .expired s!"guarded Ray cleanup failed: {outlived}" }
  | .stopped cause, .release => { party with guardian := .released cause, childFile := .absent }
  | .stopped _, .releaseFails message => { party with guardian := .exited (.error message) }
  | .released .ownerLost, .release => { party with guardian := .disowned, guardianFile := .absent }
  | .released .ownerLost, .releaseFails message => { party with guardian := .exited (.error message) }
  | .released .ownerLost, .finish => party
  | .released cause, .finish => { party with guardian := .exited (result party.stopSignal cause) }
  | .disowned, .finish => { party with guardian := .exited (result party.stopSignal .ownerLost) }
  | _, _ => party

end Guardian

section Child

inductive ChildStep where
  | guardianGone
  | identityUnreadable
  | readReceipt
  | receiptInvalid
  | waitExpires
  | exec
  | execFails
  | fork
  | memberExits
  | exits
  deriving DecidableEq

/-- One step of the child or of what it has forked: `run_guarded_child_bootstrap`, then Ray. -/
def childStep (launch : Launch) (party : Party) (step : ChildStep) : Party :=
  match party.child, step with
  | .bootstrap, .guardianGone => if party.guardian.alive then party else { party with child := .ended }
  | .bootstrap, .identityUnreadable | .bootstrap, .receiptInvalid | .bootstrap, .waitExpires =>
    { party with child := .ended }
  | .bootstrap, .readReceipt =>
    match party.childFile.receipt? with
    | none => party
    | some receipt => { party with child := if childReceipt launch receipt then .fenced else .ended }
  | .fenced, .exec => { party with child := .ray }
  | .fenced, .execFails => { party with child := .ended }
  | child, .exits => if child.alive then { party with child := .ended } else party
  | _, .fork => if party.rayAlive then { party with descendants := party.descendants + 1 } else party
  | _, .memberExits => { party with descendants := party.descendants - 1 }
  | _, _ => party

end Child

section Owner

inductive OwnerStep where
  | spawn
  | link
  | sync
  | recordFails
  | requestStop
  | load
  | check
  | checkFails
  | kill
  | groupEmpty
  | deadline
  | release
  deriving DecidableEq

/-- What a SIGTERM does to the guardian: it is fatal until the handlers are installed. -/
def requestStop (party : Party) : Party :=
  match party.guardian with
  | .arming => { party with guardian := .crashed }
  | _ => { party with stopSignal := true }

/-- One step of the NodeSupervisor: it records the guardian it starts, and cleans up after it. -/
def ownerStep (launch : Launch) (party : Party) (step : OwnerStep) : Party :=
  match party.owner, step with
  | .ready, .spawn =>
    { party with owner := .started, guardian := if party.guardian = .unborn then .arming else party.guardian }
  | .started, .link =>
    match party.guardianFile with
    | .absent => { party with owner := .publishing, guardianFile := .linked (guardianRecord launch) }
    | _ => { party with owner := .running }
  | .publishing, .sync => { party with owner := .running, guardianFile := party.guardianFile.sync }
  | .started, .recordFails | .publishing, .recordFails => { party with owner := .running }
  | .running, .requestStop => requestStop party
  | .running, .load =>
    { party with owner := .loaded party.guardianFile.receipt?.isSome party.childFile.receipt?.isSome }
  | .loaded sawGuardian sawChild, .check =>
    if sawGuardian && party.guardian.alive then { party with owner := .incomplete }
    else { party with owner := .terminating sawChild false }
  | .loaded _ _, .checkFails => { party with owner := .incomplete }
  | .terminating sawChild _, .kill => { party with owner := .terminating sawChild true }
  | .terminating false _, .groupEmpty => { party with owner := .cleaned }
  | .terminating true _, .groupEmpty =>
    if party.groupAlive then party else { party with owner := .cleaned, childFile := .absent }
  | .terminating _ true, .deadline => { party with owner := .incomplete }
  | .cleaned, .release =>
    if party.guardian.alive then party else { party with owner := .released, guardianFile := .absent }
  | _, _ => party

end Owner

/-- A step of one of the three, or the sudden end of the owner or the guardian; that of the
    child or of a member of its group is an exit like any other. -/
inductive Event where
  | owner (step : OwnerStep)
  | guardian (step : GuardianStep)
  | child (step : ChildStep)
  | ownerKilled
  | guardianKilled
  deriving DecidableEq

def step (launch : Launch) (party : Party) : Event → Party
  | .owner step => ownerStep launch party step
  | .guardian step => guardianStep launch party step
  | .child step => childStep launch party step
  | .ownerKilled => { party with owner := .lost }
  | .guardianKilled => if party.guardian.alive then { party with guardian := .crashed } else party

end ExaServe.Control.Guardian
