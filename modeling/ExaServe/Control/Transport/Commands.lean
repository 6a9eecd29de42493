import ExaServe.Control.Transport.Snapshot

namespace ExaServe.Control

open Lib Plan

/-- The operations a rank may answer. -/
inductive Operation where
  | start | startHead | startWorker | drain | stop | snapshotAccepted
  deriving DecidableEq, Repr

namespace Operation

def value : Operation → String
  | start => "START"
  | startHead => "START_HEAD"
  | startWorker => "START_WORKER"
  | drain => "DRAIN"
  | stop => "STOP"
  | snapshotAccepted => "SNAPSHOT_ACCEPTED"

def all : List Operation := [start, startHead, startWorker, drain, stop, snapshotAccepted]

def ofValue (text : String) : Option Operation := all.find? fun operation => operation.value = text

theorem ofValue_eq_some {text : String} {operation : Operation} (found : ofValue text = some operation) :
    operation.value = text := by
  have hit := List.find?_some found
  simpa using hit

end Operation

def isText (expected : String) : Option Json → Bool
  | some (.str text) => text = expected
  | _ => false

/-- Membership in a set of texts; a list or an object cannot be looked up in one. -/
def textIn (texts : List String) (error : String) : Option Json → Except Raised String
  | some (.str text) => if text ∈ texts then .ok text else .error (.contract error)
  | some (.arr _) => .error (.other "TypeError" "unhashable type: 'list'")
  | some (.obj _) => .error (.other "TypeError" "unhashable type: 'dict'")
  | _ => .error (.contract error)

def nonemptyText (error : String) : Option Json → Except Raised String
  | some (.str text) => if text = "" then .error (.contract error) else .ok text
  | _ => .error (.contract error)

def hashText (error : String) : Option Json → Except Raised String
  | some (.str text) => if isSha256Hex text then .ok text else .error (.contract error)
  | _ => .error (.contract error)

def require (condition : Bool) (error : String) : Except Raised Unit :=
  if condition then .ok () else .error (.contract error)

/-- A COMMAND_RESULT that passed its checks; its status is the one `ok` stands for,
    and a snapshot's answer names the snapshot and its hash. -/
structure CommandResult where
  commandId : String
  operation : Operation
  ok : Bool
  detail : String
  snapshot : Option (String × String)
  deriving DecidableEq

def CommandResult.status (result : CommandResult) : String :=
  if result.ok then "SUCCEEDED" else "FAILED"

def resultFields (operation : Option Json) : List String :=
  ["payload_version", "command_id", "operation", "ok", "detail", "status"] ++
    if isText Operation.snapshotAccepted.value operation then ["snapshot_id", "complete_set_hash"] else []

def boolField (error : String) : Option Json → Except Raised Bool
  | some (.bool value) => .ok value
  | _ => .error (.contract error)

def anyText (error : String) : Option Json → Except Raised String
  | some (.str text) => .ok text
  | _ => .error (.contract error)

def snapshotIdentity (which : String) (hashError : String) (operation : Option Json)
    (payload : List (String × Json)) : Except Raised (Option (String × String)) :=
  if isText Operation.snapshotAccepted.value operation then do
    let snapshotId ← nonemptyText s!"snapshot {which} snapshot_id must be a nonempty string"
      (Json.lookup "snapshot_id" payload)
    let hash ← hashText hashError (Json.lookup "complete_set_hash" payload)
    .ok (some (snapshotId, hash))
  else .ok none

/-- `_validate_command_result_payload`, in the order of its checks. -/
def validateCommandResultPayload (payload : List (String × Json)) : Except Raised CommandResult := do
  require (payloadVersionOne payload) "invalid COMMAND_RESULT payload/version"
  let named := Json.lookup "operation" payload
  require (Json.sameNames payload (resultFields named))
    "COMMAND_RESULT fields do not match its operation contract"
  let commandId ← nonemptyText "COMMAND_RESULT command_id must be a nonempty string"
    (Json.lookup "command_id" payload)
  let text ← textIn (Operation.all.map Operation.value) "COMMAND_RESULT operation is unsupported" named
  let ok ← boolField "COMMAND_RESULT ok must be a boolean" (Json.lookup "ok" payload)
  let detail ← anyText "COMMAND_RESULT detail must be a string" (Json.lookup "detail" payload)
  let status ← textIn ["SUCCEEDED", "FAILED"] "COMMAND_RESULT status is unsupported"
    (Json.lookup "status" payload)
  require ((status == "SUCCEEDED") == ok) "COMMAND_RESULT status and ok disagree"
  let snapshot ← snapshotIdentity "result"
    "snapshot result complete_set_hash must be lowercase SHA-256" named payload
  match Operation.ofValue text with
  | some operation => .ok { commandId, operation, ok, detail, snapshot }
  | none => .error (.contract "COMMAND_RESULT operation is unsupported")

/-- A COMMAND that passed its checks. -/
structure Command where
  commandId : String
  operation : String
  snapshot : Option (String × String)
  deriving DecidableEq

def commandFields (operation : Option Json) : List String :=
  ["payload_version", "command_id", "operation"] ++
    if isText Operation.snapshotAccepted.value operation then ["snapshot_id", "complete_set_hash"] else []

/-- `_validate_command_payload`. -/
def validateCommandPayload (payload : List (String × Json)) : Except Raised Command := do
  require (payloadVersionOne payload) "unknown COMMAND payload_version"
  let commandId ← nonemptyText "COMMAND command_id must be a nonempty string"
    (Json.lookup "command_id" payload)
  let named := Json.lookup "operation" payload
  let operation ← nonemptyText "COMMAND operation must be a nonempty string" named
  require (Json.sameNames payload (commandFields named)) "COMMAND fields do not match its operation contract"
  let snapshot ← snapshotIdentity "command" "snapshot command hash must be lowercase SHA-256" named payload
  .ok { commandId, operation, snapshot }

end ExaServe.Control
