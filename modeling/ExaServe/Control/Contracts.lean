import ExaServe.Lib.JsonParse
import ExaServe.Lib.Utf8
import ExaServe.Plan.Contracts

namespace ExaServe.Control

open Lib Plan

def maxMessageBytes : Nat := 1048576

/-- What a modelled call raises: the control contract's own error, or another
    exception by its type and text. -/
inductive Raised where
  | contract (message : String)
  | other (type message : String)
  deriving DecidableEq, Repr

def Raised.text : Raised → String
  | .contract message => message
  | .other _ message => message

def Raised.described : Raised → String
  | .contract message => s!"ContractError: {message}"
  | .other type message => s!"{type}: {message}"

inductive ComponentState where
  | new | starting | running | ready | stopping | stopped | failed | unknown
  deriving DecidableEq, Repr

namespace ComponentState

def value : ComponentState → String
  | new => "NEW"
  | starting => "STARTING"
  | running => "RUNNING"
  | ready => "READY"
  | stopping => "STOPPING"
  | stopped => "STOPPED"
  | failed => "FAILED"
  | unknown => "UNKNOWN"

def all : List ComponentState := [new, starting, running, ready, stopping, stopped, failed, unknown]

def ofValue (text : String) : Option ComponentState := all.find? fun state => state.value = text

end ComponentState

inductive OwnerScope where
  | global | rank
  deriving DecidableEq, Repr

namespace OwnerScope

def value : OwnerScope → String
  | global => "GLOBAL"
  | rank => "RANK"

def ofValue (text : String) : Option OwnerScope := [global, rank].find? fun scope => scope.value = text

end OwnerScope

inductive EnvelopeKind where
  | register | observation | command | commandResult | snapshot | receipt | heartbeat | goodbye
  deriving DecidableEq, Repr

namespace EnvelopeKind

def value : EnvelopeKind → String
  | register => "REGISTER"
  | observation => "OBSERVATION"
  | command => "COMMAND"
  | commandResult => "COMMAND_RESULT"
  | snapshot => "SNAPSHOT"
  | receipt => "RECEIPT"
  | heartbeat => "HEARTBEAT"
  | goodbye => "GOODBYE"

def all : List EnvelopeKind :=
  [register, observation, command, commandResult, snapshot, receipt, heartbeat, goodbye]

def ofValue (text : String) : Option EnvelopeKind := all.find? fun kind => kind.value = text

theorem ofValue_value (kind : EnvelopeKind) : ofValue kind.value = some kind := by
  cases kind <;> decide

end EnvelopeKind

inductive RejectReason where
  | badMac | oversized | unknownSchema | unknownKind | wrongDeployment | wrongPlanHash
  | staleGeneration | staleInstance | sequenceRegression | rankMismatch | nodeMismatch
  | duplicateRank | notRegistered | malformed
  deriving DecidableEq, Repr

def RejectReason.value : RejectReason → String
  | badMac => "BAD_MAC"
  | oversized => "OVERSIZED"
  | unknownSchema => "UNKNOWN_SCHEMA"
  | unknownKind => "UNKNOWN_KIND"
  | wrongDeployment => "WRONG_DEPLOYMENT"
  | wrongPlanHash => "WRONG_PLAN_HASH"
  | staleGeneration => "STALE_GENERATION"
  | staleInstance => "STALE_INSTANCE"
  | sequenceRegression => "SEQUENCE_REGRESSION"
  | rankMismatch => "RANK_MISMATCH"
  | nodeMismatch => "NODE_MISMATCH"
  | duplicateRank => "DUPLICATE_RANK"
  | notRegistered => "NOT_REGISTERED"
  | malformed => "MALFORMED"

def malformed (detail : String) : Raised :=
  .contract (RejectReason.malformed.value ++ ": " ++ detail)

def rejected (reason : RejectReason) : Raised := .contract reason.value

def quotedNames : List String → String
  | [] => ""
  | [name] => quotedText name
  | [first, second] => quotedText first ++ " and " ++ quotedText second
  | names => ", ".intercalate (names.dropLast.map quotedText) ++ ", and " ++
      quotedText (names.getLastD "")

/-- The error of a dataclass constructor called with the fields of an object. -/
def constructorError (name : String) (required optional : List String) (data : List (String × Json)) :
    Option String :=
  match data.find? fun field => !(required ++ optional).contains field.1 with
  | some field => some s!"{name}.__init__() got an unexpected keyword argument {quotedText field.1}"
  | none =>
    match required.filter fun field => !(Json.fieldNames data).contains field with
    | [] => none
    | [missing] =>
      some s!"{name}.__init__() missing 1 required positional argument: {quotedText missing}"
    | missing =>
      some s!"{name}.__init__() missing {missing.length} required positional arguments: {quotedNames missing}"

def textField (data : List (String × Json)) (name : String) : Except Raised String :=
  match Json.lookup name data with
  | some (.str text) => if text = "" then .error (malformed name) else .ok text
  | _ => .error (malformed name)

def intField (data : List (String × Json)) (name : String) (minimum : Int) : Except Raised Int :=
  match Json.lookup name data with
  | some (.int value) => if value < minimum then .error (malformed name) else .ok value
  | _ => .error (malformed name)

def optionalText (data : List (String × Json)) (name : String) : Except Raised (Option String) :=
  match Json.lookup name data with
  | some (.str text) => .ok (some text)
  | some .null => .ok none
  | none => .ok none
  | _ => .error (malformed name)

inductive Number where
  | int (value : Int)
  | float (value : FloatText)
  deriving DecidableEq

def Number.toJson : Number → Json
  | .int value => .int value
  | .float value => .float value

/-- From here on a number rounds to infinity as a double. -/
def floatLimit : ℚ := 2 ^ 1024 - 2 ^ 970

def numberField (data : List (String × Json)) (name : String) : Except Raised Number :=
  match Json.lookup name data with
  | some (.int value) =>
    if floatLimit ≤ |(value : ℚ)| then
      .error (.other "OverflowError" "int too large to convert to float")
    else if value < 0 then .error (malformed name)
    else .ok (.int value)
  | some (.float value) =>
    if floatLimit ≤ |value.value| ∨ value.value < 0 then .error (malformed name) else .ok (.float value)
  | _ => .error (malformed name)

structure ComponentObservation where
  deploymentId : String
  planHash : String
  generation : Int
  componentId : String
  instanceId : String
  sequence : Int
  ownerScope : OwnerScope
  role : String
  nodeId : String
  state : ComponentState
  observedAt : Number
  ownerRank : Option Int := none
  modelId : Option String := none
  replicaId : Option String := none
  reasonCode : Option String := none
  detail : Option String := none
  compatibilityReceiptHash : Option String := none
  deriving DecidableEq

abbrev DedupKey := String × Int × String × String × Int

namespace ComponentObservation

def dedupKey (obs : ComponentObservation) : DedupKey :=
  (obs.deploymentId, obs.generation, obs.componentId, obs.instanceId, obs.sequence)

def optionText : Option String → Json
  | some text => .str text
  | none => .null

def toDict (obs : ComponentObservation) : List (String × Json) :=
  [("schema_version", .int 1), ("deployment_id", .str obs.deploymentId),
    ("plan_hash", .str obs.planHash), ("generation", .int obs.generation),
    ("component_id", .str obs.componentId), ("instance_id", .str obs.instanceId),
    ("sequence", .int obs.sequence), ("owner_scope", .str obs.ownerScope.value),
    ("role", .str obs.role), ("node_id", .str obs.nodeId), ("state", .str obs.state.value),
    ("observed_at", obs.observedAt.toJson),
    ("owner_rank", match obs.ownerRank with | some rank => .int rank | none => .null),
    ("model_id", optionText obs.modelId), ("replica_id", optionText obs.replicaId),
    ("reason_code", optionText obs.reasonCode), ("detail", optionText obs.detail),
    ("compatibility_receipt_hash", optionText obs.compatibilityReceiptHash)]

def requiredFields : List String :=
  ["schema_version", "deployment_id", "plan_hash", "generation", "component_id", "instance_id",
    "sequence", "owner_scope", "role", "node_id", "state", "observed_at"]

def optionalFields : List String :=
  ["owner_rank", "model_id", "replica_id", "reason_code", "detail", "compatibility_receipt_hash"]

end ComponentObservation

def scopeField (data : List (String × Json)) : Except Raised OwnerScope :=
  match Json.lookup "owner_scope" data with
  | some (.str text) =>
    match OwnerScope.ofValue text with
    | some scope => .ok scope
    | none => .error (malformed "owner_scope")
  | _ => .error (malformed "owner_scope")

def stateField (data : List (String × Json)) : Except Raised ComponentState :=
  match Json.lookup "state" data with
  | some (.str text) =>
    match ComponentState.ofValue text with
    | some state => .ok state
    | none => .error (malformed "state")
  | _ => .error (malformed "state")

def ownerRankField (data : List (String × Json)) (scope : OwnerScope) : Except Raised (Option Int) :=
  match scope, Json.lookup "owner_rank" data with
  | .global, none => .ok none
  | .global, some .null => .ok none
  | .global, some _ => .error (malformed "GLOBAL owner_rank must be null")
  | .rank, some (.int rank) =>
    if rank < 0 then .error (malformed "RANK needs owner_rank >= 0") else .ok (some rank)
  | .rank, _ => .error (malformed "RANK needs owner_rank >= 0")

def receiptHashField (data : List (String × Json)) : Except Raised (Option String) :=
  match Json.lookup "compatibility_receipt_hash" data with
  | some (.str text) =>
    if isSha256Hex text then .ok (some text) else .error (malformed "compatibility_receipt_hash")
  | some .null => .ok none
  | none => .ok none
  | _ => .error (malformed "compatibility_receipt_hash")

def schemaField (data : List (String × Json)) (name : String) : Except Raised Unit :=
  match Json.lookup name data with
  | some (.int version) => if version = 1 then .ok () else .error (rejected .unknownSchema)
  | _ => .error (rejected .unknownSchema)

def constructed (name : String) (required optional : List String) (data : List (String × Json)) :
    Except Raised Unit :=
  match constructorError name required optional data with
  | some error => .error (malformed error)
  | none => .ok ()

/-- Shape and invariants of one observation, in the order the source checks them. -/
def validateObservation : Json → Except Raised ComponentObservation
  | .obj data => do
    schemaField data "schema_version"
    constructed "ComponentObservation" ComponentObservation.requiredFields
      ComponentObservation.optionalFields data
    let ownerScope ← scopeField data
    let state ← stateField data
    let ownerRank ← ownerRankField data ownerScope
    let deploymentId ← textField data "deployment_id"
    let planHash ← textField data "plan_hash"
    let componentId ← textField data "component_id"
    let instanceId ← textField data "instance_id"
    let role ← textField data "role"
    let nodeId ← textField data "node_id"
    let sequence ← intField data "sequence" 0
    let generation ← intField data "generation" 0
    let observedAt ← numberField data "observed_at"
    let modelId ← optionalText data "model_id"
    let replicaId ← optionalText data "replica_id"
    let reasonCode ← optionalText data "reason_code"
    let detail ← optionalText data "detail"
    let compatibilityReceiptHash ← receiptHashField data
    .ok { deploymentId, planHash, generation, componentId, instanceId, sequence, ownerScope,
          role, nodeId, state, observedAt, ownerRank, modelId, replicaId, reasonCode, detail,
          compatibilityReceiptHash }
  | _ => .error (rejected .malformed)

mutual

/-- The path of the first float that is not finite. -/
def nonFinite (path : String) : Json → Option String
  | .float value => if floatLimit ≤ |value.value| then some path else none
  | .arr items => nonFiniteItems path 0 items
  | .obj fields => nonFiniteFields path fields
  | _ => none

def nonFiniteItems (path : String) (index : Nat) : List Json → Option String
  | [] => none
  | item :: rest => nonFinite s!"{path}[{index}]" item <|> nonFiniteItems path (index + 1) rest

def nonFiniteFields (path : String) : List (String × Json) → Option String
  | [] => none
  | (key, value) :: rest => nonFinite s!"{path}.{key}" value <|> nonFiniteFields path rest

end

def validateJsonValue (payload : List (String × Json)) : Except Raised Unit :=
  match nonFinite "payload" (.obj payload) with
  | some path => .error (malformed s!"{path} is non-finite")
  | none => .ok ()

/-- Versioned wire envelope; the schema version is always 1. -/
structure Envelope where
  kind : EnvelopeKind
  deploymentId : String
  planHash : String
  generation : Int
  senderRank : Int
  senderNode : String
  seq : Int
  payload : List (String × Json)

namespace Envelope

def toDict (env : Envelope) : List (String × Json) :=
  [("v", .int 1), ("kind", .str env.kind.value), ("deployment_id", .str env.deploymentId),
    ("plan_hash", .str env.planHash), ("generation", .int env.generation),
    ("sender_rank", .int env.senderRank), ("sender_node", .str env.senderNode),
    ("seq", .int env.seq), ("payload", .obj env.payload)]

def requiredFields : List String :=
  ["v", "kind", "deployment_id", "plan_hash", "generation", "sender_rank", "sender_node", "seq"]

end Envelope

def kindField (data : List (String × Json)) : Except Raised EnvelopeKind :=
  match Json.lookup "kind" data with
  | some (.str text) =>
    match EnvelopeKind.ofValue text with
    | some kind => .ok kind
    | none => .error (rejected .unknownKind)
  | _ => .error (rejected .unknownKind)

def payloadField (data : List (String × Json)) : Except Raised (List (String × Json)) :=
  match (Json.lookup "payload" data).getD (.obj []) with
  | .obj payload => .ok payload
  | _ => .error (malformed "payload")

/-- `_validate_envelope` on the fields of an object; a missing payload is empty. -/
def validateEnvelope (data : List (String × Json)) : Except Raised Envelope := do
  schemaField data "v"
  let kind ← kindField data
  let deploymentId ← textField data "deployment_id"
  let planHash ← textField data "plan_hash"
  let senderNode ← textField data "sender_node"
  let generation ← intField data "generation" 0
  let senderRank ← intField data "sender_rank" (-1)
  let seq ← intField data "seq" 0
  let payload ← payloadField data
  validateJsonValue payload
  .ok { kind, deploymentId, planHash, generation, senderRank, senderNode, seq, payload }

def encodeEnvelope (env : Envelope) : Except Raised (List UInt8) := do
  let _ ← validateEnvelope env.toDict
  let body := asciiBytes (Json.dumps (.obj env.toDict))
  if maxMessageBytes < body.length then .error (rejected .oversized) else .ok body

def decodeEnvelope (body : List UInt8) : Except Raised Envelope :=
  if maxMessageBytes < body.length then .error (rejected .oversized)
  else match (decodeUtf8 body).bind Json.loads with
    | some (.obj data) => do
      constructed "Envelope" Envelope.requiredFields ["payload"] data
      validateEnvelope data
    | _ => .error (rejected .malformed)

end ExaServe.Control
