import ExaServe.Control.Contracts
import ExaServe.Lib.Dict
import ExaServe.Lib.Except
import ExaServe.Lib.JsonRoundTrip

namespace ExaServe.State.Status

open Lib Control

def schemaVersion : Int := 1

def maxStatusHistoryEvents : Nat := 256

def historyDroppedKey : String := "status_history_events_dropped"

def historyOmittedKey : String := "status_history_events_omitted"

def internalDataKeys : List String := [historyDroppedKey, historyOmittedKey]

inductive DeploymentState where
  | planned | staging | clusterStarting | deploying | validating | ready | draining | stopped | failed
  | cancelled
  deriving DecidableEq, Repr

namespace DeploymentState

def value : DeploymentState → String
  | planned => "PLANNED"
  | staging => "STAGING"
  | clusterStarting => "CLUSTER_STARTING"
  | deploying => "DEPLOYING"
  | validating => "VALIDATING"
  | ready => "READY"
  | draining => "DRAINING"
  | stopped => "STOPPED"
  | failed => "FAILED"
  | cancelled => "CANCELLED"

def all : List DeploymentState :=
  [planned, staging, clusterStarting, deploying, validating, ready, draining, stopped, failed, cancelled]

/-- `DEPLOYMENT_TRANSITIONS`, with the edges every active state has besides. -/
def transitions : DeploymentState → List DeploymentState
  | planned => [staging, failed, cancelled]
  | staging => [clusterStarting, failed, cancelled]
  | clusterStarting => [deploying, failed, cancelled]
  | deploying => [validating, failed, cancelled]
  | validating => [ready, failed, cancelled]
  | ready => [validating, draining, failed, cancelled]
  | draining => [stopped, failed, cancelled]
  | stopped | failed | cancelled => []

end DeploymentState

inductive RunState where
  | planned | submitted | running | succeeded | partialResult | failed | cancelled | invalid
  deriving DecidableEq, Repr

namespace RunState

def value : RunState → String
  | planned => "PLANNED"
  | submitted => "SUBMITTED"
  | running => "RUNNING"
  | succeeded => "SUCCEEDED"
  | partialResult => "PARTIAL"
  | failed => "FAILED"
  | cancelled => "CANCELLED"
  | invalid => "INVALID"

def all : List RunState :=
  [planned, submitted, running, succeeded, partialResult, failed, cancelled, invalid]

def transitions : RunState → List RunState
  | planned => [submitted, cancelled, invalid]
  | submitted => [running, failed, cancelled, succeeded, partialResult, invalid]
  | running => [succeeded, partialResult, failed, cancelled, invalid]
  | succeeded | partialResult | failed | cancelled | invalid => []

end RunState

/-- What a `StatusStore` is made with: the kind, the state enum with its texts and
    the table of its transitions. -/
structure Machine (σ : Type) where
  kind : String
  value : σ → String
  states : List σ
  transitions : σ → List σ
  initial : σ
  listed : ∀ state, state ∈ states
  distinct : Function.Injective value

namespace Machine

def deployment : Machine DeploymentState where
  kind := "deployment"
  value := DeploymentState.value
  states := DeploymentState.all
  transitions := DeploymentState.transitions
  initial := .planned
  listed := by intro state; cases state <;> decide
  distinct := by
    intro left right same
    cases left <;> cases right <;> first | rfl | exact absurd same (by decide)

def run : Machine RunState where
  kind := "run"
  value := RunState.value
  states := RunState.all
  transitions := RunState.transitions
  initial := .planned
  listed := by intro state; cases state <;> decide
  distinct := by
    intro left right same
    cases left <;> cases right <;> first | rfl | exact absurd same (by decide)

/-- The enum called with a text. -/
def ofValue {σ : Type} (machine : Machine σ) (text : String) : Option σ :=
  machine.states.find? fun state => machine.value state = text

end Machine

/-- A Python value as `json` sees it: the value it prints, none where it refuses to
    print one (a NaN, a set, keys that do not sort). -/
abbrev PyValue := Option Json

abbrev PyDict := Dict String PyValue

structure Event (σ : Type) where
  state : σ
  at_ : Number
  reasonCode : String
  deriving DecidableEq

structure StatusRecord (σ : Type) where
  recordId : String
  state : σ
  revision : Nat
  updatedAt : Number
  reasonCode : Option String := none
  detail : Option String := none
  provenance : PyDict := .empty
  data : PyDict := .empty
  history : List (Event σ)

def statusConflict (message : String) : Raised := .other "StatusConflict" message

def valueError (message : String) : Raised := .other "ValueError" message

def fieldNames : List String :=
  ["schema_version", "kind", "record_id", "state", "revision", "updated_at", "reason_code", "detail",
    "provenance", "data", "history"]

def Number.value : Number → ℚ
  | .int value => value
  | .float value => value.value

def Number.ofJson? : Json → Option Number
  | .int value => some (.int value)
  | .float value => some (.float value)
  | _ => none

def pyList (names : List String) : String :=
  "[" ++ ", ".intercalate (names.map fun name => "'" ++ name ++ "'") ++ "]"

/-- The text `str` prints. -/
def pyStr : Json → String
  | .str text => text
  | value => value.reprText

section Load

variable {σ : Type} [DecidableEq σ] (machine : Machine σ)

/-- A timestamp, which has to convert to a finite float. -/
def finiteNumber (value : Json) (refused : Raised) : Except Raised Number :=
  match value with
  | .int value =>
    if floatLimit ≤ |(value : ℚ)| then .error (.other "OverflowError" "int too large to convert to float")
    else .ok (.int value)
  | .float value => if floatLimit ≤ |value.value| then .error refused else .ok (.float value)
  | _ => .error refused

def loadState (text : Json) (refused : Raised) : Except Raised σ :=
  match text with
  | .str text => match machine.ofValue text with
    | some state => .ok state
    | none => .error refused
  | _ => .error refused

def optionalText (name : String) (value : Json) : Except Raised (Option String) :=
  match value with
  | .null => .ok none
  | .str text => .ok (some text)
  | _ => .error (statusConflict s!"status {name} must be null or a string")

def counter (data : List (String × Json)) (key : String) : Except Raised Nat :=
  match Json.lookup key data with
  | none => .ok 0
  | some (.int (.ofNat count)) => .ok count
  | some _ => .error (statusConflict s!"status {key} is invalid")

/-- One event of the history, at or after the one before it. -/
def loadEvent (index : Nat) (previousAt : ℚ) (event : Json) : Except Raised (Event σ) :=
  match event with
  | .obj fields =>
    if Json.sameNames fields ["state", "at", "reason_code"] then do
      let state ← loadState machine ((Json.lookup "state" fields).getD .null)
        (statusConflict s!"status history event {index} has unknown state")
      let refused := statusConflict s!"status history event {index} timestamp is invalid"
      let at_ ← finiteNumber ((Json.lookup "at" fields).getD .null) refused
      if Number.value at_ < previousAt then .error refused
      else match Json.lookup "reason_code" fields with
        | some (.str reasonCode) =>
          if reasonCode = "" then
            .error (statusConflict s!"status history event {index} reason_code is invalid")
          else .ok { state, at_, reasonCode }
        | _ => .error (statusConflict s!"status history event {index} reason_code is invalid")
    else .error (statusConflict s!"status history event {index} shape mismatch")
  | _ => .error (statusConflict s!"status history event {index} shape mismatch")

def loadEvents : Nat → ℚ → List Json → Except Raised (List (Event σ))
  | _, _, [] => .ok []
  | index, previousAt, item :: rest => do
    let event ← loadEvent machine index previousAt item
    let events ← loadEvents (index + 1) (Number.value event.at_) rest
    .ok (event :: events)

/-- The retained edges. With events dropped, the first two are not adjacent. -/
def checkEdges : Bool → List (Event σ) → Except Raised Unit
  | _, [] | _, [_] => .ok ()
  | skip, first :: second :: rest =>
    if skip ∨ second.state = first.state ∨ second.state ∈ machine.transitions first.state then
      checkEdges false (second :: rest)
    else .error (statusConflict
      s!"status history contains illegal transition {machine.value first.state} -> {machine.value second.state}")

def toDict (fields : List (String × Json)) : PyDict :=
  fields.foldl (fun dict field => dict.insert field.1 (some field.2)) .empty

def object? : Json → Option (List (String × Json))
  | .obj fields => some fields
  | _ => none

def require (ok : Prop) [Decidable ok] (refused : Raised) : Except Raised Unit :=
  if ok then .ok () else .error refused

/-- The history with its accounting against the revision and the two counters. -/
def loadHistory (revision : Nat) (state : σ) (data : List (String × Json)) (history : Json) :
    Except Raised (List (Event σ)) :=
  let refused := statusConflict "status history must be nonempty and within its revision/storage bounds"
  match history with
  | .arr items => do
    require (items ≠ [] ∧ items.length ≤ revision + 1 ∧ items.length ≤ maxStatusHistoryEvents) refused
    let dropped ← counter data historyDroppedKey
    let omitted ← counter data historyOmittedKey
    require (items.length + dropped + omitted = revision + 1)
      (statusConflict "status history accounting disagrees with revision")
    require (dropped = 0 ∨ items.length = maxStatusHistoryEvents)
      (statusConflict "status dropped history does not retain the full bounded window")
    let events ← loadEvents machine 0 (-1) items
    require ((events.head?.map fun event => (event.state, event.reasonCode)) = some (machine.initial, "INIT"))
      (statusConflict "status history does not begin at the required initial state")
    checkEdges machine (decide (0 < dropped)) events
    require (events.getLast?.map Event.state = some state)
      (statusConflict "status history tail disagrees with current state")
    .ok events
  | _ => .error refused

def loadSchema : Json → Except Raised Unit
  | .int 1 => .ok ()
  | value =>
    let found := pyStr value
    .error (statusConflict s!"unknown status schema_version={found}")

def loadKind (value : Json) : Except Raised Unit :=
  let found := value.reprText
  let refused := statusConflict s!"status kind {found} != expected '{machine.kind}'"
  match value with
  | .str kind => require (kind = machine.kind) refused
  | _ => .error refused

def loadRecordId (value : Json) : Except Raised String :=
  let refused := statusConflict "status record_id must be a non-empty string"
  match value with
  | .str text => if text = "" then .error refused else .ok text
  | _ => .error refused

def loadRevision : Json → Except Raised Nat
  | .int (.ofNat revision) => .ok revision
  | _ => .error (statusConflict "status revision must be a non-negative integer")

/-- The fields of the record, each checked in the order of the source. -/
def loadFields (field : String → Json) : Except Raised (StatusRecord σ) := do
  loadSchema (field "schema_version")
  loadKind machine (field "kind")
  let recordId ← loadRecordId (field "record_id")
  let found := (field "state").reprText
  let state ← loadState machine (field "state") (statusConflict s!"unknown {machine.kind} state {found}")
  let revision ← loadRevision (field "revision")
  let refused := statusConflict "status updated_at must be finite and non-negative"
  let updatedAt ← finiteNumber (field "updated_at") refused
  require (0 ≤ Number.value updatedAt) refused
  let reasonCode ← optionalText "reason_code" (field "reason_code")
  let detail ← optionalText "detail" (field "detail")
  require (reasonCode ≠ some "") (statusConflict "status reason_code must be null or non-empty")
  match object? (field "provenance"), object? (field "data") with
  | some provenance, some data => do
    let history ← loadHistory machine revision state data (field "history")
    .ok {
      recordId, state, revision, updatedAt, reasonCode, detail, history
      provenance := toDict provenance
      data := toDict data }
  | _, _ => .error (statusConflict "status provenance and data must be objects")

def shapeMismatch (names : List String) : Raised :=
  let unknown := pyList ((names.filter (· ∉ fieldNames)).mergeSort)
  let missing := pyList ((fieldNames.filter (· ∉ names)).mergeSort)
  statusConflict s!"status record shape mismatch: unknown={unknown}, missing={missing}"

/-- `StatusStore.load` on the decoded file. -/
def load (raw : Json) : Except Raised (StatusRecord σ) :=
  if raw.wellKeyed = false then
    .error (statusConflict "status record is unreadable: duplicate JSON key")
  else match raw with
  | .obj fields =>
    if Json.sameNames fields fieldNames then
      loadFields machine fun name => (Json.lookup name fields).getD .null
    else .error (shapeMismatch (Json.fieldNames fields))
  | _ => .error (shapeMismatch [])

end Load

/-- An argument of a call: null, a value of the declared type, or one of another type. -/
inductive Arg (α : Type) where
  | null
  | value (given : α)
  | other

/-- A dictionary a caller hands over. Its values print without repeating a key. -/
structure DataDict where
  dict : PyDict
  keyed : ∀ value ∈ dict.values, ∀ printed, value = some printed → printed.wellKeyed = true

/-- What `time.time()` returns: a finite float. -/
structure Reading where
  value : FloatText
  finite : |value.value| < floatLimit

def updateDict (dict update : PyDict) : PyDict :=
  update.entries.foldl (fun dict entry => dict.insert entry.1 entry.2) dict

def applyData (dict : PyDict) : Arg DataDict → PyDict
  | .value update => updateDict dict update.dict
  | .null | .other => dict

section Checks

def validateDataUpdate : Arg DataDict → Except Raised Unit
  | .null => .ok ()
  | .other => .error (valueError "status data must be an object or null")
  | .value data =>
    let reserved := internalDataKeys.filter (· ∈ data.dict.keys)
    let shown := pyList reserved
    require (reserved = []) (valueError s!"status history accounting keys are owned by StatusStore: {shown}")

def validateReasonDetail (reasonCode : Arg String) (detail : Arg String) :
    Except Raised (String × Option String) :=
  match reasonCode with
  | .value code =>
    if code = "" then .error (valueError "status reason_code must be a non-empty string")
    else match detail with
      | .null => .ok (code, none)
      | .value text => .ok (code, some text)
      | .other => .error (valueError "status detail must be null or a string")
  | _ => .error (valueError "status reason_code must be a non-empty string")

def validateExpectedRevision : Arg Int → Except Raised Unit
  | .null => .ok ()
  | .value revision =>
    require (0 ≤ revision) (valueError "status expected_revision must be null or non-negative integer")
  | .other => .error (valueError "status expected_revision must be null or non-negative integer")

end Checks

section Store

variable {σ : Type} [DecidableEq σ] (machine : Machine σ)

def enum (text : String) : Except Raised σ :=
  match machine.ofValue text with
  | some state => .ok state
  | none => .error (valueError s!"'{text}' is not a valid state")

def eventFields (event : Event σ) : Json :=
  .obj [("state", .str (machine.value event.state)), ("at", event.at_.toJson),
    ("reason_code", .str event.reasonCode)]

def textJson : Option String → Json
  | some text => .str text
  | none => .null

def printEntries : List (String × PyValue) → Option (List (String × Json))
  | [] => some []
  | (_, none) :: _ => none
  | (key, some printed) :: rest => (printEntries rest).map ((key, printed) :: ·)

/-- What `json` prints of a dictionary, unless it refuses one of the values. -/
def printDict (dict : PyDict) : Option Json := (printEntries dict.entries).map .obj

def recordFields (record : StatusRecord σ) (provenance data : Json) : List (String × Json) :=
  [("schema_version", .int schemaVersion), ("kind", .str machine.kind),
    ("record_id", .str record.recordId), ("state", .str (machine.value record.state)),
    ("revision", .int record.revision), ("updated_at", record.updatedAt.toJson),
    ("reason_code", textJson record.reasonCode), ("detail", textJson record.detail),
    ("provenance", provenance), ("data", data), ("history", .arr (record.history.map (eventFields machine)))]

/-- `json.dumps(asdict(record))`, as the value the text reads back as. -/
def asdict (record : StatusRecord σ) : Option Json := do
  let provenance ← printDict record.provenance
  let data ← printDict record.data
  return .obj (recordFields machine record provenance data)

/-- What goes wrong around the body of a call: the lease stays busy, the file cannot be
    read, cannot be written, is in place but not known to be durable, or the lease
    cannot be released. -/
structure Faults where
  busy : Bool := false
  unreadable : Bool := false
  unwritable : Bool := false
  unsynced : Bool := false
  unreleased : Bool := false

/-- The file after a call, the record it put in place, and what it returned. -/
structure Result (σ : Type) where
  file : Option Json
  published : Option (StatusRecord σ) := none
  outcome : Except Raised (StatusRecord σ)

def Result.raised (file : Option Json) (raised : Raised) : Result σ := { file, outcome := .error raised }

def loadFile (faults : Faults) : Option Json → Except Raised (Option (StatusRecord σ))
  | none => .ok none
  | some raw =>
    if faults.unreadable then .error (statusConflict "status record is unreadable: input/output error")
    else (load machine raw).map some

/-- `atomic_write_json` and the end of the lease. -/
def publish (faults : Faults) (file : Option Json) (record : StatusRecord σ) : Result σ :=
  match asdict machine record with
  | none => .raised file (.other "TypeError" "status data is not JSON serializable")
  | some printed =>
    if faults.unwritable then .raised file (.other "OSError" "status record was not written")
    else {
      file := some printed
      published := some record
      outcome :=
        if faults.unsynced then .error (.other "OSError" "status directory was not synced")
        else if faults.unreleased then .error (.other "LeaseReleaseError" "status lease was not released")
        else .ok record }

/-- The body of a call under the lease: load, build the record, publish it. -/
def locked (faults : Faults) (file : Option Json)
    (body : Option (StatusRecord σ) → Except Raised (StatusRecord σ)) : Result σ :=
  if faults.busy then .raised file (statusConflict "status lease busy beyond 10.0s")
  else match loadFile machine faults file >>= body with
    | .error raised => .raised file raised
    | .ok record => publish machine faults file record

/-- `max(float(record.updated_at), time.time())`. -/
def laterOf (stored : Number) (now : Reading) : Number :=
  if Number.value stored < now.value.value then .float now.value else stored

/-- A counter kept among the data of a record. -/
def dataCounter (data : PyDict) (key : String) : Except Raised Nat :=
  match data.get? key with
  | none => .ok 0
  | some (some (.int (.ofNat count))) => .ok count
  | some _ => .error (statusConflict s!"status {key} is invalid")

def appendHistory (record : StatusRecord σ) (event : Event σ) : Except Raised (StatusRecord σ) :=
  if maxStatusHistoryEvents ≤ record.history.length then do
    let dropped ← dataCounter record.data historyDroppedKey
    .ok { record with
      history := record.history.eraseIdx 1 ++ [event]
      data := record.data.insert historyDroppedKey (some (.int (dropped + 1 : Nat))) }
  else .ok { record with history := record.history ++ [event] }

def recordIdOf : Arg String → Except Raised String
  | .value text =>
    if text = "" then .error (valueError "status record_id must be a non-empty string") else .ok text
  | _ => .error (valueError "status record_id must be a non-empty string")

def provenanceOf : Arg DataDict → Except Raised PyDict
  | .null => .ok .empty
  | .value given => .ok given.dict
  | .other => .error (valueError "status provenance must be an object or null")

/-- What a call makes of the record it loads, once its arguments have passed. -/
abbrev Body (σ : Type) := Option (StatusRecord σ) → Except Raised (StatusRecord σ)

def initializeBody (path : String) (recordId : Arg String) (state : String) (provenance data : Arg DataDict)
    (now : Reading) : Except Raised (Body σ) := do
  let recordId ← recordIdOf recordId
  let provenance ← provenanceOf provenance
  validateDataUpdate data
  let state ← enum machine state
  let start := machine.value machine.initial
  let given := machine.value state
  require (state = machine.initial)
    (.other "IllegalTransition" s!"{machine.kind} records must start in ['{start}'], got {given}")
  .ok fun current =>
    match current with
    | some _ => .error (statusConflict s!"{path} already initialized")
    | none => .ok {
        recordId, state, provenance
        revision := 0
        updatedAt := .float now.value
        data := applyData .empty data
        history := [{ state, at_ := .float now.value, reasonCode := "INIT" }] }

def compareRevision (found : Nat) (aba : String) : Arg Int → Except Raised Unit
  | .value revision => require ((found : Int) = revision)
      (statusConflict s!"stale writer: expected revision {revision}, found {found}{aba}")
  | _ => .ok ()

/-- The compare of the compare-and-set. -/
def compare_ (path : String) (expected : σ) (expectedRevision : Arg Int) (aba : String)
    (current : Option (StatusRecord σ)) : Except Raised (StatusRecord σ) :=
  match current with
  | none => .error (statusConflict s!"{path} not initialized")
  | some record => do
    let wanted := machine.value expected
    let found := machine.value record.state
    require (record.state = expected) (statusConflict s!"expected {wanted}, found {found}")
    compareRevision record.revision aba expectedRevision
    .ok record

/-- The fields both calls set. -/
def StatusRecord.advance (record : StatusRecord σ) (state : σ) (reasonCode : String) (detail : Option String)
    (dataUpdate : Arg DataDict) (now : Reading) : StatusRecord σ :=
  { record with
    state
    revision := record.revision + 1
    updatedAt := laterOf record.updatedAt now
    reasonCode := some reasonCode
    detail
    data := applyData record.data dataUpdate }

/-- The result of the callback, when there is one. -/
def commitUpdate (factory : Arg (Nat → Except Raised (Arg DataDict))) (revision : Nat) :
    Except Raised (Arg DataDict) :=
  match factory with
  | .value callback => callback revision
  | _ => .ok .null

def dataKeys : Arg DataDict → List String
  | .value data => data.dict.keys
  | _ => []

structure TransitionArgs where
  expected : String
  new : String
  reasonCode : Arg String
  detail : Arg String := .null
  dataUpdate : Arg DataDict := .null
  expectedRevision : Arg Int := .null
  commitDataFactory : Arg (Nat → Except Raised (Arg DataDict)) := .null

def callable : Arg α → Except Raised Unit
  | .other => .error (valueError "status commit_data_factory must be null or callable")
  | _ => .ok ()

def transitionBody (path : String) (args : TransitionArgs) (now : Reading) : Except Raised (Body σ) := do
  let expected ← enum machine args.expected
  let new ← enum machine args.new
  let (reasonCode, detail) ← validateReasonDetail args.reasonCode args.detail
  validateExpectedRevision args.expectedRevision
  validateDataUpdate args.dataUpdate
  callable args.commitDataFactory
  let source := machine.value expected
  let target := machine.value new
  require (new ∈ machine.transitions expected)
    (.other "IllegalTransition" s!"{machine.kind}: {source} -> {target}")
  .ok fun current => do
    let record ← compare_ machine path expected args.expectedRevision
      s!" (state cycled back to {source}; ABA)" current
    let record := record.advance new reasonCode detail args.dataUpdate now
    let update ← commitUpdate args.commitDataFactory record.revision
    validateDataUpdate update
    require (∀ key ∈ dataKeys update, key ∉ dataKeys args.dataUpdate)
      (valueError "status commit-time data overlaps caller data")
    appendHistory { record with data := applyData record.data update }
      { state := new, at_ := record.updatedAt, reasonCode }

structure UpdateArgs where
  expected : String
  reasonCode : Arg String
  detail : Arg String := .null
  dataUpdate : Arg DataDict := .null
  expectedRevision : Arg Int := .null
  recordHistory : Arg Bool := .value true

def booleanOf : Arg Bool → Except Raised Bool
  | .value given => .ok given
  | _ => .error (valueError "record_history must be a boolean")

def updateBody (path : String) (args : UpdateArgs) (now : Reading) : Except Raised (Body σ) := do
  let recordHistory ← booleanOf args.recordHistory
  let (reasonCode, detail) ← validateReasonDetail args.reasonCode args.detail
  validateExpectedRevision args.expectedRevision
  validateDataUpdate args.dataUpdate
  let expected ← enum machine args.expected
  .ok fun current => do
    let record ← compare_ machine path expected args.expectedRevision "" current
    let record := record.advance expected reasonCode detail args.dataUpdate now
    if recordHistory then appendHistory record { state := expected, at_ := record.updatedAt, reasonCode }
    else do
      let omitted ← dataCounter record.data historyOmittedKey
      .ok { record with data := record.data.insert historyOmittedKey (some (.int (omitted + 1 : Nat))) }

inductive Call where
  | initialize_ (recordId : Arg String) (state : String) (provenance data : Arg DataDict)
  | transition (args : TransitionArgs)
  | update (args : UpdateArgs)

/-- One call with the clock it reads and what goes wrong around it. -/
structure Turn where
  call : Call
  now : Reading
  faults : Faults := {}

def bodyOf (path : String) (turn : Turn) : Except Raised (Body σ) :=
  match turn.call with
  | .initialize_ recordId state provenance data =>
    initializeBody machine path recordId state provenance data turn.now
  | .transition args => transitionBody machine path args turn.now
  | .update args => updateBody machine path args turn.now

/-- A whole call: its checks, then its body under the lease. -/
def perform (path : String) (turn : Turn) (file : Option Json) : Result σ :=
  match bodyOf machine path turn with
  | .error raised => .raised file raised
  | .ok body => locked machine turn.faults file body

end Store

end ExaServe.State.Status
