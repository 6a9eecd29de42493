import ExaServe.Lib.Except
import ExaServe.Plan.Frozen

namespace ExaServe.Plan

open Lib Control

section Readers

/-- `raw.get(key)`: a null is taken for an absent field. -/
def given (fields : List (String × Json)) (key : String) : Option Json :=
  match Json.lookup key fields with
  | some .null | none => none
  | some value => some value

/-- The name of a value's type. -/
def typeName : Json → String
  | .null => "NoneType"
  | .bool _ => "bool"
  | .int _ => "int"
  | .float _ => "float"
  | .str _ => "str"
  | .arr _ => "list"
  | .obj _ => "dict"

def mapping (value : Json) (path : String) : Except Raised (List (String × Json)) :=
  match value with
  | .obj fields => .ok fields
  | other =>
    let found := typeName other
    .error (planError s!"{path} must be a mapping, got {found}")

def shownList (names : List String) : String := "[" ++ ", ".intercalate ((names.insertionSort (· ≤ ·)).map quotedText) ++ "]"

def rejectUnknown (fields : List (String × Json)) (allowed : List String) (path : String) : Except Raised Unit :=
  match (Json.fieldNames fields).filter (· ∉ allowed) with
  | [] => .ok ()
  | unknown =>
    let shown := shownList unknown
    let accepted := shownList allowed
    .error (planError s!"{path}: unknown key(s) {shown}; accepted: {accepted}")

def atLeast (minimum value : Int) (path : String) : Except Raised Unit := do
  let _ ← require (minimum ≤ value) s!"{path} must be >= {minimum}, got {value}"

/-- `_integer` with a minimum. -/
def integer (value : Option Json) (path : String) (default : Option Int) (minimum : Int) : Except Raised Int :=
  match value with
  | none => match default with
    | none => .error (planError s!"{path} is required")
    | some default => do
      atLeast minimum default path
      .ok default
  | some (.int value) => do
    atLeast minimum value path
    .ok value
  | some other => .error (planError s!"{path} must be an integer, got {other.reprText}")

/-- A positive count with its default. -/
def positive (fields : List (String × Json)) (path key : String) (default : Option Int) : Except Raised Nat := do
  let value ← integer (given fields key) s!"{path}.{key}" default 1
  .ok value.toNat

/-- A positive count that may be left out. -/
def optionalPositive (fields : List (String × Json)) (path key : String) : Except Raised (Option Nat) :=
  match given fields key with
  | none => .ok none
  | some _ => do
    let value ← positive fields path key none
    .ok (some value)

def boolean (fields : List (String × Json)) (path key : String) (default : Bool) : Except Raised Bool :=
  match given fields key with
  | none => .ok default
  | some (.bool value) => .ok value
  | some other => .error (planError s!"{path}.{key} must be a boolean, got {other.reprText}")

/-- `_string`: stripped, and not empty. -/
def string (value : Option Json) (path : String) : Except Raised String :=
  match value with
  | none => .error (planError s!"{path} is required")
  | some (.str text) =>
    let stripped := String.ofList (strip text.toList)
    if stripped = "" then .error (planError s!"{path} must be a non-empty string") else .ok stripped
  | some other =>
    let found := typeName other
    .error (planError s!"{path} must be a string, got {found}")

def ninety : FloatText := ⟨['0', '.', '9'], by decide⟩

def one : FloatText := ⟨['1', '.', '0'], by decide⟩

/-- `_number` between a ten-millionth and one; the only integer there is one. -/
def fraction (fields : List (String × Json)) (path key : String) (default : FloatText) :
    Except Raised FloatText :=
  match given fields key with
  | none => .ok default
  | some (.float value) => do
    let shown := String.ofList value.text
    let _ ← require (isFinite (.float value) = true) s!"{path}.{key} must be finite, got {shown}"
    let _ ← require (1 / 10000000 ≤ value.value) s!"{path}.{key} must be >= 1e-07, got {shown}"
    let _ ← require (value.value ≤ 1) s!"{path}.{key} must be <= 1.0, got {shown}"
    .ok value
  | some (.int value) =>
    if value = 1 then .ok one
    else if value < 1 then .error (planError s!"{path}.{key} must be >= 1e-07, got {value}.0")
    else .error (planError s!"{path}.{key} must be <= 1.0, got {value}.0")
  | some other => .error (planError s!"{path}.{key} must be a number, got {other.reprText}")

end Readers

def modelKeys : List String :=
  ["model_id", "tensor_parallel_size", "pipeline_parallel_size", "max_model_len", "size",
    "gpu_memory_utilization", "enforce_eager", "enable_log_requests", "max_num_seqs", "num_replicas",
    "num_cpus_per_replica"]

structure ModelIntent extends ModelSettings where
  requestedReplicas : Option Nat

section Intents

/-- One identity of a model against those of the models before it. -/
def requireFresh (path family : String) (identity : ModelIntent → String) (modelId value : String)
    (earlier : List ModelIntent) : Except Raised Unit :=
  match earlier.find? fun intent => identity intent = value with
  | some previous =>
    let first := quotedText previous.modelId
    let second := quotedText modelId
    let shown := quotedText value
    .error (planError s!"{path}: model identity collision ({family}): {first} and {second} both map to {shown}")
  | none => .ok ()

/-- The identity of a model, distinct from those before it. -/
def compileModelId (path : String) (earlier : List ModelIntent) (raw : List (String × Json)) :
    Except Raised String := do
  rejectUnknown raw modelKeys path
  let modelId ← string (given raw "model_id") s!"{path}.model_id"
  let _ ← requireModelId modelId s!"{path}.model_id"
  let storage := storageName modelId
  requireFresh path "model_id" (fun intent => intent.modelId) modelId modelId earlier
  requireFresh path "storage_name" (fun intent => intent.storageName) modelId storage earlier
  requireFresh path "route_name" (fun intent => intent.routeName) modelId (routeName storage) earlier
  .ok modelId

/-- The sizes of a replica against the nodes it has to fit on. -/
def compileParallelism (numNodes gpusPerNode : Nat) (path : String) (raw : List (String × Json)) :
    Except Raised (Nat × Nat) := do
  let tp ← positive raw path "tensor_parallel_size" (some 1)
  let pp ← positive raw path "pipeline_parallel_size" (some 1)
  let _ ← require (tp ≤ gpusPerNode) s!"{path}.tensor_parallel_size {tp} exceeds gpus_per_node {gpusPerNode}"
  let _ ← require (pp ≤ numNodes)
    s!"{path}.pipeline_parallel_size {pp} exceeds deployment nodes {numNodes}; one PP stage per node is required"
  .ok (tp, pp)

def compileSettings (path : String) (raw : List (String × Json)) (modelId : String) (sizes : Nat × Nat) :
    Except Raised ModelIntent := do
  let requestedReplicas ← optionalPositive raw path "num_replicas"
  let maxNumSeqs ← optionalPositive raw path "max_num_seqs"
  let maxModelLen ← positive raw path "max_model_len" (some 4096)
  let sizeB ← positive raw path "size" (some 8)
  let gpuMemoryUtilization ← fraction raw path "gpu_memory_utilization" ninety
  let enforceEager ← boolean raw path "enforce_eager" true
  let enableLogRequests ← boolean raw path "enable_log_requests" true
  let numCpusPerReplica ← positive raw path "num_cpus_per_replica" (some 4)
  .ok {
    modelId, maxModelLen, sizeB, gpuMemoryUtilization, enforceEager, enableLogRequests, maxNumSeqs
    numCpusPerReplica, requestedReplicas
    storageName := storageName modelId
    routeName := routeName (storageName modelId)
    tensorParallelSize := sizes.1
    pipelineParallelSize := sizes.2 }

def compileModelIntent (numNodes gpusPerNode : Nat) (path : String) (earlier : List ModelIntent) (item : Json) :
    Except Raised ModelIntent := do
  let raw ← mapping item path
  let modelId ← compileModelId path earlier raw
  let sizes ← compileParallelism numNodes gpusPerNode path raw
  compileSettings path raw modelId sizes

def compileIntentsFrom (numNodes gpusPerNode : Nat) : List ModelIntent → List Json → Except Raised (List ModelIntent)
  | earlier, [] => .ok earlier
  | earlier, item :: rest => do
    let intent ← compileModelIntent numNodes gpusPerNode s!"deployment.models[{earlier.length}]" earlier item
    compileIntentsFrom numNodes gpusPerNode (earlier ++ [intent]) rest

def compileModelIntents (rawModels : Option Json) (numNodes gpusPerNode : Nat) : Except Raised (List ModelIntent) :=
  match rawModels with
  | some (.arr (first :: rest)) => compileIntentsFrom numNodes gpusPerNode [] (first :: rest)
  | _ => .error (planError "deployment.models must be a non-empty list")

end Intents

end ExaServe.Plan
