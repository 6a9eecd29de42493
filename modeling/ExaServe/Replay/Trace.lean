import ExaServe.Lib.JsonParse
import ExaServe.Lib.Sha256
import ExaServe.Lib.Utf8

namespace ExaServe.Replay

open Lib

abbrev Bytes := List UInt8

@[irreducible] def traceRowBytes : Nat := 16 * 2 ^ 20

/-- What `float(value)` gives of a number. -/
inductive FloatOf where
  | finite (value : FloatText)
  | infinite
  | overflow

/-- An exception, by the class that handlers tell it by. -/
inductive Failure where
  | value (message : String)
  | unicode
  | type (message : String)
  | overflow
  | runtime (message : String)
  deriving DecidableEq

structure TraceRequest where
  timestamp : FloatText
  model : String
  prompt : String
  inputLen : Nat
  outputLen : Nat
  tensorParallelSize : Nat
  reqId : String
  mode : String
  deriving DecidableEq

variable (float : Json → FloatOf)

/-- The checks of the constructor on its timestamp. -/
def requireTimestamp (value : Json) : Except Failure FloatText :=
  let refused : Failure := .value "trace request timestamp must be finite and non-negative"
  match value with
  | .int _ | .float _ => match float value with
    | .overflow => .error .overflow
    | .infinite => .error refused
    | .finite timestamp => if (value.number?.getD 0) < 0 then .error refused else .ok timestamp
  | _ => .error refused

def requireCount (name : String) (minimum : Nat) (value : Json) : Except Failure Nat :=
  match value with
  | .int count =>
    if (minimum : Int) ≤ count then .ok count.toNat
    else .error (.value s!"trace request {name} must be an integer >= {minimum}")
  | _ => .error (.value s!"trace request {name} must be an integer >= {minimum}")

def requireModel (value : Json) : Except Failure String :=
  match value with
  | .str model => if model ≠ "" then .ok model else .error (.value "trace request model must be non-empty text")
  | _ => .error (.value "trace request model must be non-empty text")

def requirePrompt (value : Json) : Except Failure String :=
  match value with
  | .str prompt => .ok prompt
  | _ => .error (.value "trace request prompt must be text")

/-- A list or an object cannot be looked for in a set. -/
def requireMode (value : Json) : Except Failure String :=
  match value with
  | .str mode =>
    if mode = "chat" ∨ mode = "completion" then .ok mode
    else .error (.value "trace request mode must be chat or completion")
  | .arr _ | .obj _ => .error (.type "unhashable type")
  | _ => .error (.value "trace request mode must be chat or completion")

/-- `f"{index:032x}"`. -/
def requestId (index : Nat) : String :=
  let digits := Nat.toDigits 16 index
  String.ofList (List.replicate (32 - digits.length) '0' ++ digits)

def traceRequest (fields : List (String × Json)) (index : Nat) : Except Failure TraceRequest := do
  let field (name : String) (default : Json) : Json := (Json.lookup name fields).getD default
  let timestamp ← requireTimestamp float (field "timestamp" .null)
  let inputLen ← requireCount "input_len" 0 (field "input_len" (.int 0))
  let outputLen ← requireCount "output_len" 1 (field "output_len" .null)
  let tensorParallelSize ← requireCount "tensor_parallel_size" 1 (field "tensor_parallel_size" (.int 1))
  let model ← requireModel (field "model" .null)
  let prompt ← requirePrompt (field "prompt" .null)
  let mode ← requireMode (field "mode" (.str "chat"))
  return ⟨timestamp, model, prompt, inputLen, outputLen, tensorParallelSize, requestId index, mode⟩

def requiredFields : List String := ["timestamp", "model", "prompt", "output_len"]

def allowedFields : List String := requiredFields ++ ["input_len", "tensor_parallel_size", "mode"]

def isMetadata (fields : List (String × Json)) : Bool :=
  match Json.lookup "__type__" fields with
  | some (.str kind) => kind = "metadata"
  | _ => false

def readRow (value : Json) (index : Nat) : Except Failure (Option TraceRequest) :=
  match value with
  | .obj fields =>
    if isMetadata fields then .ok none
    else if requiredFields.all (Json.fieldNames fields).contains && (Json.fieldNames fields).all allowedFields.contains then
      (traceRequest float fields index).map some
    else .error (.value "trace request row has invalid fields")
  | _ => .error (.value "trace row must be a JSON object")

/-- `_trace_request_from_line`. -/
def traceRequestFromLine (line : Bytes) (index : Nat) : Except Failure (Option TraceRequest) :=
  if line.length > traceRowBytes then .error (.value "trace row exceeds the safety bound")
  else match decodeUtf8 line with
    | none => .error .unicode
    | some text => match Json.loads text with
      | none => .error (.value "invalid JSON")
      | some value => readRow float value index

end ExaServe.Replay
