import ExaServe.Lib.Binary64
import ExaServe.Lib.Except
import ExaServe.Lib.Value
import ExaServe.Control.Contracts

namespace ExaServe.Serving

open Lib Control

/-- The decoded fields of a body. The decoder takes NaN, infinite and huge numbers, but no
    integer of more than 4300 digits, so that a message can show any it holds. -/
abbrev Fields := List (Value × Value)

def get? (name : String) : Fields → Option Value
  | [] => none
  | (.str key, value) :: rest => if key = name then some value else get? name rest
  | _ :: rest => get? name rest

def invalid {α : Type} (message : String) : Except Raised α := .error (.other "RequestValidationError" message)

def typeName : Value → String
  | .none => "NoneType"
  | .bool _ => "bool"
  | .int _ => "int"
  | .float _ | .nonFinite _ => "float"
  | .str _ => "str"
  | .list _ => "list"
  | .tuple _ => "tuple"
  | .dict _ => "dict"
  | .other type => type

section Fields

-- `repr` of a value, and of a finite float.
variable (repr : Value → String) (shown : ℚ → String)

/-- `float(value)` of an integer. -/
def floatOfInt (value : Int) : Except Raised ℚ :=
  if doubleLimit ≤ roundNat value.natAbs then .error (.other "OverflowError" "int too large to convert to float")
  else .ok (if value < 0 then -(roundNat value.natAbs : ℚ) else roundNat value.natAbs)

def inBounds (key : String) (lo hi : ℚ) (value : ℚ) : Except Raised ℚ :=
  if lo ≤ value ∧ value ≤ hi then .ok value
  else invalid s!"{key} must be in [{shown lo}, {shown hi}], got {shown value}"

def reqFloat (key : String) (lo hi : ℚ) : Value → Except Raised ℚ
  | .int value => floatOfInt value >>= inBounds shown key lo hi
  | .float value => inBounds shown key lo hi value.value
  -- no comparison with NaN holds, and no infinity is between finite bounds
  | .nonFinite text => invalid s!"{key} must be in [{shown lo}, {shown hi}], got {text}"
  | value => invalid s!"{key} must be a number, got {repr value}"

def reqInt (key : String) (lo hi : Int) : Value → Except Raised Int
  | .int value =>
    if lo ≤ value ∧ value ≤ hi then .ok value else invalid s!"{key} must be in [{lo}, {hi}], got {value}"
  | value => invalid s!"{key} must be an integer, got {repr value}"

def trueWords : List String := ["true", "1", "yes"]

def falseWords : List String := ["false", "0", "no"]

def strictFlag (fields : Fields) (key : String) (default : Bool) : Except Raised Bool :=
  match get? key fields with
  | none | some .none => .ok default
  | some (.bool value) => .ok value
  | some (.str text) =>
    let low := String.ofList ((Plan.strip text.toList).map Char.toLower)
    if low ∈ trueWords then .ok true
    else if low ∈ falseWords then .ok false
    else invalid s!"{key} must be a boolean, got {repr (.str text)}"
  | some value => invalid s!"{key} must be a boolean, got {repr value}"

def isText : Value → Bool
  | .str _ => true
  | _ => false

def reqStop : Value → Except Raised Value
  | .none => .ok .none
  | .str text => .ok (.str text)
  | .list items =>
    if items.all isText = true then .ok (.list items) else invalid "stop must be a string or list of strings"
  | _ => invalid "stop must be a string or list of strings"

/-- A field that is checked only if it is there. -/
def optional {α : Type} (fields : Fields) (key : String) (check : Value → Except Raised α) :
    Except Raised (Option α) :=
  match get? key fields with
  | none => .ok none
  | some value => (check value).map some

end Fields

section Sampling

def maxTokensCeiling : Int := 128000

structure Sampling where
  temperature : ℚ
  topP : Option ℚ
  maxTokens : Int
  minTokens : Option Int
  stop : Option Value
  ignoreEos : Bool

variable (repr : Value → String) (shown : ℚ → String)

def checkOrder (minTokens maxTokens : Option Int) : Except Raised Unit :=
  match minTokens, maxTokens with
  | some least, some most => if most < least then invalid "min_tokens must not exceed max_tokens" else .ok ()
  | _, _ => .ok ()

def parseSampling (fields : Fields) : Except Raised Sampling := do
  let temperature ← optional fields "temperature" (reqFloat repr shown "temperature" 0 2)
  let topP ← optional fields "top_p" (reqFloat repr shown "top_p" 0 1)
  let maxTokens ← optional fields "max_tokens" (reqInt repr "max_tokens" 1 maxTokensCeiling)
  let minTokens ← optional fields "min_tokens" (reqInt repr "min_tokens" 0 maxTokensCeiling)
  checkOrder minTokens maxTokens
  let stop ← optional fields "stop" reqStop
  let ignoreEos ← strictFlag repr fields "ignore_eos" false
  .ok { temperature := temperature.getD (7 / 10)
        topP
        maxTokens := maxTokens.getD 1024
        minTokens
        stop
        ignoreEos }

/-- What an engine is handed; what it is not handed it fills in itself. -/
structure EngineParams where
  temperature : ℚ
  topP : Option ℚ
  maxTokens : Int
  minTokens : Option Int
  stop : Option Value
  ignoreEos : Option Bool

/-- The keyword arguments of vLLM's `SamplingParams`. -/
def vllmParams (sampling : Sampling) : EngineParams where
  temperature := sampling.temperature
  topP := sampling.topP
  maxTokens := sampling.maxTokens
  minTokens := sampling.minTokens
  stop := sampling.stop
  ignoreEos := if sampling.ignoreEos then some true else none

/-- SGLang's sampling parameters, `max_new_tokens` and `min_new_tokens` for the bounds. -/
def toSglangSp (sampling : Sampling) : EngineParams where
  temperature := sampling.temperature
  topP := sampling.topP
  maxTokens := sampling.maxTokens
  minTokens := sampling.minTokens
  stop := sampling.stop
  ignoreEos := if sampling.ignoreEos then some true else none

end Sampling

section Bodies

variable (repr : Value → String)

def requireObjectBody : Value → Except Raised Fields
  | .dict fields => .ok fields
  | body => invalid s!"request body must be a JSON object, got {typeName body}"

def validateModelField (fields : Fields) (allowed : List String) : Except Raised Unit :=
  match get? "model" fields with
  | none | some .none => .ok ()
  | some (.str requested) =>
    if requested ∈ allowed then .ok ()
    else
      let served := Value.list ((allowed.dedup.insertionSort (· ≤ ·)).map .str)
      invalid s!"unknown model {repr (.str requested)}; this endpoint serves {repr served}"
  | some requested => invalid s!"model must be a string, got {typeName requested}"

def isTextPart (part : Value) : Bool :=
  match Value.shaped? part ["type", "text"] with
  | some fields =>
    (match Value.field fields "type" with | .str kind => kind == "text" | _ => false) &&
      isText (Value.field fields "text")
  | none => false

def validContent : Option Value → Bool
  | none | some .none | some (.str _) => true
  | some (.list parts) => parts.all isTextPart
  | some _ => false

def validateMessage (index : Nat) : Value → Except Raised Unit
  | .dict message =>
    match get? "role" message with
    | some (.str role) =>
      if Plan.strip role.toList = [] then invalid s!"messages[{index}].role must be a non-empty string"
      else if validContent (get? "content" message) = true then .ok ()
      else invalid s!"messages[{index}].content must be text, text-part list, or null"
    | _ => invalid s!"messages[{index}].role must be a non-empty string"
  | _ => invalid s!"messages[{index}] must be an object"

def validateMessagesFrom : Nat → List Value → Except Raised Unit
  | _, [] => .ok ()
  | index, message :: rest => validateMessage index message >>= fun _ => validateMessagesFrom (index + 1) rest

def validateMessages : Option Value → Except Raised Unit
  | some (.list (first :: rest)) => validateMessagesFrom 0 (first :: rest)
  | _ => invalid "messages must be a non-empty list"

def validateChatTemplate : Option Value → Except Raised Unit
  | none | some .none | some (.str _) => .ok ()
  | some _ => invalid "chat_template must be a string or null"

def validateChatTemplateKwargs : Option Value → Except Raised Unit
  | none | some .none => .ok ()
  | some (.dict kwargs) =>
    if kwargs.all (fun entry => isText entry.1) = true then .ok ()
    else invalid "chat_template_kwargs keys must be strings"
  | some _ => invalid "chat_template_kwargs must be an object or null"

def validateChatOptions (fields : Fields) : Except Raised Unit := do
  validateChatTemplate (get? "chat_template" fields)
  validateChatTemplateKwargs (get? "chat_template_kwargs" fields)

def validatePrompt : Option Value → Except Raised String
  | none => .ok ""
  | some (.str prompt) => .ok prompt
  | some _ => invalid "prompt must be a string"

end Bodies

section Requests

variable (repr : Value → String) (shown : ℚ → String) (served : List String)

structure ChatRequest where
  sampling : Sampling
  stream : Bool
  addGenerationPrompt : Bool
  continueFinalMessage : Bool

/-- The checks of `chat_completions`. -/
def chatRequest (body : Value) : Except Raised ChatRequest := do
  let fields ← requireObjectBody body
  validateModelField repr fields served
  validateMessages (get? "messages" fields)
  validateChatOptions fields
  let sampling ← parseSampling repr shown fields
  let stream ← strictFlag repr fields "stream" false
  let addGenerationPrompt ← strictFlag repr fields "add_generation_prompt" true
  let continueFinalMessage ← strictFlag repr fields "continue_final_message" false
  .ok { sampling, stream, addGenerationPrompt, continueFinalMessage }

structure CompletionRequest where
  sampling : Sampling
  stream : Bool
  prompt : String

/-- The checks of `completions`. -/
def completionRequest (body : Value) : Except Raised CompletionRequest := do
  let fields ← requireObjectBody body
  validateModelField repr fields served
  let sampling ← parseSampling repr shown fields
  let stream ← strictFlag repr fields "stream" false
  let prompt ← validatePrompt (get? "prompt" fields)
  .ok { sampling, stream, prompt }

end Requests

section Context

/-- The end of the context check: the request fits, or the answer it gets. -/
inductive Preflight where
  | fits
  | exceeded (message param : String)
  | failed (message : String)

def requireAtLeast (repr : Value → String) (name : String) (minimum value : Int) : Except Raised Unit :=
  if minimum ≤ value then .ok ()
  else .error (.other "RuntimeError" s!"{name} must be an integer >= {minimum}, got {repr (.int value)}")

/-- The context check on counts of the engine's tokenizer, where counting may raise. -/
def contextPreflight (repr : Value → String) (counted : Except Raised Int) (sampling : Sampling) (maxModelLen : Int)
    (promptParam : String) : Preflight :=
  let checked : Except Raised Int := do
    let promptTokens ← counted
    requireAtLeast repr "prompt_tokens" 0 promptTokens
    requireAtLeast repr "requested_completion_tokens" 1 sampling.maxTokens
    requireAtLeast repr "max_model_len" 1 maxModelLen
    if promptParam = "" then .error (.other "RuntimeError" "prompt_param must be non-empty text") else .ok promptTokens
  match checked with
  | .error _ => .failed "the model tokenizer could not validate this request"
  | .ok promptTokens =>
    let total := promptTokens + sampling.maxTokens
    if maxModelLen < total then
      .exceeded (s!"maximum context length is {maxModelLen} tokens, but the rendered prompt uses {promptTokens} " ++
          s!"tokens and requests {sampling.maxTokens} completion tokens ({total} total)")
        (if maxModelLen < promptTokens then promptParam else "max_tokens")
    else .fits

end Context

end ExaServe.Serving
