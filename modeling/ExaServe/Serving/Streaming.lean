import ExaServe.Lib.Except
import ExaServe.Control.Contracts

namespace ExaServe.Serving

open Lib Control

section Results

structure GenResult where
  text : List Char
  finishReason : String
  promptTokens : Nat
  completionTokens : Nat
  tokenCountSource : String
  error : Option String
  named : finishReason ≠ ""
  sourced : tokenCountSource ≠ ""
  explained : error ≠ some ""

def GenResult.answered (text : List Char) (finishReason : String) (promptTokens completionTokens : Nat) :
    Except Raised GenResult :=
  if named : finishReason ≠ "" then
    .ok { text, finishReason, promptTokens, completionTokens
          tokenCountSource := "engine_tokenizer"
          error := none
          named
          sourced := by decide
          explained := by simp }
  else .error (.other "ValueError" "GenResult.finish_reason must be non-empty text")

def GenResult.failed (error : String) : Except Raised GenResult :=
  if explained : error ≠ "" then
    .ok { text := []
          finishReason := "stop"
          promptTokens := 0
          completionTokens := 0
          tokenCountSource := "engine_tokenizer"
          error := some error
          named := by decide
          sourced := by decide
          explained := fun same => explained (Option.some.inj same) }
  else .error (.other "ValueError" "GenResult.error must be null or non-empty text")

structure GenDelta where
  delta : List Char
  finishReason : Option String
  promptTokens : Nat
  completionTokens : Nat
  tokenCountSource : String
  named : finishReason ≠ some ""
  sourced : tokenCountSource ≠ ""

def GenDelta.content (delta : List Char) : GenDelta where
  delta
  finishReason := none
  promptTokens := 0
  completionTokens := 0
  tokenCountSource := "engine_tokenizer"
  named := by simp
  sourced := by decide

def GenDelta.finish (finishReason : String) (promptTokens completionTokens : Nat) : Except Raised GenDelta :=
  if named : finishReason ≠ "" then
    .ok { delta := []
          finishReason := some finishReason
          promptTokens, completionTokens
          tokenCountSource := "engine_tokenizer"
          named := fun same => named (Option.some.inj same)
          sourced := by decide }
  else .error (.other "ValueError" "GenDelta.finish_reason must be null or non-empty text")

/-- What an asynchronous generator hands out, and the exception it ends with. -/
structure Generated (α : Type) where
  items : List α
  raised : Option Raised

end Results

section Adapters

variable {α σ : Type}

/-- The loop of both adapters: what each text has beyond the length of the one before, where
    that is not empty, and the state after the last output. -/
def followTexts (read : σ → α → Except Raised (List Char × σ)) (raised : Option Raised) :
    List Char → σ → List α → List (List Char) × Except Raised σ
  | _, state, [] =>
    match raised with
    | none => ([], .ok state)
    | some failure => ([], .error failure)
  | prev, state, output :: rest =>
    match read state output with
    | .error failure => ([], .error failure)
    | .ok (text, next) =>
      let delta := text.drop prev.length
      let later := followTexts read raised text next rest
      (if delta = [] then later.1 else delta :: later.1, later.2)

/-- The deltas, and the last one where it can be built. -/
def withFinal (followed : List (List Char) × Except Raised σ) (final : σ → Except Raised GenDelta) :
    Generated GenDelta :=
  let deltas := followed.1.map GenDelta.content
  match followed.2 >>= final with
  | .ok last => ⟨deltas ++ [last], none⟩
  | .error failure => ⟨deltas, some failure⟩

end Adapters

namespace Vllm

structure CompletionOutput where
  text : List Char
  tokenIds : List Nat
  finishReason : Option String

/-- A request asks for one choice. -/
structure RequestOutput where
  promptTokenIds : List Nat
  choice : CompletionOutput

/-- `choice.finish_reason or "stop"`. -/
def CompletionOutput.reason (choice : CompletionOutput) : String :=
  match choice.finishReason with
  | none => "stop"
  | some reason => if reason = "" then "stop" else reason

def generate (run : Generated RequestOutput) : Except Raised GenResult :=
  match run.raised with
  | some failure => .error failure
  | none =>
    match run.items.getLast? with
    | none => GenResult.failed "No output generated"
    | some final => GenResult.answered final.choice.text final.choice.reason final.promptTokenIds.length
        final.choice.tokenIds.length

def readOutput (_ : Option RequestOutput) (output : RequestOutput) :
    Except Raised (List Char × Option RequestOutput) := .ok (output.choice.text, some output)

def finalDelta : Option RequestOutput → Except Raised GenDelta
  | none => .error (.other "RuntimeError" "vLLM stream ended without an output")
  | some output => GenDelta.finish output.choice.reason output.promptTokenIds.length output.choice.tokenIds.length

def generateStream (run : Generated RequestOutput) : Generated GenDelta :=
  withFinal (followTexts readOutput run.raised [] none run.items) finalDelta

end Vllm

namespace Sglang

abbrev Meta := List (String × Json)

def finishReason (info : Meta) : Except Raised String :=
  let reason := match Json.lookup "finish_reason" info with
    | some (.obj fields) => (Json.lookup "type" fields).getD (.str "stop")
    | some reason => reason
    | none => .null
  match reason with
  | .null => .ok "stop"
  | .str text =>
    if text = "" then .error (.other "RuntimeError" "SGLang returned an invalid finish reason") else .ok text
  | _ => .error (.other "RuntimeError" "SGLang returned an invalid finish reason")

def tokenCount (info : Meta) (field : String) : Except Raised Nat :=
  match (Json.lookup field info).getD (.int 0) with
  | .int (.ofNat value) => .ok value
  | value => .error (.other "RuntimeError" s!"SGLang returned invalid {field}={value.reprText}")

def output (value : Json) : Except Raised (List Char × Meta) := do
  let value ← match value with
    | .arr [only] => .ok only
    | .arr _ => .error (.other "RuntimeError" "SGLang returned an unexpected output list")
    | other => .ok other
  match value with
  | .obj fields =>
    match Json.lookup "text" fields, (Json.lookup "meta_info" fields).getD (.obj []) with
    | some (.str text), .obj info => .ok (text.toList, info)
    | _, _ => .error (.other "RuntimeError" "SGLang output text/metadata has an invalid type")
  | _ => .error (.other "RuntimeError" "SGLang returned a non-object output")

def generate (out : Except Raised Json) : Except Raised GenResult :=
  match out with
  | .error failure => GenResult.failed failure.described
  | .ok out => do
    let (text, info) ← output out
    let reason ← finishReason info
    let promptTokens ← tokenCount info "prompt_tokens"
    let completionTokens ← tokenCount info "completion_tokens"
    GenResult.answered text reason promptTokens completionTokens

/-- The metadata kept is the last that is not empty; none before the first output. -/
def readOutput (lastMeta : Option Meta) (out : Json) : Except Raised (List Char × Option Meta) := do
  let (text, info) ← output out
  .ok (text, some (if info = [] then lastMeta.getD [] else info))

def finalDelta : Option Meta → Except Raised GenDelta
  | none => .error (.other "RuntimeError" "SGLang stream ended without an output")
  | some lastMeta => do
    let reason ← finishReason lastMeta
    let promptTokens ← tokenCount lastMeta "prompt_tokens"
    let completionTokens ← tokenCount lastMeta "completion_tokens"
    GenDelta.finish reason promptTokens completionTokens

def generateStream (run : Generated Json) : Generated GenDelta :=
  withFinal (followTexts readOutput run.raised [] none run.items) finalDelta

end Sglang

section Responses

/-- What a response repeats of its request. -/
structure Stamp where
  requestId : String
  created : Int
  modelId : String

/-- The two routes, which frame the same text differently. -/
inductive Endpoint where
  | chat | completion
  deriving DecidableEq

inductive SseEvent where
  | data (value : Json)
  | done

def usageOf (promptTokens completionTokens : Nat) (tokenCountSource : String) : Json :=
  .obj [("prompt_tokens", .int promptTokens), ("completion_tokens", .int completionTokens),
    ("total_tokens", .int (promptTokens + completionTokens : Nat)), ("token_count_source", .str tokenCountSource)]

namespace Endpoint

def chunkObject : Endpoint → String
  | chat => "chat.completion.chunk"
  | completion => "text_completion"

def answerObject : Endpoint → String
  | chat => "chat.completion"
  | completion => "text_completion"

/-- The text in a choice of a chunk. -/
def chunkText (text : String) : Endpoint → String × Json
  | chat => ("delta", .obj [("content", .str text)])
  | completion => ("text", .str text)

def noText : Endpoint → String × Json
  | chat => ("delta", .obj [])
  | completion => ("text", .str "")

def answerText (text : String) : Endpoint → String × Json
  | chat => ("message", .obj [("role", .str "assistant"), ("content", .str text)])
  | completion => ("text", .str text)

end Endpoint

def bodyOf (stamp : Stamp) (object : String) (text : String × Json) (finish : Json)
    (usage : List (String × Json)) : Json :=
  .obj ([("id", .str stamp.requestId), ("object", .str object), ("created", .int stamp.created),
    ("model", .str stamp.modelId),
    ("choices", .arr [.obj [("index", .int 0), text, ("finish_reason", finish)]])] ++ usage)

variable (endpoint : Endpoint) (stamp : Stamp)

/-- A chunk's events: its text if there is some, then the end if it has a reason, with the
    usage recorded from the same chunk. -/
def chunkEvents (chunk : GenDelta) : List SseEvent :=
  (if chunk.delta = [] then []
    else [.data (bodyOf stamp endpoint.chunkObject (endpoint.chunkText (String.ofList chunk.delta)) .null [])]) ++
  match chunk.finishReason with
  | none => []
  | some reason => [.data (bodyOf stamp endpoint.chunkObject endpoint.noText (.str reason)
      [("usage", usageOf chunk.promptTokens chunk.completionTokens chunk.tokenCountSource)])]

def streamEvents (chunks : Generated GenDelta) : Generated SseEvent where
  items := chunks.items.flatMap (chunkEvents endpoint stamp) ++
    match chunks.raised with
    | none => [.done]
    | some _ => []
  raised := chunks.raised

/-- The status and body of an answer in one piece. -/
def answer (result : Except Raised GenResult) : Except Raised (Nat × Json) :=
  result.map fun res =>
    match res.error with
    | some error => (500, .obj [("error", .str error)])
    | none => (200, bodyOf stamp endpoint.answerObject (endpoint.answerText (String.ofList res.text))
        (.str res.finishReason) [("usage", usageOf res.promptTokens res.completionTokens res.tokenCountSource)])

def chatStream (chunks : Generated GenDelta) : Generated SseEvent := streamEvents .chat stamp chunks

def completionStream (chunks : Generated GenDelta) : Generated SseEvent := streamEvents .completion stamp chunks

def chatNonStream (result : Except Raised GenResult) : Except Raised (Nat × Json) := answer .chat stamp result

def completionNonStream (result : Except Raised GenResult) : Except Raised (Nat × Json) :=
  answer .completion stamp result

end Responses

end ExaServe.Serving
