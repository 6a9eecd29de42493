import Mathlib.Data.List.Chain
import ExaServe.Serving.Streaming

namespace ExaServe.Serving

open Lib Control

section Deltas

variable {α σ : Type} {read : σ → α → Except Raised (List Char × σ)}

/-- Every output is read, to these texts and this last state. -/
inductive Reads (read : σ → α → Except Raised (List Char × σ)) : σ → List α → List (List Char) → σ → Prop where
  | nil (state : σ) : Reads read state [] [] state
  | cons {state next final : σ} {output : α} {rest : List α} {text : List Char} {texts : List (List Char)}
      (first : read state output = .ok (text, next)) (later : Reads read next rest texts final) :
      Reads read state (output :: rest) (text :: texts) final

/-- Each text extends the one before it. -/
def Cumulative (texts : List (List Char)) : Prop := texts.IsChain (· <+: ·)

/-- The deltas of cumulative texts make up the last of them. -/
theorem followTexts_reads {state final : σ} {outputs : List α} {texts : List (List Char)}
    (reads : Reads read state outputs texts final) {prev : List Char} (cumulative : Cumulative (prev :: texts)) :
    ∃ deltas, followTexts read none prev state outputs = (deltas, .ok final) ∧
      prev ++ deltas.flatten = texts.getLast?.getD prev ∧ ∀ delta ∈ deltas, delta ≠ [] := by
  induction reads generalizing prev with
  | nil state => exact ⟨[], rfl, by simp, fun delta member => absurd member List.not_mem_nil⟩
  | @cons state next final output rest text texts first later ih =>
    have chain := List.isChain_cons_cons.mp cumulative
    obtain ⟨deltas, followed, whole, proper⟩ := ih chain.2
    obtain ⟨delta, rfl⟩ := chain.1
    rw [List.getLast?_cons, Option.getD_some]
    by_cases empty : delta = []
    · subst empty
      rw [List.append_nil] at followed
      refine ⟨deltas, ?_, ?_, proper⟩
      · rw [followTexts, first]
        simp [followed]
      · rw [← whole, List.append_nil]
    · refine ⟨delta :: deltas, ?_, ?_, ?_⟩
      · rw [followTexts, first]
        simp [followed, empty]
      · rw [← whole, List.flatten_cons, List.append_assoc]
      · intro other member
        rcases List.mem_cons.mp member with rfl | among
        · exact empty
        · exact proper other among

end Deltas

section Reading

def field (key : String) : Json → Option Json
  | .obj fields => Json.lookup key fields
  | _ => none

def choiceOf (body : Json) : Option Json :=
  match field "choices" body with
  | some (.arr (choice :: _)) => some choice
  | _ => none

def textOf : Option Json → List Char
  | some (.str text) => text.toList
  | _ => []

/-- The reason a client reads in a body; none where it is null. -/
def reasonIn (body : Json) : Option String :=
  match (choiceOf body).bind (field "finish_reason") with
  | some (.str reason) => some reason
  | _ => none

def usageIn (body : Json) : Option Json := field "usage" body

namespace Endpoint

/-- The text a client takes from a chunk. -/
def contentOfChunk (body : Json) : Endpoint → List Char
  | chat => textOf (((choiceOf body).bind (field "delta")).bind (field "content"))
  | completion => textOf ((choiceOf body).bind (field "text"))

def contentOfAnswer (body : Json) : Endpoint → List Char
  | chat => textOf (((choiceOf body).bind (field "message")).bind (field "content"))
  | completion => textOf ((choiceOf body).bind (field "text"))

end Endpoint

variable {endpoint : Endpoint} {stamp : Stamp} {object : String} {finish : Json} {usage : List (String × Json)}

theorem choiceOf_bodyOf {text : String × Json} : choiceOf (bodyOf stamp object text finish usage) =
    some (.obj [("index", .int 0), text, ("finish_reason", finish)]) := by
  simp [choiceOf, bodyOf, field, Json.lookup]

theorem usageIn_bodyOf {text : String × Json} :
    usageIn (bodyOf stamp object text finish usage) = Json.lookup "usage" usage := by
  simp [usageIn, bodyOf, field, Json.lookup]

theorem reasonIn_bodyOf {text : String × Json} (other : text.1 ≠ "finish_reason") :
    reasonIn (bodyOf stamp object text finish usage) =
      match finish with | .str reason => some reason | _ => none := by
  rw [reasonIn, choiceOf_bodyOf]
  simp only [Option.bind_some, field, Json.lookup, if_neg other]
  cases finish
  all_goals simp

theorem contentOfChunk_text (text : List Char) :
    endpoint.contentOfChunk (bodyOf stamp object (endpoint.chunkText (String.ofList text)) finish usage) = text := by
  cases endpoint
  all_goals simp [Endpoint.contentOfChunk, choiceOf_bodyOf, Endpoint.chunkText, field, Json.lookup, textOf]

theorem contentOfChunk_noText : endpoint.contentOfChunk (bodyOf stamp object endpoint.noText finish usage) = [] := by
  cases endpoint
  all_goals simp [Endpoint.contentOfChunk, choiceOf_bodyOf, Endpoint.noText, field, Json.lookup, textOf]

theorem contentOfAnswer_text (text : List Char) :
    endpoint.contentOfAnswer (bodyOf stamp object (endpoint.answerText (String.ofList text)) finish usage) =
      text := by
  cases endpoint
  all_goals simp [Endpoint.contentOfAnswer, choiceOf_bodyOf, Endpoint.answerText, field, Json.lookup, textOf]

end Reading

section Agreement

/-- The stream gives the answer: chunks without a reason, one with it and the usage, [DONE];
    or, where there is no answer, it is broken off by the same exception. -/
def Agrees (endpoint : Endpoint) (answer : Except Raised (Nat × Json)) (streamed : Generated SseEvent) : Prop :=
  match answer with
  | .ok (status, body) =>
    status = 200 ∧ ∃ (chunks : List Json) (final : Json), streamed.items = (chunks ++ [final]).map .data ++ [.done] ∧
      streamed.raised = none ∧ (∀ chunk ∈ chunks, reasonIn chunk = none ∧ usageIn chunk = none) ∧
      ((chunks ++ [final]).map fun chunk => endpoint.contentOfChunk chunk).flatten = endpoint.contentOfAnswer body ∧
      (∃ reason, reasonIn final = some reason ∧ reasonIn body = some reason) ∧
      ∃ usage, usageIn final = some usage ∧ usageIn body = some usage
  | .error failure =>
    streamed.raised = some failure ∧ ∃ chunks : List Json, streamed.items = chunks.map .data ∧
      ∀ chunk ∈ chunks, reasonIn chunk = none

variable {endpoint : Endpoint} {stamp : Stamp}

theorem chunkText_other (text : String) : (endpoint.chunkText text).1 ≠ "finish_reason" := by
  cases endpoint
  all_goals simp [Endpoint.chunkText]

theorem noText_other : endpoint.noText.1 ≠ "finish_reason" := by
  cases endpoint
  all_goals simp [Endpoint.noText]

theorem answerText_other (text : String) : (endpoint.answerText text).1 ≠ "finish_reason" := by
  cases endpoint
  all_goals simp [Endpoint.answerText]

/-- The body of a chunk that carries text. -/
def textChunk (endpoint : Endpoint) (stamp : Stamp) (delta : List Char) : Json :=
  bodyOf stamp endpoint.chunkObject (endpoint.chunkText (String.ofList delta)) .null []

theorem textChunk_reason (delta : List Char) : reasonIn (textChunk endpoint stamp delta) = none :=
  reasonIn_bodyOf (chunkText_other _)

theorem contentEvents {deltas : List (List Char)} (proper : ∀ delta ∈ deltas, delta ≠ []) :
    (deltas.map GenDelta.content).flatMap (chunkEvents endpoint stamp) =
      (deltas.map (textChunk endpoint stamp)).map .data := by
  induction deltas with
  | nil => rfl
  | cons delta rest ih =>
    have later := ih fun other member => proper other (List.mem_cons_of_mem _ member)
    have first : chunkEvents endpoint stamp (GenDelta.content delta) = [.data (textChunk endpoint stamp delta)] := by
      rw [chunkEvents, GenDelta.content]
      simp only [if_neg (proper delta List.mem_cons_self), List.append_nil]
      rfl
    rw [List.map_cons, List.flatMap_cons, first, later]
    rfl

/-- Deltas that make up the text of a result, ended by its reason and counts, agree with it. -/
theorem agrees_of_deltas {deltas : List (List Char)} (proper : ∀ delta ∈ deltas, delta ≠ []) {result : GenResult}
    (answered : result.error = none) (text : deltas.flatten = result.text) {last : GenDelta}
    (silent : last.delta = []) (reason : last.finishReason = some result.finishReason)
    (counts : usageOf last.promptTokens last.completionTokens last.tokenCountSource =
      usageOf result.promptTokens result.completionTokens result.tokenCountSource) :
    Agrees endpoint (answer endpoint stamp (.ok result))
      (streamEvents endpoint stamp ⟨deltas.map GenDelta.content ++ [last], none⟩) := by
  let final := bodyOf stamp endpoint.chunkObject endpoint.noText (.str result.finishReason)
    [("usage", usageOf result.promptTokens result.completionTokens result.tokenCountSource)]
  have ended : chunkEvents endpoint stamp last = [.data final] := by
    rw [chunkEvents, silent, reason, counts]
    rfl
  have content : ((deltas.map (textChunk endpoint stamp)).map fun chunk => endpoint.contentOfChunk chunk) =
      deltas := by
    rw [List.map_map]
    exact List.map_id'' (fun delta => contentOfChunk_text delta) deltas
  rw [answer, Except.map, Agrees, answered]
  refine ⟨rfl, deltas.map (textChunk endpoint stamp), final, ?_, rfl, ?_, ?_, ?_, ?_⟩
  · rw [streamEvents, List.flatMap_append, contentEvents proper, List.flatMap_singleton, ended, List.map_append]
    rfl
  · intro chunk member
    obtain ⟨delta, -, rfl⟩ := List.mem_map.mp member
    exact ⟨textChunk_reason delta, usageIn_bodyOf⟩
  · rw [List.map_append, content, List.map_singleton, contentOfChunk_noText, contentOfAnswer_text, List.flatten_append,
      text]
    simp
  · exact ⟨result.finishReason, reasonIn_bodyOf noText_other, reasonIn_bodyOf (answerText_other _)⟩
  · exact ⟨_, usageIn_bodyOf, usageIn_bodyOf⟩

theorem agrees_of_failure {deltas : List (List Char)} (proper : ∀ delta ∈ deltas, delta ≠ []) (failure : Raised) :
    Agrees endpoint (answer endpoint stamp (.error failure))
      (streamEvents endpoint stamp ⟨deltas.map GenDelta.content, some failure⟩) := by
  refine ⟨rfl, deltas.map (textChunk endpoint stamp), ?_, ?_⟩
  · rw [streamEvents, contentEvents proper, List.append_nil]
  · intro chunk member
    obtain ⟨delta, -, rfl⟩ := List.mem_map.mp member
    exact textChunk_reason delta

/-- Adapters that read cumulative outputs to the text of a result and to its last delta. -/
theorem agrees_of_reads {α σ : Type} {read : σ → α → Except Raised (List Char × σ)} {outputs : List α}
    {texts : List (List Char)} {text : List Char} {start final : σ}
    (reads : Reads read start outputs (texts ++ [text]) final) (cumulative : Cumulative (texts ++ [text]))
    {finalDelta : σ → Except Raised GenDelta} {ending : Except Raised (String × Nat × Nat)}
    (named : ∀ reason counts, ending = .ok (reason, counts) → reason ≠ "") {result : Except Raised GenResult}
    (ends : finalDelta final = ending >>= fun ending => GenDelta.finish ending.1 ending.2.1 ending.2.2)
    (answers : result = ending >>= fun ending => GenResult.answered text ending.1 ending.2.1 ending.2.2) :
    Agrees endpoint (answer endpoint stamp result)
      (streamEvents endpoint stamp (withFinal (followTexts read none [] start outputs) finalDelta)) := by
  have chain : Cumulative ([] :: (texts ++ [text])) := by
    cases texts with
    | nil => exact List.isChain_cons_cons.mpr ⟨List.nil_prefix, cumulative⟩
    | cons first rest => exact List.isChain_cons_cons.mpr ⟨List.nil_prefix, cumulative⟩
  obtain ⟨deltas, followed, whole, proper⟩ := followTexts_reads reads chain
  rw [List.nil_append, List.getLast?_append, List.getLast?_singleton, Option.some_or, Option.getD_some] at whole
  rw [withFinal, followed, ok_bind rfl, ends, answers]
  cases ending with
  | error failure => exact agrees_of_failure proper failure
  | ok ending =>
    have proper_reason := named ending.1 ending.2 rfl
    simp only [ok_bind rfl]
    rw [GenDelta.finish, dif_pos proper_reason, GenResult.answered, dif_pos proper_reason]
    exact agrees_of_deltas proper rfl whole rfl rfl rfl

end Agreement

namespace Vllm

theorem reason_named (choice : CompletionOutput) : choice.reason ≠ "" := by
  unfold CompletionOutput.reason
  split
  · decide
  · split
    · decide
    · assumption

theorem readOutput_reads (state : Option RequestOutput) (outputs : List RequestOutput) :
    Reads readOutput state outputs (outputs.map fun output => output.choice.text) (outputs.getLast?.or state) := by
  induction outputs generalizing state with
  | nil => exact .nil state
  | cons output rest ih =>
    have last : (output :: rest).getLast?.or state = rest.getLast?.or (some output) := by
      rw [List.getLast?_cons]
      cases rest.getLast?
      all_goals rfl
    rw [last]
    exact .cons rfl (ih (some output))

end Vllm

namespace Sglang

theorem finishReason_named {info : Meta} {reason : String} (read : finishReason info = .ok reason) : reason ≠ "" := by
  unfold finishReason at read
  simp only at read
  split at read
  · cases read
    decide
  · split at read
    · cases read
    · cases read
      assumption
  · cases read

/-- The outputs are well formed, with these texts. -/
def Texts (outs : List Json) (texts : List (List Char)) : Prop :=
  List.Forall₂ (fun out text => ∃ info, output out = .ok (text, info)) outs texts

theorem readOutput_ok {lastMeta : Option Meta} {out : Json} {text : List Char} {info : Meta}
    (read : output out = .ok (text, info)) :
    readOutput lastMeta out = .ok (text, some (if info = [] then lastMeta.getD [] else info)) := by
  rw [readOutput, ok_bind read]

/-- Where the last output has metadata, these are what is kept. -/
theorem readOutput_reads {front : List Json} {texts : List (List Char)} (well_formed : Texts front texts)
    {last : Json} {text : List Char} {info : Meta} (read : output last = .ok (text, info)) (some_info : info ≠ [])
    (state : Option Meta) : Reads readOutput state (front ++ [last]) (texts ++ [text]) (some info) := by
  induction well_formed generalizing state with
  | nil =>
    have done := @readOutput_ok state _ _ _ read
    rw [if_neg some_info] at done
    exact .cons done (.nil _)
  | cons first later ih =>
    obtain ⟨info, first⟩ := first
    exact .cons (readOutput_ok first) (ih _)

end Sglang

section Engines

namespace Endpoint

def stream (stamp : Stamp) (chunks : Generated GenDelta) : Endpoint → Generated SseEvent
  | chat => chatStream stamp chunks
  | completion => completionStream stamp chunks

def nonStream (stamp : Stamp) (result : Except Raised GenResult) : Endpoint → Except Raised (Nat × Json)
  | chat => chatNonStream stamp result
  | completion => completionNonStream stamp result

theorem stream_eq (endpoint : Endpoint) (stamp : Stamp) (chunks : Generated GenDelta) :
    endpoint.stream stamp chunks = streamEvents endpoint stamp chunks := by
  cases endpoint
  all_goals rfl

theorem nonStream_eq (endpoint : Endpoint) (stamp : Stamp) (result : Except Raised GenResult) :
    endpoint.nonStream stamp result = answer endpoint stamp result := by
  cases endpoint
  all_goals rfl

end Endpoint

/-- Over cumulative outputs the two kinds of answer agree on both routes, for vLLM and, where
    the last output says that it is finished, for SGLang. -/
theorem streaming_agrees (endpoint : Endpoint) (stamp : Stamp) :
    (∀ outputs : List Vllm.RequestOutput, outputs ≠ [] → Cumulative (outputs.map fun output => output.choice.text) →
      (∃ body, endpoint.nonStream stamp (Vllm.generate ⟨outputs, none⟩) = .ok (200, body)) ∧
      Agrees endpoint (endpoint.nonStream stamp (Vllm.generate ⟨outputs, none⟩))
        (endpoint.stream stamp (Vllm.generateStream ⟨outputs, none⟩))) ∧
    ∀ front texts last text info, Sglang.Texts front texts → Sglang.output last = .ok (text, info) →
      (∃ reason, Json.lookup "finish_reason" info = some reason ∧ reason ≠ .null) → Cumulative (texts ++ [text]) →
      Agrees endpoint (endpoint.nonStream stamp (Sglang.generate (.ok last)))
        (endpoint.stream stamp (Sglang.generateStream ⟨front ++ [last], none⟩)) := by
  simp only [Endpoint.stream_eq, Endpoint.nonStream_eq]
  constructor
  · intro outputs some_output cumulative
    obtain ⟨front, last, rfl⟩ := (List.eq_nil_or_concat outputs).resolve_left some_output
    rw [List.concat_eq_append] at cumulative ⊢
    have reads := Vllm.readOutput_reads none (front ++ [last])
    rw [List.getLast?_append, List.getLast?_singleton, Option.some_or, Option.some_or, List.map_append,
      List.map_singleton] at reads
    rw [List.map_append, List.map_singleton] at cumulative
    have generated : Vllm.generate ⟨front ++ [last], none⟩ = GenResult.answered last.choice.text last.choice.reason
        last.promptTokenIds.length last.choice.tokenIds.length := by
      simp [Vllm.generate]
    constructor
    · rw [generated, GenResult.answered, dif_pos (Vllm.reason_named _)]
      exact ⟨_, rfl⟩
    · have named : ∀ reason counts, (Except.ok (last.choice.reason, last.promptTokenIds.length,
          last.choice.tokenIds.length) : Except Raised (String × Nat × Nat)) = .ok (reason, counts) → reason ≠ "" := by
        rintro reason counts ⟨⟩
        exact Vllm.reason_named _
      exact agrees_of_reads reads cumulative named rfl generated
  · intro front texts last text info well_formed read finished cumulative
    have some_info : info ≠ [] := by
      rintro rfl
      obtain ⟨reason, found, -⟩ := finished
      cases found
    let ending : Except Raised (String × Nat × Nat) := do
      let reason ← Sglang.finishReason info
      let promptTokens ← Sglang.tokenCount info "prompt_tokens"
      let completionTokens ← Sglang.tokenCount info "completion_tokens"
      .ok (reason, promptTokens, completionTokens)
    have named : ∀ reason counts, ending = .ok (reason, counts) → reason ≠ "" := by
      intro reason counts ended
      obtain ⟨first, found, ended⟩ := bind_ok ended
      obtain ⟨promptTokens, -, ended⟩ := bind_ok ended
      obtain ⟨completionTokens, -, ended⟩ := bind_ok ended
      cases ended
      exact Sglang.finishReason_named found
    have ends : Sglang.finalDelta (some info) =
        ending >>= fun ending => GenDelta.finish ending.1 ending.2.1 ending.2.2 := by
      simp only [Sglang.finalDelta, ending, bind_assoc, ok_bind rfl]
    have answers : Sglang.generate (.ok last) =
        ending >>= fun ending => GenResult.answered text ending.1 ending.2.1 ending.2.2 := by
      simp only [Sglang.generate, ok_bind read, ending, bind_assoc, ok_bind rfl]
    exact agrees_of_reads (Sglang.readOutput_reads well_formed read some_info none) cumulative named ends answers

def helloStamp : Stamp := ⟨"chatcmpl-1", 0, "m"⟩

/-- The last output adds no text. -/
def helloOutputs : List Vllm.RequestOutput :=
  [⟨[1, 2], ⟨['H', 'e'], [7], none⟩⟩, ⟨[1, 2], ⟨['H', 'e', 'y'], [7, 8], none⟩⟩,
    ⟨[1, 2], ⟨['H', 'e', 'y'], [7, 8, 9], some "stop"⟩⟩]

def helloFinished : Json :=
  .obj [("text", .str "He"), ("meta_info", .obj [("finish_reason", .obj [("type", .str "length")]),
    ("prompt_tokens", .int 2), ("completion_tokens", .int 1)])]

theorem hello_streams_agree :
    Agrees .chat (Endpoint.chat.nonStream helloStamp (Vllm.generate ⟨helloOutputs, none⟩))
      (Endpoint.chat.stream helloStamp (Vllm.generateStream ⟨helloOutputs, none⟩)) ∧
    Agrees .completion (Endpoint.completion.nonStream helloStamp (Sglang.generate (.ok helloFinished)))
      (Endpoint.completion.stream helloStamp (Sglang.generateStream ⟨[helloFinished], none⟩)) := by
  constructor
  · have grows : Cumulative (helloOutputs.map fun output => output.choice.text) :=
      List.isChain_cons_cons.mpr ⟨⟨['y'], rfl⟩, List.isChain_cons_cons.mpr ⟨⟨[], rfl⟩, List.isChain_singleton _⟩⟩
    exact ((streaming_agrees .chat helloStamp).1 helloOutputs (by simp [helloOutputs]) grows).2
  · have read : Sglang.output helloFinished = .ok (['H', 'e'], [("finish_reason", .obj [("type", .str "length")]),
        ("prompt_tokens", .int 2), ("completion_tokens", .int 1)]) := rfl
    exact (streaming_agrees .completion helloStamp).2 [] [] helloFinished ['H', 'e'] _ .nil read ⟨_, rfl, by simp⟩
      (List.isChain_singleton _)

end Engines

end ExaServe.Serving
