import ExaServe.Replay.Distribute

namespace ExaServe.Replay

open Lib

section Identity

def hexNumber (text : List Char) : Nat := text.foldl (fun number c => 16 * number + (Json.hexValue? c).getD 0) 0

theorem hexNumber_digit : ∀ n < 16, (Json.hexValue? n.digitChar).getD 0 = n := by decide

theorem hexNumber_toDigits (n : Nat) : hexNumber (Nat.toDigits 16 n) = n := by
  induction n using Nat.strongRecOn with
  | ind n ih =>
    by_cases small : n < 16
    · rw [Nat.toDigits_of_lt_base small]
      show 16 * 0 + _ = n
      rw [hexNumber_digit n small]
      omega
    · rw [Nat.toDigits_of_base_le (by decide) (by omega), hexNumber, List.foldl_append]
      have above := ih (n / 16) (by omega)
      rw [hexNumber] at above
      rw [above]
      show 16 * (n / 16) + _ = n
      rw [hexNumber_digit _ (Nat.mod_lt n (by decide))]
      omega

theorem hexNumber_padded (zeros n : Nat) : hexNumber (List.replicate zeros '0' ++ Nat.toDigits 16 n) = n := by
  have padding : (List.replicate zeros '0').foldl (fun number c => 16 * number + (Json.hexValue? c).getD 0) 0 = 0 := by
    induction zeros with
    | zero => rfl
    | succ zeros ih =>
      rw [List.replicate_succ, List.foldl_cons]
      exact ih
  rw [hexNumber, List.foldl_append, padding]
  exact hexNumber_toDigits n

theorem requestId_injective : Function.Injective requestId := by
  intro left right same
  have chars := congrArg hexNumber (String.ofList_injective same)
  rwa [hexNumber_padded, hexNumber_padded] at chars

theorem hexDigits_plain (n : Nat) : ∀ c ∈ Nat.toDigits 16 n, c ≠ '"' ∧ c ≠ '_' := by
  have digit : ∀ m < 16, m.digitChar ≠ '"' ∧ m.digitChar ≠ '_' := by decide
  induction n using Nat.strongRecOn with
  | ind n ih =>
    by_cases small : n < 16
    · rw [Nat.toDigits_of_lt_base small]
      intro c listed
      rw [List.mem_singleton.mp listed]
      exact digit n small
    · rw [Nat.toDigits_of_base_le (by decide) (by omega)]
      intro c listed
      rcases List.mem_append.mp listed with above | last
      · exact ih (n / 16) (by omega) c above
      · rw [List.mem_singleton.mp last]
        exact digit _ (Nat.mod_lt n (by decide))

theorem requestId_plain (index : Nat) : ∀ c ∈ (requestId index).toList, c ≠ '"' ∧ c ≠ '_' := by
  intro c listed
  rw [requestId, String.toList_ofList] at listed
  rcases List.mem_append.mp listed with padding | digit
  · rw [List.eq_of_mem_replicate padding]
    decide
  · exact hexDigits_plain index c digit

theorem requestId_ne_empty (index : Nat) : requestId index ≠ "" := by
  intro empty
  have chars := congrArg String.toList empty
  rw [requestId, String.toList_ofList] at chars
  exact Nat.toDigits_ne_nil (List.append_eq_nil_iff.mp chars).2

end Identity

section Trace

variable {float : Json → FloatOf}

/-- What the loader of the trace promises of a request. -/
structure Numbered (index : Nat) (request : TraceRequest) : Prop where
  reqId : request.reqId = requestId index
  model : request.model ≠ ""
  tensorParallelSize : 1 ≤ request.tensorParallelSize
  mode : request.mode = "chat" ∨ request.mode = "completion"

theorem requireModel_ok {value : Json} {model : String} (read : requireModel value = .ok model) : model ≠ "" := by
  cases value with
  | str text =>
    by_cases empty : text = ""
    · rw [requireModel, if_neg (not_not.mpr empty)] at read
      cases read
    · rw [requireModel, if_pos empty] at read
      cases read
      exact empty
  | _ => cases read

theorem requireCount_ok {name : String} {minimum count : Nat} {value : Json}
    (read : requireCount name minimum value = .ok count) : minimum ≤ count := by
  cases value with
  | int found =>
    by_cases enough : (minimum : Int) ≤ found
    · rw [requireCount, if_pos enough] at read
      cases read
      omega
    · rw [requireCount, if_neg enough] at read
      cases read
  | _ => cases read

theorem requireMode_ok {value : Json} {mode : String} (read : requireMode value = .ok mode) :
    mode = "chat" ∨ mode = "completion" := by
  cases value with
  | str text =>
    by_cases known : text = "chat" ∨ text = "completion"
    · rw [requireMode, if_pos known] at read
      cases read
      exact known
    · rw [requireMode, if_neg known] at read
      cases read
  | _ => cases read

theorem traceRequest_numbered {fields : List (String × Json)} {index : Nat} {request : TraceRequest}
    (made : traceRequest float fields index = .ok request) : Numbered index request := by
  obtain ⟨timestamp, -, made⟩ := bind_ok made
  obtain ⟨inputLen, -, made⟩ := bind_ok made
  obtain ⟨outputLen, -, made⟩ := bind_ok made
  obtain ⟨tensorParallelSize, parallel, made⟩ := bind_ok made
  obtain ⟨model, named, made⟩ := bind_ok made
  obtain ⟨prompt, -, made⟩ := bind_ok made
  obtain ⟨mode, known, made⟩ := bind_ok made
  cases made
  exact ⟨rfl, requireModel_ok named, requireCount_ok parallel, requireMode_ok known⟩

theorem line_fields {line : Bytes} {index : Nat} {request : TraceRequest}
    (read : traceRequestFromLine float line index = .ok (some request)) :
    ∃ fields, traceRequest float fields index = .ok request := by
  unfold traceRequestFromLine at read
  split_ifs at read
  cases decoded : decodeUtf8 line with
  | none =>
    rw [decoded] at read
    cases read
  | some text =>
    rw [decoded] at read
    cases loaded : Json.loads text with
    | none =>
      simp only [loaded] at read
      cases read
    | some value =>
      simp only [loaded] at read
      cases value with
      | obj fields =>
        rw [readRow] at read
        split_ifs at read
        · cases read
        · cases made : traceRequest float fields index with
          | error failure =>
            rw [made] at read
            cases read
          | ok result =>
            rw [made] at read
            cases read
            exact ⟨fields, made⟩
      | _ => cases read

theorem line_numbered {line : Bytes} {index : Nat} {request : TraceRequest}
    (read : traceRequestFromLine float line index = .ok (some request)) : Numbered index request := by
  obtain ⟨fields, made⟩ := line_fields read
  exact traceRequest_numbered made

def NumberedAll (requests : List TraceRequest) : Prop :=
  ∀ index request, requests[index]? = some request → Numbered index request

theorem loadLine_numbered {hashed : Bool} {line : Bytes} {before after : Loading}
    (step : loadLine float hashed before line = .ok after) (held : NumberedAll before.requests) :
    NumberedAll after.requests := by
  unfold loadLine at step
  by_cases failed : before.parseError.isSome = true
  · rw [if_pos failed] at step
    cases step
    exact held
  · rw [if_neg failed] at step
    cases read : traceRequestFromLine float line before.requests.length with
    | error failure =>
      simp only [read] at step
      split_ifs at step
      cases step
      exact held
    | ok row =>
      rw [read] at step
      cases row with
      | none =>
        cases step
        exact held
      | some request =>
        cases step
        intro index other listed
        by_cases old : index < before.requests.length
        · rw [List.getElem?_append_left old] at listed
          exact held index other listed
        · rw [List.getElem?_append_right (Nat.le_of_not_lt old)] at listed
          obtain ⟨last, rfl⟩ := List.getElem?_eq_some_iff.mp listed
          have here : index = before.requests.length := by
            rw [List.length_singleton] at last
            omega
          subst here
          exact (List.getElem_singleton _).symm ▸ line_numbered read

/-- The requests of a trace are numbered in their order. -/
theorem trace_numbered {content : Bytes} {trace : List TraceRequest}
    (loaded : loadTraceRequests float (.ok content) none = .ok trace) : NumberedAll trace := by
  obtain ⟨file, opened, loaded⟩ := bind_ok loaded
  cases opened
  obtain ⟨loading, folded, loaded⟩ := bind_ok loaded
  have kept : NumberedAll loading.requests := @foldlM_kept _ _ _ (loadLine float false) (fun loading => NumberedAll loading.requests) _
    (fun line _ before after step held => loadLine_numbered step held) _ _ folded (fun _ _ none_yet => nomatch none_yet)
  cases failed : loading.parseError with
  | some failure =>
    simp only [failed] at loaded
    cases loaded
  | none =>
    simp only [failed] at loaded
    cases loaded
    exact kept

theorem numbered_distinct {requests : List TraceRequest} (numbered : NumberedAll requests) :
    (requests.map TraceRequest.reqId).Nodup := by
  rw [List.nodup_iff_injective_getElem]
  intro left right same
  simp only [List.getElem_map] at same
  have first := numbered left.1 _ (List.getElem?_eq_getElem (by simpa using left.2))
  have second := numbered right.1 _ (List.getElem?_eq_getElem (by simpa using right.2))
  rw [first.reqId, second.reqId] at same
  exact Fin.ext (requestId_injective same)

end Trace

end ExaServe.Replay
