import Mathlib.Tactic.NormNum
import ExaServe.Serving.RequestValidation

namespace ExaServe.Serving

open Lib Control

section Outcomes

variable {α β : Type}

/-- The exception the handlers turn into a 400. -/
def Refused (x : Except Raised α) : Prop := ∃ message, x = .error (.other "RequestValidationError" message)

/-- Refused, or passed with a good value; no other exception. -/
def Safe (x : Except Raised α) (good : α → Prop) : Prop := Refused x ∨ ∃ value, x = .ok value ∧ good value

def Passes (x : Except Raised α) : Prop := ∃ value, x = .ok value

/-- No exception but a refusal. -/
def Settled (x : Except Raised α) : Prop := Refused x ∨ Passes x

theorem settled_ok (value : α) : Settled (.ok value : Except Raised α) := .inr ⟨value, rfl⟩

theorem settled_invalid (message : String) : Settled (invalid message : Except Raised α) := .inl ⟨message, rfl⟩

theorem settled_ite {fact : Prop} [Decidable fact] {one other : Except Raised α} (first : Settled one)
    (second : Settled other) : Settled (if fact then one else other) := by
  split
  · exact first
  · exact second

theorem safe_ok {value : α} {good : α → Prop} : Safe (.ok value) good ↔ good value := by
  constructor
  · rintro (⟨message, refused⟩ | ⟨other, same, holds⟩)
    · cases refused
    · cases same
      exact holds
  · intro holds
    exact .inr ⟨value, rfl, holds⟩

/-- After a check that does not raise anything else, what follows has to be safe. -/
theorem safe_bind {x : Except Raised α} (settled : Settled x) {f : α → Except Raised β} {good : β → Prop} :
    Safe (x >>= f) good ↔ ∀ value, x = .ok value → Safe (f value) good := by
  rcases settled with ⟨message, rfl⟩ | ⟨value, rfl⟩
  · exact iff_of_true (.inl ⟨message, rfl⟩) fun value passed => nomatch passed
  · rw [ok_bind rfl]
    constructor
    · rintro safe other ⟨⟩
      exact safe
    · intro safe
      exact safe value rfl

theorem settled_bind {x : Except Raised α} (first : Settled x) {f : α → Except Raised β}
    (second : ∀ value, Settled (f value)) : Settled (x >>= f) := by
  rcases first with ⟨message, rfl⟩ | ⟨value, rfl⟩
  · exact .inl ⟨message, rfl⟩
  · exact second value

variable {fields : Fields} {key : String} {check : Value → Except Raised α}

theorem optional_absent (absent : get? key fields = none) : optional fields key check = .ok none := by
  rw [optional, absent]

theorem optional_present {value : Value} (given : get? key fields = some value) :
    optional fields key check = (check value).map some := by
  rw [optional, given]

theorem settled_optional (each : ∀ value, get? key fields = some value → Settled (check value)) :
    Settled (optional fields key check) := by
  cases given : get? key fields with
  | none =>
    rw [optional_absent given]
    exact settled_ok none
  | some value =>
    rw [optional_present given]
    rcases each value given with ⟨message, refused⟩ | ⟨result, passed⟩
    · exact .inl ⟨message, by rw [refused]; rfl⟩
    · exact .inr ⟨some result, by rw [passed]; rfl⟩

theorem optional_some {value : α} (passed : optional fields key check = .ok (some value)) :
    ∃ given, get? key fields = some given ∧ check given = .ok value := by
  cases given : get? key fields with
  | none =>
    rw [optional_absent given] at passed
    cases passed
  | some field =>
    rw [optional_present given] at passed
    cases checked : check field with
    | error failure =>
      rw [checked] at passed
      cases passed
    | ok result =>
      rw [checked] at passed
      cases passed
      exact ⟨field, rfl, checked⟩

theorem optional_none : optional fields key check = .ok none ↔ get? key fields = none := by
  constructor
  · intro passed
    cases given : get? key fields with
    | none => rfl
    | some field =>
      rw [optional_present given] at passed
      cases checked : check field with
      | error failure =>
        rw [checked] at passed
        cases passed
      | ok result =>
        rw [checked] at passed
        cases passed
  · exact optional_absent

end Outcomes

section Checks

variable {repr : Value → String} {shown : ℚ → String} {fields : Fields} {key : String}

theorem settled_inBounds {lo hi value : ℚ} : Settled (inBounds shown key lo hi value) :=
  settled_ite (settled_ok _) (settled_invalid _)

theorem settled_reqInt {lo hi : Int} (value : Value) : Settled (reqInt repr key lo hi value) := by
  unfold reqInt
  split
  · exact settled_ite (settled_ok _) (settled_invalid _)
  · exact settled_invalid _

theorem settled_reqStop (value : Value) : Settled (reqStop value) := by
  unfold reqStop
  split
  · exact settled_ok _
  · exact settled_ok _
  · exact settled_ite (settled_ok _) (settled_invalid _)
  · exact settled_invalid _

theorem settled_strictFlag {default : Bool} : Settled (strictFlag repr fields key default) := by
  unfold strictFlag
  split
  · exact settled_ok _
  · exact settled_ok _
  · exact settled_ok _
  · exact settled_ite (settled_ok _) (settled_ite (settled_ok _) (settled_invalid _))
  · exact settled_invalid _

theorem settled_checkOrder {least most : Option Int} : Settled (checkOrder least most) := by
  unfold checkOrder
  split
  · exact settled_ite (settled_invalid _) (settled_ok _)
  · exact settled_ok _

theorem settled_validateModelField {allowed : List String} : Settled (validateModelField repr fields allowed) := by
  unfold validateModelField
  split
  · exact settled_ok _
  · exact settled_ok _
  · exact settled_ite (settled_ok _) (settled_invalid _)
  · exact settled_invalid _

theorem settled_validateMessage {index : Nat} (message : Value) : Settled (validateMessage index message) := by
  unfold validateMessage
  split
  · split
    · exact settled_ite (settled_invalid _) (settled_ite (settled_ok _) (settled_invalid _))
    · exact settled_invalid _
  · exact settled_invalid _

theorem settled_validateMessagesFrom {index : Nat} (messages : List Value) :
    Settled (validateMessagesFrom index messages) := by
  induction messages generalizing index with
  | nil => exact settled_ok ()
  | cons message rest ih => exact settled_bind (settled_validateMessage message) fun _ => ih

theorem settled_validateMessages {messages : Option Value} : Settled (validateMessages messages) := by
  unfold validateMessages
  split
  · exact settled_validateMessagesFrom _
  · exact settled_invalid _

theorem settled_validateChatOptions : Settled (validateChatOptions fields) := by
  apply settled_bind
  · unfold validateChatTemplate
    split
    · exact settled_ok _
    · exact settled_ok _
    · exact settled_ok _
    · exact settled_invalid _
  · intro _
    unfold validateChatTemplateKwargs
    split
    · exact settled_ok _
    · exact settled_ok _
    · exact settled_ite (settled_ok _) (settled_invalid _)
    · exact settled_invalid _

theorem settled_validatePrompt {prompt : Option Value} : Settled (validatePrompt prompt) := by
  unfold validatePrompt
  split
  · exact settled_ok _
  · exact settled_ok _
  · exact settled_invalid _

end Checks

section Floats

variable {repr : Value → String} {shown : ℚ → String} {fields : Fields} {key : String} {lo hi : ℚ}

/-- The integers `float` cannot convert. -/
def TooBig : Option Value → Prop
  | some (.int value) => doubleReach ≤ value.natAbs
  | _ => False

theorem floatOfInt_eq {value : Int} (fits : ¬ doubleReach ≤ value.natAbs) :
    floatOfInt value = .ok (if value < 0 then -(roundNat value.natAbs : ℚ) else roundNat value.natAbs) :=
  if_neg fun reached => fits ((roundNat_overflow _).mp reached)

theorem floatOfInt_overflow {value : Int} (big : doubleReach ≤ value.natAbs) :
    floatOfInt value = .error (.other "OverflowError" "int too large to convert to float") :=
  if_pos ((roundNat_overflow _).mpr big)

theorem settled_reqFloat {value : Value} (fits : ¬ TooBig (some value)) :
    Settled (reqFloat repr shown key lo hi value) := by
  unfold reqFloat
  split
  · rw [floatOfInt_eq fits, ok_bind rfl]
    exact settled_inBounds
  · exact settled_inBounds
  · exact settled_invalid _
  · exact settled_invalid _

/-- An optional number: an integer that `float` cannot convert is the one thing that is not
    refused. -/
theorem safe_bind_float {α : Type} {f : Option ℚ → Except Raised α} {good : α → Prop} :
    Safe (optional fields key (reqFloat repr shown key lo hi) >>= f) good ↔
      ¬ TooBig (get? key fields) ∧
        ∀ value, optional fields key (reqFloat repr shown key lo hi) = .ok value → Safe (f value) good := by
  by_cases big : TooBig (get? key fields)
  · apply iff_of_false
    · obtain ⟨value, given, large⟩ : ∃ value, get? key fields = some (.int value) ∧
          doubleReach ≤ value.natAbs := by
        unfold TooBig at big
        split at big
        · rename_i value given
          exact ⟨value, given, big⟩
        · exact absurd big id
      have raised : optional fields key (reqFloat repr shown key lo hi) =
          .error (.other "OverflowError" "int too large to convert to float") := by
        rw [optional_present given]
        simp only [reqFloat]
        rw [floatOfInt_overflow large]
        rfl
      rw [raised]
      rintro (⟨message, refused⟩ | ⟨value, passed, -⟩)
      · exact absurd (Raised.other.inj (Except.error.inj refused)).1 (by decide)
      · cases passed
    · exact fun both => both.1 big
  · rw [and_iff_right big]
    exact safe_bind (settled_optional fun value given => settled_reqFloat (given ▸ big))

theorem inBounds_ok {value result : ℚ} (passed : inBounds shown key lo hi value = .ok result) :
    lo ≤ result ∧ result ≤ hi := by
  unfold inBounds at passed
  split at passed
  · cases passed
    assumption
  · cases passed

theorem reqFloat_ok {value : Value} {result : ℚ} (passed : reqFloat repr shown key lo hi value = .ok result) :
    lo ≤ result ∧ result ≤ hi := by
  unfold reqFloat at passed
  split at passed
  · obtain ⟨converted, -, bounded⟩ := bind_ok passed
    exact inBounds_ok bounded
  · exact inBounds_ok passed
  · cases passed
  · cases passed

theorem reqInt_ok {least most : Int} {value : Value} {result : Int}
    (passed : reqInt repr key least most value = .ok result) :
    value = .int result ∧ least ≤ result ∧ result ≤ most := by
  unfold reqInt at passed
  split at passed
  · split at passed
    · cases passed
      exact ⟨rfl, by assumption⟩
    · cases passed
  · cases passed

end Floats

section Sampling

variable (repr : Value → String) (shown : ℚ → String) (fields : Fields)

def EngineParams.InRange (params : EngineParams) : Prop :=
  (0 ≤ params.temperature ∧ params.temperature ≤ 2) ∧ (∀ topP, params.topP = some topP → 0 ≤ topP ∧ topP ≤ 1) ∧
    (1 ≤ params.maxTokens ∧ params.maxTokens ≤ 128000) ∧
    ∀ least, params.minTokens = some least → 0 ≤ least ∧ least ≤ params.maxTokens

/-- The parameters both engines are handed. -/
def Sampling.InRange (sampling : Sampling) : Prop := (vllmParams sampling).InRange ∧ (toSglangSp sampling).InRange

def temperatureOf : Except Raised (Option ℚ) := optional fields "temperature" (reqFloat repr shown "temperature" 0 2)

def topPOf : Except Raised (Option ℚ) := optional fields "top_p" (reqFloat repr shown "top_p" 0 1)

def minTokensOf : Except Raised (Option Int) :=
  optional fields "min_tokens" (reqInt repr "min_tokens" 0 maxTokensCeiling)

/-- No number of the sampling fields is too big to be converted where its conversion is
    reached, and `max_tokens` is given or `min_tokens` at most its default, unless another
    field of the body is refused. -/
def OrderlySampling (others : Prop) : Prop :=
  ¬ TooBig (get? "temperature" fields) ∧
    (Passes (temperatureOf repr shown fields) → ¬ TooBig (get? "top_p" fields)) ∧
    (Passes (temperatureOf repr shown fields) → Passes (topPOf repr shown fields) →
      Passes (minTokensOf repr fields) → Passes (optional fields "stop" reqStop) →
      Passes (strictFlag repr fields "ignore_eos" false) → others → get? "max_tokens" fields = none →
      ∀ least, get? "min_tokens" fields = some (.int least) → least ≤ 1024)

variable {repr shown fields} {β : Type} {f : Sampling → Except Raised β} {good : β → Prop}

theorem safe_parseSampling : Safe (parseSampling repr shown fields >>= f) good ↔
    ¬ TooBig (get? "temperature" fields) ∧ ∀ temperature, temperatureOf repr shown fields = .ok temperature →
    ¬ TooBig (get? "top_p" fields) ∧ ∀ topP, topPOf repr shown fields = .ok topP →
    ∀ maxTokens, optional fields "max_tokens" (reqInt repr "max_tokens" 1 maxTokensCeiling) = .ok maxTokens →
    ∀ minTokens, minTokensOf repr fields = .ok minTokens → ∀ done, checkOrder minTokens maxTokens = .ok done →
    ∀ stop, optional fields "stop" reqStop = .ok stop →
    ∀ ignoreEos, strictFlag repr fields "ignore_eos" false = .ok ignoreEos →
      Safe (f ⟨temperature.getD (7 / 10), topP, maxTokens.getD 1024, minTokens, stop, ignoreEos⟩) good := by
  rw [parseSampling]
  simp only [bind_assoc]
  simp only [safe_bind_float, safe_bind (settled_optional fun value _ => settled_reqInt value),
    safe_bind settled_checkOrder, safe_bind (settled_optional fun value _ => settled_reqStop value),
    safe_bind settled_strictFlag, ok_bind rfl]
  rfl

/-- Parameters whose fields passed their checks are in range as soon as the bounds the engine
    gets are in order. -/
theorem inRange_iff {temperature topP : Option ℚ} {maxTokens minTokens : Option Int} {stop : Option Value}
    {ignoreEos : Bool} (warm : temperatureOf repr shown fields = .ok temperature)
    (nucleus : topPOf repr shown fields = .ok topP)
    (most : optional fields "max_tokens" (reqInt repr "max_tokens" 1 maxTokensCeiling) = .ok maxTokens)
    (least : minTokensOf repr fields = .ok minTokens) (ordered : checkOrder minTokens maxTokens = .ok ()) :
    (Sampling.InRange ⟨temperature.getD (7 / 10), topP, maxTokens.getD 1024, minTokens, stop, ignoreEos⟩) ↔
      (maxTokens = none → ∀ bound, minTokens = some bound → bound ≤ 1024) := by
  have temperature_bounds : 0 ≤ temperature.getD (7 / 10) ∧ temperature.getD (7 / 10) ≤ 2 := by
    cases temperature with
    | none =>
      rw [Option.getD_none]
      constructor
      all_goals norm_num
    | some value =>
      obtain ⟨given, -, checked⟩ := optional_some warm
      exact reqFloat_ok checked
  have topP_bounds : ∀ value, topP = some value → 0 ≤ value ∧ value ≤ 1 := by
    rintro value rfl
    obtain ⟨given, -, checked⟩ := optional_some nucleus
    exact reqFloat_ok checked
  have max_bounds : 1 ≤ maxTokens.getD 1024 ∧ maxTokens.getD 1024 ≤ 128000 := by
    cases maxTokens with
    | none => decide
    | some value =>
      obtain ⟨given, -, checked⟩ := optional_some most
      exact (reqInt_ok checked).2
  have min_bound : ∀ bound, minTokens = some bound → 0 ≤ bound := by
    rintro bound rfl
    obtain ⟨given, -, checked⟩ := optional_some least
    exact (reqInt_ok checked).2.1
  have order : (∀ bound, minTokens = some bound → bound ≤ maxTokens.getD 1024) ↔
      (maxTokens = none → ∀ bound, minTokens = some bound → bound ≤ 1024) := by
    cases maxTokens with
    | none => simp
    | some limit =>
      refine iff_of_true ?_ fun absent => nomatch absent
      rintro bound rfl
      unfold checkOrder at ordered
      simp only at ordered
      split at ordered
      · cases ordered
      · simpa using ‹¬ limit < bound›
  constructor
  · intro range
    exact order.mp fun bound given => (range.1.2.2.2 bound given).2
  · intro bounded
    have both := fun bound given => And.intro (min_bound bound given) (order.mpr bounded bound given)
    exact ⟨⟨temperature_bounds, topP_bounds, max_bounds, both⟩, temperature_bounds, topP_bounds, max_bounds, both⟩

/-- A request whose other checks raise nothing but refusals. -/
theorem safe_request {others : Prop} {sampling : β → Sampling} (passed : others → ∀ s, ∃ value, f s = .ok value)
    (settled : ∀ s, Settled (f s)) (kept : ∀ s value, f s = .ok value → others ∧ sampling value = s) :
    Safe (parseSampling repr shown fields >>= f) (fun value => (sampling value).InRange) ↔
      OrderlySampling repr shown fields others := by
  have tail : ∀ s, Safe (f s) (fun value => (sampling value).InRange) ↔ (others → s.InRange) := by
    intro s
    constructor
    · rintro safe holds
      obtain ⟨value, done⟩ := passed holds s
      rw [done, safe_ok, (kept s value done).2] at safe
      exact safe
    · intro range
      rcases settled s with refused | ⟨value, done⟩
      · exact .inl refused
      · have same := kept s value done
        refine .inr ⟨value, done, ?_⟩
        change (sampling value).InRange
        rw [same.2]
        exact range same.1
  rw [safe_parseSampling, OrderlySampling]
  apply and_congr_right
  intro _
  constructor
  · intro safe
    refine ⟨fun ⟨temperature, warm⟩ => (safe temperature warm).1, ?_⟩
    rintro ⟨temperature, warm⟩ ⟨topP, nucleus⟩ ⟨minTokens, least⟩ ⟨stop, stops⟩ ⟨ignoreEos, flag⟩ holds absent
      bound given
    have most := @optional_absent _ fields "max_tokens" (reqInt repr "max_tokens" 1 maxTokensCeiling) absent
    have ordered : checkOrder minTokens none = .ok () := by
      cases minTokens
      all_goals rfl
    have range := (tail _).mp ((safe temperature warm).2 topP nucleus none most minTokens least () ordered stop stops
      ignoreEos flag) holds
    cases minTokens with
    | none => rw [optional_none.mp least] at given; cases given
    | some value =>
      obtain ⟨found, shown_, checked⟩ := optional_some least
      rw [given] at shown_
      obtain rfl := Option.some.inj shown_
      obtain rfl := Value.int.inj (reqInt_ok checked).1
      exact (inRange_iff warm nucleus most least ordered).mp range rfl bound rfl
  · rintro ⟨small, orderly⟩ temperature warm
    refine ⟨small ⟨temperature, warm⟩, ?_⟩
    intro topP nucleus maxTokens most minTokens least done ordered stop stops ignoreEos flag
    apply (tail _).mpr
    intro holds
    apply (inRange_iff warm nucleus most least ordered).mpr
    rintro rfl bound rfl
    obtain ⟨found, given, checked⟩ := optional_some least
    rw [(reqInt_ok checked).1] at given
    exact orderly ⟨temperature, warm⟩ ⟨topP, nucleus⟩ ⟨some bound, least⟩ ⟨stop, stops⟩ ⟨ignoreEos, flag⟩ holds
      (optional_none.mp most) bound given

end Sampling

section Requests

variable (repr : Value → String) (shown : ℚ → String) (served : List String)

/-- Where the checks before the sampling fields pass, these are orderly. -/
def OrderlyChat (body : Value) : Prop :=
  ∀ fields, body = .dict fields → Passes (validateModelField repr fields served) →
    Passes (validateMessages (get? "messages" fields)) → Passes (validateChatOptions fields) →
    OrderlySampling repr shown fields (Passes (strictFlag repr fields "stream" false) ∧
      Passes (strictFlag repr fields "add_generation_prompt" true) ∧
      Passes (strictFlag repr fields "continue_final_message" false))

def OrderlyCompletion (body : Value) : Prop :=
  ∀ fields, body = .dict fields → Passes (validateModelField repr fields served) →
    OrderlySampling repr shown fields (Passes (strictFlag repr fields "stream" false) ∧
      Passes (validatePrompt (get? "prompt" fields)))

variable {repr shown served}

theorem requireObjectBody_ok {body : Value} {fields : Fields} :
    requireObjectBody body = .ok fields ↔ body = .dict fields := by
  unfold requireObjectBody
  split
  · rename_i found
    constructor
    · intro same
      rw [Except.ok.inj same]
    · intro same
      rw [Value.dict.inj same]
  · rename_i other
    exact iff_of_false (fun refused => nomatch refused) fun same => other fields same

theorem settled_requireObjectBody (body : Value) : Settled (requireObjectBody body) := by
  unfold requireObjectBody
  split
  · exact settled_ok _
  · exact settled_invalid _

/-- A check before the others counts only where it passes. -/
theorem safe_check {α : Type} {check : Except Raised Unit} (settled : Settled check) {next : Except Raised α}
    {good : α → Prop} : Safe (check >>= fun _ => next) good ↔ (Passes check → Safe next good) := by
  rw [safe_bind settled]
  exact ⟨fun safe ⟨done, passed⟩ => safe done passed, fun safe done passed => safe ⟨done, passed⟩⟩

theorem chat_safe_iff {body : Value} :
    Safe (chatRequest repr shown served body) (fun request => request.sampling.InRange) ↔
      OrderlyChat repr shown served body := by
  rw [chatRequest, safe_bind (settled_requireObjectBody body)]
  apply forall_congr'
  intro fields
  rw [requireObjectBody_ok, safe_check settled_validateModelField, safe_check settled_validateMessages,
    safe_check settled_validateChatOptions]
  apply imp_congr_right
  intro _
  apply imp_congr_right
  intro _
  apply imp_congr_right
  intro _
  apply imp_congr_right
  intro _
  apply safe_request
  · rintro ⟨⟨stream, one⟩, ⟨add, two⟩, ⟨finish, three⟩⟩ sampling
    exact ⟨_, by rw [ok_bind one, ok_bind two, ok_bind three]⟩
  · intro sampling
    exact settled_bind settled_strictFlag fun _ => settled_bind settled_strictFlag fun _ =>
      settled_bind settled_strictFlag fun _ => settled_ok _
  · intro sampling request done
    obtain ⟨stream, one, done⟩ := bind_ok done
    obtain ⟨add, two, done⟩ := bind_ok done
    obtain ⟨finish, three, done⟩ := bind_ok done
    cases done
    exact ⟨⟨⟨stream, one⟩, ⟨add, two⟩, ⟨finish, three⟩⟩, rfl⟩

theorem completion_safe_iff {body : Value} :
    Safe (completionRequest repr shown served body) (fun request => request.sampling.InRange) ↔
      OrderlyCompletion repr shown served body := by
  rw [completionRequest, safe_bind (settled_requireObjectBody body)]
  apply forall_congr'
  intro fields
  rw [requireObjectBody_ok, safe_check settled_validateModelField]
  apply imp_congr_right
  intro _
  apply imp_congr_right
  intro _
  apply safe_request
  · rintro ⟨⟨stream, one⟩, ⟨prompt, two⟩⟩ sampling
    exact ⟨_, by rw [ok_bind one, ok_bind two]⟩
  · intro sampling
    exact settled_bind settled_strictFlag fun _ => settled_bind settled_validatePrompt fun _ => settled_ok _
  · intro sampling request done
    obtain ⟨stream, one, done⟩ := bind_ok done
    obtain ⟨prompt, two, done⟩ := bind_ok done
    cases done
    exact ⟨⟨⟨stream, one⟩, ⟨prompt, two⟩⟩, rfl⟩

theorem requireAtLeast_ok {name : String} {minimum value : Int} {done : Unit}
    (passed : requireAtLeast repr name minimum value = .ok done) : minimum ≤ value := by
  unfold requireAtLeast at passed
  split at passed
  · assumption
  · cases passed

/-- A request the context check lets through fits the model. -/
theorem contextPreflight_fits {counted : Except Raised Int} {sampling : Sampling} {maxModelLen : Int}
    {promptParam : String} (fits : contextPreflight repr counted sampling maxModelLen promptParam = .fits) :
    ∃ promptTokens, counted = .ok promptTokens ∧ 0 ≤ promptTokens ∧
      promptTokens + sampling.maxTokens ≤ maxModelLen := by
  unfold contextPreflight at fits
  simp only at fits
  split at fits
  · cases fits
  · rename_i promptTokens checked
    obtain ⟨tokens, count, checked⟩ := bind_ok checked
    obtain ⟨_, natural, checked⟩ := bind_ok checked
    obtain ⟨_, -, checked⟩ := bind_ok checked
    obtain ⟨_, -, checked⟩ := bind_ok checked
    split at checked
    · cases checked
    · cases checked
      split at fits
      · cases fits
      · exact ⟨_, count, requireAtLeast_ok natural, by omega⟩

/-- Both routes refuse a body or hand the engine parameters in range exactly for the orderly
    bodies; the context check holds for all. -/
theorem request_validation_iff (repr : Value → String) (shown : ℚ → String) (served : List String) :
    (∀ body, Safe (chatRequest repr shown served body) (fun request => request.sampling.InRange) ↔
      OrderlyChat repr shown served body) ∧
    (∀ body, Safe (completionRequest repr shown served body) (fun request => request.sampling.InRange) ↔
      OrderlyCompletion repr shown served body) ∧
    ∀ counted sampling maxModelLen promptParam,
      contextPreflight repr counted sampling maxModelLen promptParam = .fits →
        ∃ promptTokens, counted = .ok promptTokens ∧ 0 ≤ promptTokens ∧
          promptTokens + sampling.maxTokens ≤ maxModelLen :=
  ⟨fun _ => chat_safe_iff, fun _ => completion_safe_iff, fun _ _ _ _ fits => contextPreflight_fits fits⟩

def plainBody : Value :=
  .ofFields [("prompt", .str "hi"), ("temperature", .int 1), ("max_tokens", .int 16), ("min_tokens", .int 2)]

theorem plain_body_safe :
    Safe (completionRequest (fun _ => "") (fun _ => "") [] plainBody) (fun request => request.sampling.InRange) := by
  apply ((request_validation_iff (fun _ => "") (fun _ => "") []).2.1 plainBody).mpr
  intro fields same _
  rw [← Value.dict.inj same]
  refine ⟨?_, fun _ => ?_, ?_⟩
  · exact not_overflow (show (1 : Int).natAbs < 2 ^ 53 by decide)
  · simp [TooBig, get?]
  · intro _ _ _ _ _ _ absent
    simp [get?] at absent

/-- An exponent-free integer of 310 digits escapes as an OverflowError, and a `min_tokens` above
    the default of an absent `max_tokens` reaches the engine. -/
theorem request_validation_fails :
    ¬ Safe (completionRequest (fun _ => "") (fun _ => "") [] (.ofFields [("prompt", .str "hi"),
      ("temperature", .int (10 ^ 309))])) (fun request => request.sampling.InRange) ∧
    ¬ Safe (chatRequest (fun _ => "") (fun _ => "") [] (.ofFields
      [("messages", .list [.ofFields [("role", .str "user"), ("content", .str "hi")]]), ("min_tokens", .int 2000)]))
      (fun request => request.sampling.InRange) := by
  constructor
  · rw [completion_safe_iff]
    intro orderly
    have big : doubleReach ≤ (10 ^ 309 : Int).natAbs := by decide +kernel
    exact (orderly _ rfl ⟨(), rfl⟩).1 big
  · rw [chat_safe_iff]
    intro orderly
    have bounded := (orderly _ rfl ⟨(), rfl⟩ ⟨(), rfl⟩ ⟨(), rfl⟩).2.2 ⟨none, rfl⟩ ⟨none, rfl⟩ ⟨some 2000, rfl⟩
      ⟨none, rfl⟩ ⟨false, rfl⟩ ⟨⟨false, rfl⟩, ⟨true, rfl⟩, ⟨false, rfl⟩⟩ rfl 2000 rfl
    exact absurd bounded (by decide)

end Requests

end ExaServe.Serving
