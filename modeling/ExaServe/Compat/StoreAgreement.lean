import ExaServe.Compat.Evidence
import ExaServe.State.BindingCalls

namespace ExaServe.Compat

open Lib Plan Control State

/-- What `bind_receipt` reads of a receipt. -/
def Receipt.request (receipt : Receipt) : BindRequest where
  receiptRequirementId := receipt.receiptRequirementId
  componentId := receipt.componentId
  instanceId := receipt.instanceId
  ownerScope := receipt.ownerScope
  ownerRank := receipt.ownerRank
  nodeId := receipt.nodeId

theorem Receipt.Formed.request {receipt : Receipt} (formed : receipt.Formed) : receipt.request.Formed where
  slot := formed.slot
  component := formed.component
  instance_named := formed.instance_named
  node := formed.node
  owner := by
    have owner := formed.owner
    simp only [Receipt.request]
    cases scope : receipt.ownerScope with
    | global =>
      rw [scope] at owner
      exact owner
    | rank =>
      rw [scope] at owner
      exact owner

/-- What `time.time()` returns at each call of the store. -/
structure Clock where
  now : Nat → Number
  in_range : ∀ index, numberInRange (now index)

namespace StoreCall

def toCall (now : Number) : StoreCall → BindingCall
  | .bindReceipt receipt => .bindReceipt receipt.request now
  | .revokeSlot slot _ => .revokeSlot slot

/-- What a call does to the instances bound to the slots. -/
def effect (bound : String → Option String) : StoreCall → String → Option String
  | .bindReceipt receipt, probe => if probe = receipt.slotKey then some receipt.instanceId else bound probe
  | .revokeSlot slot _, probe => if probe = slot then none else bound probe

def Formed : StoreCall → Prop
  | .bindReceipt receipt => receipt.Formed
  | .revokeSlot _ _ => True

end StoreCall

/-- An empty store after the calls, in their order. -/
def served (config : StoreConfig) (clock : Clock) (calls : List StoreCall) : Writer :=
  calls.zipIdx.foldl (fun writer call => writer.completed config (call.1.toCall (clock.now call.2)))
    (Journal.empty config).opened

theorem served_concat (config : StoreConfig) (clock : Clock) (calls : List StoreCall) (call : StoreCall) :
    served config clock (calls ++ [call]) =
      (served config clock calls).completed config (call.toCall (clock.now calls.length)) := by
  simp [served, List.zipIdx_append]

/-- Every call returns, and the store binds what the calls say. -/
theorem served_ready (config : StoreConfig) (clock : Clock) {calls : List StoreCall}
    (formed : ∀ call ∈ calls, call.Formed) :
    Writer.Ready config (served config clock calls) ∧
      (served config clock calls).boundInstance = calls.foldl StoreCall.effect fun _ => none := by
  induction calls using List.reverseRecOn with
  | nil => exact ⟨Writer.ready_opened config, rfl⟩
  | append_singleton calls call ih =>
    obtain ⟨ready, bound⟩ := ih fun other member => formed other (List.mem_append_left _ member)
    have last := formed call (List.mem_append_right _ (List.mem_singleton.mpr rfl))
    rw [served_concat, List.foldl_append, ← bound]
    cases call with
    | bindReceipt receipt =>
      have formed_request := Receipt.Formed.request last
      obtain ⟨after, instances⟩ := ready.bindReceipt formed_request (clock.in_range calls.length)
      exact ⟨after, funext instances⟩
    | revokeSlot slot reason =>
      obtain ⟨after, instances⟩ := ready.revokeSlot slot
      exact ⟨after, funext instances⟩

theorem foldl_revokes (slots : List String) (reason : String) (bound : String → Option String) (probe : String) :
    (slots.map fun slot => StoreCall.revokeSlot slot reason).foldl StoreCall.effect bound probe =
      if probe ∈ slots then none else bound probe := by
  induction slots generalizing bound with
  | nil => simp
  | cons slot rest ih =>
    rw [List.map_cons, List.foldl_cons, ih]
    by_cases later : probe ∈ rest
    · simp [later]
    · by_cases here : probe = slot <;> simp [later, here, StoreCall.effect]

theorem foldl_binds {entries : List (String × Receipt)} (distinct : (entries.map Prod.fst).Nodup)
    (keyed : ∀ entry ∈ entries, entry.2.slotKey = entry.1) (bound : String → Option String) (probe : String) :
    (entries.map fun entry => StoreCall.bindReceipt entry.2).foldl StoreCall.effect bound probe =
      ((findEntry probe entries).map Receipt.instanceId).or (bound probe) := by
  induction entries generalizing bound with
  | nil => rfl
  | cons entry rest ih =>
    rw [List.map_cons, List.nodup_cons] at distinct
    have later := ih distinct.2 (fun other member => keyed other (List.mem_cons_of_mem _ member))
    rw [List.map_cons, List.foldl_cons, later, findEntry]
    have own := keyed entry List.mem_cons_self
    by_cases here : entry.1 = probe
    · have absent : findEntry probe rest = none := by
        rw [← Option.not_isSome_iff_eq_none, findEntry_isSome, ← here]
        exact distinct.1
      simp [here, absent, StoreCall.effect, own]
    · simp [here, Ne.symm here, StoreCall.effect, own]

namespace Ledger

/-- Revoking what a replacement drops and binding what it changes leaves exactly the
    instances of the replacement in its slots. -/
theorem foldl_replacement {before after : List (String × Receipt)} (distinct : (after.map Prod.fst).Nodup)
    (keyed : ∀ entry ∈ after, entry.2.slotKey = entry.1) {bound : String → Option String}
    (held : ∀ slot receipt, findEntry slot before = some receipt → bound slot = some receipt.instanceId)
    (probe : String) :
    (revokeCalls before after ++ bindCalls before after).foldl StoreCall.effect bound probe =
      match findEntry probe after with
      | some receipt => some receipt.instanceId
      | none => if probe ∈ before.map Prod.fst then none else bound probe := by
  let changed (entry : String × Receipt) : Bool :=
    (findEntry entry.1 before).all fun prior => prior.instanceId ≠ entry.2.instanceId
  have revokes : revokeCalls before after = ((before.map Prod.fst).filter fun slot => slot ∉ after.map Prod.fst).map
      fun slot => .revokeSlot slot "replacement snapshot removed slot" := by
    rw [revokeCalls, List.filter_map, List.map_map]
    rfl
  have binds : bindCalls before after = (after.filter changed).map fun entry => .bindReceipt entry.2 := rfl
  have bind_distinct : ((after.filter changed).map Prod.fst).Nodup :=
    distinct.sublist (List.filter_sublist.map Prod.fst)
  have bind_keyed : ∀ entry ∈ after.filter changed, entry.2.slotKey = entry.1 :=
    fun entry member => keyed entry (List.mem_filter.mp member).1
  rw [List.foldl_append, revokes, binds, foldl_binds bind_distinct bind_keyed, foldl_revokes,
    findEntry_filter_of_nodup changed probe distinct]
  cases replacement : findEntry probe after with
  | none =>
    have absent : probe ∉ after.map Prod.fst := by
      rw [← findEntry_isSome, replacement]
      simp
    simp only [List.mem_filter, absent, not_false_eq_true, decide_true, and_true, Option.filter_none, Option.map_none,
      Option.none_or]
  | some receipt =>
    have present : probe ∈ after.map Prod.fst := by
      rw [← findEntry_isSome, replacement]
      rfl
    have kept : probe ∉ (before.map Prod.fst).filter fun slot => slot ∉ after.map Prod.fst := by
      simp [List.mem_filter, present]
    rw [if_neg kept]
    cases prior : findEntry probe before with
    | none => simp [changed, prior, Option.filter]
    | some earlier =>
      by_cases same : earlier.instanceId = receipt.instanceId
      · simp [changed, prior, same, Option.filter, held probe earlier prior]
      · simp [changed, prior, same, Option.filter]

/-- An entry stands under its own slot and is fit to be bound. -/
def Bindable (slot : String) (receipt : Receipt) : Prop := receipt.slotKey = slot ∧ receipt.Formed

theorem established_bindable (context : LedgerContext) : Established context Bindable :=
  fun _ _ _ admitted => ⟨rfl, admitted.formed.2⟩

/-- The instance the ledger holds for a slot. -/
def heldInstance (ledger : Ledger) (slot : String) : Option String :=
  (ledger.bySlot.get? slot).map Receipt.instanceId

/-- The calls made so far bind exactly the instances the ledger holds. -/
def Recorded (ledger : Ledger) : Prop :=
  ∃ calls, ledger.storeCalls = some calls ∧ (∀ call ∈ calls, call.Formed) ∧
    calls.foldl StoreCall.effect (fun _ => none) = ledger.heldInstance

variable {context : LedgerContext} {ledger candidate : Ledger}

/-- An operation keeps the records when its calls do to the store what it does to the slots. -/
theorem Recorded.extend (recorded : ledger.Recorded) {after : Ledger} {more : List StoreCall}
    (called : after.storeCalls = ledger.storeCalls.map (· ++ more)) (formed : ∀ call ∈ more, call.Formed)
    (same : ∀ probe, more.foldl StoreCall.effect ledger.heldInstance probe = after.heldInstance probe) :
    after.Recorded := by
  obtain ⟨calls, made, calls_formed, bound⟩ := recorded
  refine ⟨calls ++ more, by rw [called, made]; rfl, ?_, ?_⟩
  · intro call member
    rcases List.mem_append.mp member with earlier | later
    · exact calls_formed call earlier
    · exact formed call later
  · rw [List.foldl_append, bound]
    exact funext same

theorem Recorded.bindSlot (recorded : ledger.Recorded) {receipt : Receipt} (formed : receipt.Formed) :
    (ledger.bindSlot receipt).1.Recorded := by
  rcases bindSlot_cases ledger receipt with ⟨_, _, _, _, step⟩ | ⟨_, _, _, _, step⟩ | ⟨_, step⟩
  · rw [step]
    exact recorded
  · rw [step]
    exact recorded
  · rw [step]
    have called : (ledger.bound receipt).storeCalls = ledger.storeCalls.map (· ++ [.bindReceipt receipt]) := rfl
    refine recorded.extend called (by simpa [StoreCall.Formed] using formed) ?_
    intro probe
    by_cases here : probe = receipt.slotKey
    · simp [StoreCall.effect, heldInstance, bound, here]
    · simp [StoreCall.effect, heldInstance, bound, here, Dict.get?_insert, Ne.symm here]

theorem Recorded.accept (recorded : ledger.Recorded) (submission : Submission) (raw : RawReceipt) :
    (ledger.accept context submission raw).1.Recorded := by
  rcases accept_cases context ledger submission raw with ⟨_, step⟩ | ⟨_, _, step⟩ | ⟨receipt, admitted, step⟩
  · rw [step]
    exact recorded
  · rw [step]
    exact recorded
  · rw [step]
    exact recorded.bindSlot admitted.formed.2

theorem Recorded.supersedeInstance (recorded : ledger.Recorded) (slot instanceId : String) :
    (ledger.supersedeInstance slot instanceId).Recorded := by
  unfold Ledger.supersedeInstance
  split
  · exact recorded
  · split_ifs
    · have called : (ledger.callStore (.revokeSlot slot "superseded")).storeCalls =
          ledger.storeCalls.map (· ++ [.revokeSlot slot "superseded"]) := rfl
      refine recorded.extend called (by simp [StoreCall.Formed]) ?_
      intro probe
      by_cases here : probe = slot <;> simp [StoreCall.effect, heldInstance, Dict.get?_erase, here]
    · exact recorded

theorem Recorded.dropRank (recorded : ledger.Recorded) (rank : Int) : (ledger.dropRank rank).Recorded := by
  have called : (ledger.dropRank rank).storeCalls = ledger.storeCalls.map
      (· ++ ((ledger.rankSlots rank).map Prod.fst).map fun slot => .revokeSlot slot "rank lease lost") := by
    rw [dropRank_eq, List.map_map]
    rfl
  have formed : ∀ call ∈ ((ledger.rankSlots rank).map Prod.fst).map
      (fun slot => StoreCall.revokeSlot slot "rank lease lost"), call.Formed := by
    intro call member
    obtain ⟨slot, _, rfl⟩ := List.mem_map.mp member
    trivial
  refine recorded.extend called formed ?_
  intro probe
  rw [foldl_revokes, heldInstance, heldInstance, get?_dropRank]
  have member := mem_rankSlots_iff ledger rank probe
  cases found : ledger.bySlot.get? probe with
  | none => simp
  | some receipt =>
    rw [found] at member
    cases owned : ownedBy rank receipt <;> simp_all [Option.filter]

/-- A replacement of the given slots, with the calls that go with it. -/
theorem Recorded.replace (recorded : ledger.Recorded) {after : Ledger} {before kept : List (String × Receipt)}
    (called : after.storeCalls = ledger.storeCalls.map (· ++ (revokeCalls before kept ++ bindCalls before kept)))
    (distinct : (kept.map Prod.fst).Nodup) (bindable : ∀ entry ∈ kept, Bindable entry.1 entry.2)
    (inside : ∀ slot receipt, findEntry slot before = some receipt → ledger.bySlot.get? slot = some receipt)
    (slots : ∀ probe, after.bySlot.get? probe =
      (findEntry probe kept).or (if probe ∈ before.map Prod.fst then none else ledger.bySlot.get? probe)) :
    after.Recorded := by
  refine recorded.extend called ?_ ?_
  · intro call member
    rcases List.mem_append.mp member with revoked | bound
    · obtain ⟨entry, _, rfl⟩ := List.mem_map.mp revoked
      trivial
    · obtain ⟨entry, chosen, rfl⟩ := List.mem_map.mp bound
      exact (bindable entry (List.mem_filter.mp chosen).1).2
  · intro probe
    have held : ∀ slot receipt, findEntry slot before = some receipt →
        ledger.heldInstance slot = some receipt.instanceId := by
      intro slot receipt found
      rw [heldInstance, inside slot receipt found]
      rfl
    have replaced : after.heldInstance probe = _ := congrArg (Option.map Receipt.instanceId) (slots probe)
    rw [foldl_replacement distinct (fun entry member => (bindable entry member).1) held, replaced]
    cases findEntry probe kept with
    | some receipt => rfl
    | none =>
      split_ifs
      · rfl
      · rfl

theorem Recorded.commitStaged (recorded : ledger.Recorded) (bindable : candidate.Entries Bindable) :
    (ledger.commitStaged candidate).Recorded := by
  have called : (ledger.commitStaged candidate).storeCalls = ledger.storeCalls.map
      (· ++ (revokeCalls ledger.bySlot.entries candidate.bySlot.entries ++
        bindCalls ledger.bySlot.entries candidate.bySlot.entries)) := by
    simp only [Ledger.commitStaged, List.append_assoc]
  refine recorded.replace called candidate.bySlot.nodup ?_ (fun _ _ found => found) ?_
  · intro entry member
    exact bindable entry.1 entry.2 ((Dict.get?_eq_some_iff _ _ _).mpr member)
  · intro probe
    have missing := ledger.bySlot.get?_eq_none_iff probe
    have whole : (if probe ∈ ledger.bySlot.entries.map Prod.fst then none else ledger.bySlot.get? probe) = none := by
      split_ifs with member
      · rfl
      · exact missing.mpr member
    rw [whole, Option.or_none]
    rfl

theorem Recorded.commitRankSnapshot (recorded : ledger.Recorded) (bindable : candidate.Entries Bindable)
    (rank : Int) : (ledger.commitRankSnapshot rank candidate).Recorded := by
  have called : (ledger.commitRankSnapshot rank candidate).storeCalls = ledger.storeCalls.map
      (· ++ (revokeCalls (ledger.rankSlots rank) (candidate.rankSlots rank) ++
        bindCalls (ledger.rankSlots rank) (candidate.rankSlots rank))) := by
    simp only [Ledger.commitRankSnapshot, List.append_assoc]
  refine recorded.replace called (rankSlots_nodup candidate rank) ?_ ?_ ?_
  · intro entry member
    exact bindable entry.1 entry.2 ((Dict.get?_eq_some_iff _ _ _).mpr (List.mem_filter.mp member).1)
  · intro slot receipt found
    rw [find_rankSlots] at found
    exact (Option.filter_eq_some_iff.mp found).1
  · intro probe
    rw [Ledger.commitRankSnapshot, Dict.get?_foldl_insert_entries (rankSlots_nodup candidate rank),
      Dict.get?_foldl_erase]

namespace Staging

def Recorded (state : Staging) : Prop := state.ledger.Recorded ∧ state.Entries Bindable

theorem Recorded.step {state : Staging} (recorded : state.Recorded) (op : Op) :
    (state.step context op).Recorded := by
  refine ⟨?_, recorded.2.step (established_bindable context) op⟩
  cases op with
  | accept submission raw => exact recorded.1.accept submission raw
  | supersedeInstance slot instanceId => exact recorded.1.supersedeInstance slot instanceId
  | dropRank rank => exact recorded.1.dropRank rank
  | stageRankSnapshot rank receipts sessionNode =>
    simp only [Staging.step]
    split
    · exact recorded.1
    · exact recorded.1
  | commitRankSnapshot rank index =>
    simp only [Staging.step]
    split
    · rename_i candidate named
      exact recorded.1.commitRankSnapshot (recorded.2.2 candidate (List.mem_of_getElem? named)) rank
    · exact recorded.1
  | commitStaged index =>
    simp only [Staging.step]
    split
    · rename_i candidate named
      exact recorded.1.commitStaged (recorded.2.2 candidate (List.mem_of_getElem? named))
    · exact recorded.1

theorem Recorded.init : (init true).Recorded :=
  ⟨⟨[], rfl, by simp, rfl⟩, Entries.init Bindable true⟩

end Staging

/-- After any operations on a ledger and a store that started empty, every call of the
    store has returned and both name the same instance in every slot. -/
theorem store_agrees_after_run (context : LedgerContext) (config : StoreConfig) (clock : Clock) (ops : List Op) :
    let ledger := (run (Staging.step context) (Staging.init true) ops).ledger
    ∃ calls, ledger.storeCalls = some calls ∧ (served config clock calls).todo = [] ∧
      (served config clock calls).raised = none ∧
      ∀ slot, (ledger.bySlot.get? slot).map Receipt.instanceId =
        ((served config clock calls).store.current.get? slot).map ComponentInstanceBinding.instanceId := by
  intro ledger
  have recorded : (run (Staging.step context) (Staging.init true) ops).Recorded :=
    run_invariant (fun _ op kept => kept.step op) Staging.Recorded.init ops
  obtain ⟨calls, made, formed, bound⟩ := recorded.1
  obtain ⟨ready, instances⟩ := served_ready config clock formed
  refine ⟨calls, made, ready.idle, ready.clean, ?_⟩
  intro slot
  have same := congrFun (instances.trans bound) slot
  exact same.symm

end Ledger

end ExaServe.Compat
