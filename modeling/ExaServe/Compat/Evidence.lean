import ExaServe.Compat.Slots
import Mathlib.Data.List.Dedup

namespace ExaServe.Compat

open Lib Plan Control

/-- The receipt names the requirement's slot and agrees with it. -/
structure ReceiptRequirement.Fits (requirement : ReceiptRequirement) (receipt : Receipt) : Prop where
  slot : requirement.receiptRequirementId = receipt.receiptRequirementId
  role : requirement.role = receipt.role
  scope : requirement.ownerScope = receipt.ownerScope
  component : requirement.componentSlot = receipt.componentId
  attestation : requirement.attestationType = receipt.attestationType

/-- A RANK receipt comes from the slot's planned rank on the node bound to it, a
    GLOBAL one from the head node. -/
def Receipt.OwnedIn (context : LedgerContext) (requirement : ReceiptRequirement) (receipt : Receipt) : Prop :=
  match receipt.ownerScope with
  | .rank => ∃ rank node, receipt.ownerRank = some rank ∧ requirement.plannedRank = some rank ∧
      context.binding.nodeFor rank = some node ∧ sameNode node receipt.nodeId = true
  | .global => receipt.ownerRank = none ∧ ∃ node, context.binding.nodeFor 0 = some node ∧
      sameNode node receipt.nodeId = true

/-- Every required patch is reported, and reported as applied or as one the slot's
    gates exclude. -/
def Receipt.Patched (required notRequired : List String) (receipt : Receipt) : Prop :=
  ∀ patch ∈ required, patch ∈ receipt.patchResults.map Prod.fst ∧
    ∀ result, (patch, result) ∈ receipt.patchResults →
      (result.status = .applied ∧ result.postconditionPassed = true) ∨
        (result.status = .notRequired ∧ patch ∈ notRequired)

/-- What an entry of the ledger has to prove about its slot. -/
structure Evidenced (context : LedgerContext) (slot : String) (receipt : Receipt) : Prop where
  keyed : receipt.receiptRequirementId = slot
  plan_hash : receipt.deploymentPlanHash = context.plan.deploymentPlanHash
  binding_hash : receipt.allocationBindingHash = context.binding.allocationBindingHash
  generation : receipt.generation = context.binding.generation
  planned : ∃ requirement ∈ context.plan.receiptRequirements,
    requirement.Fits receipt ∧ receipt.OwnedIn context requirement
  patched : ∃ required notRequired,
    context.plan.patchRequirements context.profile (.str slot) = .ok (required, notRequired) ∧
      receipt.Patched required notRequired

/-- A GLOBAL receipt has no rank, a RANK one a non-negative rank. -/
def ScopedOwner : OwnerScope → Option Int → Prop
  | .global, owner => owner = none
  | .rank, owner => ∃ rank, owner = some rank ∧ 0 ≤ rank

/-- The texts a store builds a binding from are there, and the owner is of its scope. -/
structure Receipt.Formed (receipt : Receipt) : Prop where
  slot : receipt.receiptRequirementId ≠ ""
  component : receipt.componentId ≠ ""
  instance_named : receipt.instanceId ≠ ""
  node : receipt.nodeId ≠ ""
  owner : ScopedOwner receipt.ownerScope receipt.ownerRank

/-- The names by which a payload is kept and sorted are those of its receipt. -/
structure Receipt.Named (receipt : Receipt) (raw : RawReceipt) : Prop where
  slot : raw.field "receipt_requirement_id" = .str receipt.receiptRequirementId
  component : raw.field "component_id" = .str receipt.componentId
  instance_named : raw.field "instance_id" = .str receipt.instanceId

section Validation

theorem sortedUnique_eq_nil {texts : List String} (empty : RawReceipt.sortedUnique texts = []) :
    texts = [] := by
  have sorted : texts.insertionSort (· ≤ ·) = [] := (List.dedup_eq_nil _).mp empty
  rw [← List.length_eq_zero_iff] at sorted ⊢
  rwa [List.length_insertionSort] at sorted

theorem insertionSort_eq_nil {texts : List String} (empty : texts.insertionSort (· ≤ ·) = []) :
    texts = [] := by
  rw [← List.length_eq_zero_iff] at empty ⊢
  rwa [List.length_insertionSort] at empty

/-- The patch checks leave only results that prove the resolved manifest. -/
theorem patched_of_patchRefusal {required notRequired : List String} {role : String} {receipt : Receipt}
    (passed : RawReceipt.patchRefusal required notRequired role receipt.patchResults = none) :
    receipt.Patched required notRequired := by
  unfold RawReceipt.patchRefusal at passed
  dsimp only at passed
  split_ifs at passed with empty unknown missing failed bogus
  have all_named := List.filter_eq_nil_iff.mp (sortedUnique_eq_nil (not_not.mp missing))
  have none_failed := List.filter_eq_nil_iff.mp (List.map_eq_nil_iff.mp (insertionSort_eq_nil (not_not.mp failed)))
  have none_bogus := List.filter_eq_nil_iff.mp (List.map_eq_nil_iff.mp (insertionSort_eq_nil (not_not.mp bogus)))
  intro patch need
  refine ⟨by simpa using all_named patch need, ?_⟩
  intro result reported
  have sound := none_failed _ reported
  have honest := none_bogus _ reported
  simp only [RawReceipt.failedPatch, Bool.or_eq_true, decide_eq_true_eq, Bool.not_eq_true', not_or,
    Bool.or_eq_false_iff, decide_eq_false_iff_not, not_and] at sound honest
  cases status : result.status with
  | applied =>
    left
    refine ⟨rfl, ?_⟩
    by_contra unmet
    exact sound.2 (by simpa using unmet) (by simp [status])
  | notRequired =>
    right
    exact ⟨rfl, not_not.mp (honest status need)⟩
  | failed => exact absurd status sound.1

theorem requireText_ok {raw : RawReceipt} {name text : String} (read : raw.requireText name = .ok text) :
    raw.field name = .str text ∧ text ≠ "" := by
  unfold RawReceipt.requireText at read
  split at read
  · rename_i found
    split_ifs at read with empty
    cases read
    exact ⟨found, empty⟩
  · cases read

theorem requireOwnerRank_ok {raw : RawReceipt} {scope : OwnerScope} {owner : Option Int}
    (read : raw.requireOwnerRank scope = .ok owner) : ScopedOwner scope owner := by
  cases scope with
  | global =>
    simp only [RawReceipt.requireOwnerRank] at read
    split at read
    · cases read
      rfl
    · cases read
  | rank =>
    simp only [RawReceipt.requireOwnerRank] at read
    split at read
    · rename_i rank found
      split_ifs at read with negative
      cases read
      exact ⟨rank, rfl, not_lt.mp negative⟩
    · cases read

/-- What the strict validation establishes of its result. -/
theorem validateReceipt_ok {timestamp : String → Option Bool} {required notRequired : List String}
    {raw : RawReceipt} {receipt : Receipt}
    (read : validateReceipt timestamp required notRequired raw = .ok receipt) :
    receipt.Named raw ∧ receipt.Formed ∧ receipt.Patched required notRequired := by
  unfold validateReceipt at read
  obtain ⟨deploymentId, -, read⟩ := bind_ok read
  obtain ⟨requirementId, named, read⟩ := bind_ok read
  obtain ⟨role, -, read⟩ := bind_ok read
  obtain ⟨componentId, component, read⟩ := bind_ok read
  obtain ⟨instanceId, instance_named, read⟩ := bind_ok read
  obtain ⟨nodeId, node, read⟩ := bind_ok read
  obtain ⟨attestedAt, -, read⟩ := bind_ok read
  obtain ⟨generation, -, read⟩ := bind_ok read
  obtain ⟨planHash, -, read⟩ := bind_ok read
  obtain ⟨siteHash, -, read⟩ := bind_ok read
  obtain ⟨bindingHash, -, read⟩ := bind_ok read
  obtain ⟨profileHash, -, read⟩ := bind_ok read
  obtain ⟨manifestHash, -, read⟩ := bind_ok read
  obtain ⟨executableHash, -, read⟩ := bind_ok read
  obtain ⟨environmentHash, -, read⟩ := bind_ok read
  obtain ⟨argvHash, -, read⟩ := bind_ok read
  obtain ⟨receiptHash, -, read⟩ := bind_ok read
  obtain ⟨scope, -, read⟩ := bind_ok read
  obtain ⟨owner, owned, read⟩ := bind_ok read
  obtain ⟨pid, -, read⟩ := bind_ok read
  obtain ⟨actorId, -, read⟩ := bind_ok read
  obtain ⟨attestation, -, read⟩ := bind_ok read
  obtain ⟨versions, -, read⟩ := bind_ok read
  obtain ⟨packages, -, read⟩ := bind_ok read
  obtain ⟨sources, -, read⟩ := bind_ok read
  obtain ⟨capabilities, -, read⟩ := bind_ok read
  split at read
  · cases read
  · cases read
  · split at read
    · cases read
    · rename_i passed
      split_ifs at read
      cases read
      obtain ⟨slot_read, slot⟩ := requireText_ok named
      obtain ⟨component_read, component⟩ := requireText_ok component
      obtain ⟨instance_read, instance_named⟩ := requireText_ok instance_named
      exact ⟨⟨slot_read, component_read, instance_read⟩,
        ⟨slot, component, instance_named, (requireText_ok node).2, requireOwnerRank_ok owned⟩,
        patched_of_patchRefusal passed⟩

end Validation

namespace Ledger

variable {context : LedgerContext}

theorem requirementFor_mem {plan : ReceiptPlan} {slot : String} {requirement : ReceiptRequirement}
    (found : plan.requirementFor slot = some requirement) :
    requirement ∈ plan.receiptRequirements ∧ requirement.receiptRequirementId = slot :=
  ⟨List.mem_of_find?_eq_some found, by simpa using List.find?_some found⟩

/-- The constructor's rank count puts every planned rank on a bound node. -/
theorem plannedNode {requirement : ReceiptRequirement} {rank : Int}
    (member : requirement ∈ context.plan.receiptRequirements) (pinned : requirement.plannedRank = some rank) :
    ∃ node, context.binding.nodeFor rank = some node := by
  have below := context.plan.ranks_planned requirement member rank pinned
  have nonneg := requirement.rank_nonneg rank pinned
  have member_rank : rank ∈ context.binding.ranks := by
    rw [context.binding.mem_ranks_iff, context.ranks_agree]
    exact ⟨nonneg, below⟩
  exact Option.isSome_iff_exists.mp ((context.binding.nodeFor_isSome_iff rank).mpr member_rank)

theorem fits_of_slotRefusal {requirement : ReceiptRequirement} {receipt : Receipt}
    (named : requirement.receiptRequirementId = receipt.receiptRequirementId)
    (passed : slotRefusal requirement receipt = none) : requirement.Fits receipt := by
  unfold slotRefusal at passed
  split_ifs at passed with role scope component attestation
  exact ⟨named, not_not.mp role, not_not.mp scope, not_not.mp component, not_not.mp attestation⟩

theorem ownedIn_of_authorityRefusal {requirement : ReceiptRequirement} {submission : Submission}
    {receipt : Receipt} (member : requirement ∈ context.plan.receiptRequirements) (formed : receipt.Formed)
    (passed : authorityRefusal context requirement submission receipt = none) :
    receipt.OwnedIn context requirement := by
  have owner := formed.owner
  unfold authorityRefusal at passed
  unfold Receipt.OwnedIn
  cases scope : receipt.ownerScope with
  | global =>
    rw [scope] at passed owner
    simp only at passed
    split_ifs at passed with authority head
    have on_head : (context.binding.nodeFor 0).any (sameNode · receipt.nodeId) = true := by simpa using head
    rw [Option.any_eq_true] at on_head
    exact ⟨owner, on_head⟩
  | rank =>
    rw [scope] at passed
    simp only at passed
    split at passed
    · cases passed
    · rename_i rank authenticated
      split_ifs at passed with wrong_owner unplanned moved session
      have pinned := not_not.mp unplanned
      obtain ⟨node, bound⟩ := plannedNode member pinned
      rw [bound] at moved
      exact ⟨rank, node, not_not.mp wrong_owner, pinned, bound, by simpa using moved⟩

/-- A check that comes first is passed if no refusal comes out of it and the later ones. -/
theorem passed_first {p : Prop} [Decidable p] {refusal : String} {later : Option String}
    (passed : (if p then some refusal else later) = none) : ¬p ∧ later = none := by
  by_cases refused : p
  · rw [if_pos refused] at passed
    cases passed
  · rw [if_neg refused] at passed
    exact ⟨refused, passed⟩

theorem evidence_of_evidenceRefusal {receipt : Receipt} (passed : evidenceRefusal context receipt = none) :
    receipt.deploymentPlanHash = context.plan.deploymentPlanHash ∧
      receipt.allocationBindingHash = context.binding.allocationBindingHash ∧
      receipt.generation = context.binding.generation := by
  unfold evidenceRefusal at passed
  obtain ⟨plan_hash, passed⟩ := passed_first passed
  obtain ⟨_, passed⟩ := passed_first passed
  obtain ⟨_, passed⟩ := passed_first passed
  obtain ⟨_, passed⟩ := passed_first passed
  obtain ⟨_, passed⟩ := passed_first passed
  obtain ⟨_, passed⟩ := passed_first passed
  obtain ⟨_, passed⟩ := passed_first passed
  obtain ⟨_, passed⟩ := passed_first passed
  obtain ⟨binding_hash, passed⟩ := passed_first passed
  obtain ⟨generation, _⟩ := passed_first passed
  exact ⟨not_not.mp plan_hash, not_not.mp binding_hash, not_not.mp generation⟩

theorem Admits.formed {submission : Submission} {raw : RawReceipt} {receipt : Receipt}
    (admitted : Admits context submission raw receipt) : receipt.Named raw ∧ receipt.Formed := by
  have read := admitted.read
  unfold readReceipt at read
  obtain ⟨_, _, read⟩ := bind_ok read
  obtain ⟨named, formed, -⟩ := validateReceipt_ok read
  exact ⟨named, formed⟩

/-- An admitted receipt is evidence for the slot it names. -/
theorem Admits.evidenced {submission : Submission} {raw : RawReceipt} {receipt : Receipt}
    (admitted : Admits context submission raw receipt) : Evidenced context receipt.slotKey receipt := by
  have read := admitted.read
  unfold readReceipt at read
  obtain ⟨⟨required, notRequired⟩, resolved, read⟩ := bind_ok read
  obtain ⟨named, formed, patched⟩ := validateReceipt_ok read
  rw [named.slot] at resolved
  have permitted := admitted.permitted
  unfold planRefusal at permitted
  split at permitted
  · cases permitted
  · rename_i evidence
    obtain ⟨plan_hash, binding_hash, generation⟩ := evidence_of_evidenceRefusal evidence
    split at permitted
    · cases permitted
    · rename_i requirement found
      obtain ⟨member, slot⟩ := requirementFor_mem found
      split at permitted
      · cases permitted
      · rename_i fitting
        exact
          { keyed := rfl
            plan_hash
            binding_hash
            generation
            planned := ⟨requirement, member, fits_of_slotRefusal slot fitting,
              ownedIn_of_authorityRefusal member formed permitted⟩
            patched := ⟨required, notRequired, resolved, patched⟩ }

/-- What holds of every entry of the ledger. -/
def Entries (holds : String → Receipt → Prop) (ledger : Ledger) : Prop :=
  ∀ slot receipt, ledger.bySlot.get? slot = some receipt → holds slot receipt

/-- Every entry of the ledger is evidence for the slot it stands under. -/
def Sound (context : LedgerContext) (ledger : Ledger) : Prop := ledger.Entries (Evidenced context)

/-- What admission establishes of a receipt and its slot. -/
def Established (context : LedgerContext) (holds : String → Receipt → Prop) : Prop :=
  ∀ submission raw receipt, Admits context submission raw receipt → holds receipt.slotKey receipt

variable {ledger candidate : Ledger} {holds : String → Receipt → Prop}

theorem Entries.of_subset (entries : ledger.Entries holds) {after : Ledger}
    (subset : ∀ slot receipt, after.bySlot.get? slot = some receipt → ledger.bySlot.get? slot = some receipt) :
    after.Entries holds :=
  fun slot receipt held => entries slot receipt (subset slot receipt held)

theorem Entries.bindSlot {receipt : Receipt} (entries : ledger.Entries holds)
    (fresh : holds receipt.slotKey receipt) : (ledger.bindSlot receipt).1.Entries holds := by
  rcases bindSlot_cases ledger receipt with ⟨_, _, _, _, step⟩ | ⟨_, _, _, _, step⟩ | ⟨_, step⟩
  · rw [step]
    exact entries
  · rw [step]
    exact entries
  · rw [step]
    intro slot held found
    rw [show (ledger.bound receipt, true, "accepted").1.bySlot = ledger.bySlot.insert receipt.slotKey receipt
      from rfl, Dict.get?_insert] at found
    split_ifs at found with same
    · cases found
      exact same ▸ fresh
    · exact entries slot held found

theorem Entries.accept {submission : Submission} {raw : RawReceipt} (entries : ledger.Entries holds)
    (established : Established context holds) : (ledger.accept context submission raw).1.Entries holds := by
  rcases accept_cases context ledger submission raw with ⟨_, step⟩ | ⟨_, _, step⟩ | ⟨receipt, admitted, step⟩
  · rw [step]
    exact entries
  · rw [step]
    exact entries
  · rw [step]
    exact entries.bindSlot (established _ _ _ admitted)

theorem Entries.dropRank (entries : ledger.Entries holds) (rank : Int) : (ledger.dropRank rank).Entries holds := by
  apply entries.of_subset
  intro slot receipt held
  rw [get?_dropRank] at held
  exact (Option.filter_eq_some_iff.mp held).1

theorem Entries.supersedeInstance (entries : ledger.Entries holds) (slot instanceId : String) :
    (ledger.supersedeInstance slot instanceId).Entries holds := by
  apply entries.of_subset
  intro probe receipt held
  rw [get?_supersedeInstance] at held
  exact (Option.filter_eq_some_iff.mp held).1

theorem Entries.binds {receipts : List Receipt} {later : Ledger} (entries : ledger.Entries holds)
    (fresh : ∀ receipt ∈ receipts, holds receipt.slotKey receipt)
    (bound : Binds ledger receipts later) : later.Entries holds := by
  induction bound with
  | nil => exact entries
  | cons accepted following ih =>
    have first := fresh _ List.mem_cons_self
    exact ih (entries.bindSlot first) fun receipt member => fresh receipt (List.mem_cons_of_mem _ member)

theorem Entries.stageRankSnapshot (entries : ledger.Entries holds) (established : Established context holds)
    {rank : Int} {receipts : List RawReceipt} {node : String}
    (staged : ledger.stageRankSnapshot context rank receipts node = .ok (.ok candidate)) :
    candidate.Entries holds := by
  obtain ⟨read, admitted, bound⟩ := acceptAll_ok_iff.mp staged
  have copied : ({ ledger with storeCalls := none } : Ledger).Entries holds := entries
  apply (copied.dropRank rank).binds ?_ bound
  intro receipt member
  obtain ⟨raw, admits⟩ := exists_of_forall₂ admitted member
  exact established _ _ _ admits

theorem Entries.commitRankSnapshot (entries : ledger.Entries holds) (other : candidate.Entries holds)
    (rank : Int) : (ledger.commitRankSnapshot rank candidate).Entries holds := by
  intro slot receipt held
  rw [get?_commitRankSnapshot] at held
  rcases Option.or_eq_some_iff.mp held with taken | ⟨_, kept⟩
  · exact other slot receipt (Option.filter_eq_some_iff.mp taken).1
  · exact entries slot receipt (Option.filter_eq_some_iff.mp kept).1

theorem established_evidenced (context : LedgerContext) : Established context (Evidenced context) :=
  fun _ _ _ admitted => admitted.evidenced

/-- The operations of a ledger; a commit names one of the candidates staged so far. -/
inductive Op where
  | accept (submission : Submission) (raw : RawReceipt)
  | supersedeInstance (slot instanceId : String)
  | dropRank (rank : Int)
  | stageRankSnapshot (rank : Int) (receipts : List RawReceipt) (sessionNode : String)
  | commitRankSnapshot (rank : Int) (index : Nat)
  | commitStaged (index : Nat)

/-- A ledger with the candidates its callers hold. -/
structure Staging where
  ledger : Ledger
  staged : List Ledger := []

namespace Staging

/-- A new ledger, with or without a binding store. -/
def init (stored : Bool) : Staging := { ledger := { storeCalls := if stored then some [] else none } }

def step (context : LedgerContext) (state : Staging) : Op → Staging
  | .accept submission raw => { state with ledger := (state.ledger.accept context submission raw).1 }
  | .supersedeInstance slot instanceId =>
    { state with ledger := state.ledger.supersedeInstance slot instanceId }
  | .dropRank rank => { state with ledger := state.ledger.dropRank rank }
  | .stageRankSnapshot rank receipts sessionNode =>
    match state.ledger.stageRankSnapshot context rank receipts sessionNode with
    | .ok (.ok candidate) => { state with staged := state.staged ++ [candidate] }
    | _ => state
  | .commitRankSnapshot rank index =>
    match state.staged[index]? with
    | some candidate => { state with ledger := state.ledger.commitRankSnapshot rank candidate }
    | none => state
  | .commitStaged index =>
    match state.staged[index]? with
    | some candidate => { state with ledger := state.ledger.commitStaged candidate }
    | none => state

/-- What holds of every entry of the ledger and of every staged candidate. -/
def Entries (holds : String → Receipt → Prop) (state : Staging) : Prop :=
  state.ledger.Entries holds ∧ ∀ candidate ∈ state.staged, candidate.Entries holds

theorem Entries.init (holds : String → Receipt → Prop) (stored : Bool) : (init stored).Entries holds := by
  refine ⟨fun slot receipt held => ?_, by simp [Staging.init]⟩
  simp [Staging.init] at held

theorem Entries.step {state : Staging} (entries : state.Entries holds) (established : Established context holds)
    (op : Op) : (state.step context op).Entries holds := by
  cases op with
  | accept submission raw => exact ⟨entries.1.accept established, entries.2⟩
  | supersedeInstance slot instanceId => exact ⟨entries.1.supersedeInstance slot instanceId, entries.2⟩
  | dropRank rank => exact ⟨entries.1.dropRank rank, entries.2⟩
  | stageRankSnapshot rank receipts sessionNode =>
    simp only [Staging.step]
    split
    · rename_i candidate staged
      refine ⟨entries.1, ?_⟩
      intro other member
      rcases List.mem_append.mp member with member | member
      · exact entries.2 other member
      · rw [List.mem_singleton.mp member]
        exact entries.1.stageRankSnapshot established staged
    · exact entries
  | commitRankSnapshot rank index =>
    simp only [Staging.step]
    split
    · rename_i candidate named
      exact ⟨entries.1.commitRankSnapshot (entries.2 candidate (List.mem_of_getElem? named)) rank, entries.2⟩
    · exact entries
  | commitStaged index =>
    simp only [Staging.step]
    split
    · rename_i candidate named
      exact ⟨entries.2 candidate (List.mem_of_getElem? named), entries.2⟩
    · exact entries

/-- What admission establishes holds of every entry after any operations. -/
theorem Entries.run {state : Staging} (entries : state.Entries holds) (established : Established context holds)
    (ops : List Op) : (run (Staging.step context) state ops).Entries holds :=
  run_invariant (fun _ op kept => kept.step established op) entries ops

end Staging

theorem Sound.unexpected (sound : ledger.Sound context) : (ledger.satisfied context).2.unexpected = [] := by
  have planned : ∀ slot ∈ ledger.bySlot.keys, slot ∈ context.plan.requirementKeys := by
    intro slot member
    obtain ⟨receipt, held⟩ := Option.isSome_iff_exists.mp ((ledger.bySlot.isSome_get?_iff slot).mpr member)
    have evidence := sound slot receipt held
    obtain ⟨requirement, inside, fits, _⟩ := evidence.planned
    exact List.mem_map.mpr ⟨requirement, inside, fits.slot.trans evidence.keyed⟩
  have none_left : ledger.bySlot.keys.filter (fun key => key ∉ context.plan.requirementKeys) = [] := by
    rw [List.filter_eq_nil_iff]
    intro slot member
    simpa using planned slot member
  simp only [satisfied, none_left]
  rfl

theorem satisfied_iff (sound : ledger.Sound context) :
    (ledger.satisfied context).1 = true ↔ ∀ slot ∈ context.plan.requirementKeys, slot ∈ ledger.bySlot.keys := by
  have unexpected := sound.unexpected
  simp only [satisfied] at unexpected
  simp only [satisfied, unexpected, List.isEmpty_nil, Bool.and_true, List.isEmpty_iff]
  constructor
  · intro missing slot member
    have kept := List.filter_eq_nil_iff.mp (insertionSort_eq_nil missing) slot member
    simpa using kept
  · intro covered
    have none_left : context.plan.requirementKeys.filter (fun key => key ∉ ledger.bySlot.keys) = [] := by
      rw [List.filter_eq_nil_iff]
      intro slot member
      simpa using covered slot member
    rw [none_left]
    rfl

/-- Whatever is accepted, superseded, dropped, staged and committed, every entry is
    evidence for its slot, nothing is unexpected, and the ledger is satisfied exactly
    when every planned slot has its evidence. -/
theorem evidence_after_run (context : LedgerContext) (stored : Bool) (ops : List Op) :
    let ledger := (run (Staging.step context) (Staging.init stored) ops).ledger
    (∀ slot receipt, ledger.bySlot.get? slot = some receipt → Evidenced context slot receipt) ∧
      (ledger.satisfied context).2.unexpected = [] ∧
      ((ledger.satisfied context).1 = true ↔
        ∀ requirement ∈ context.plan.receiptRequirements, ∃ receipt,
          ledger.bySlot.get? requirement.receiptRequirementId = some receipt ∧
            Evidenced context requirement.receiptRequirementId receipt) := by
  intro ledger
  have sound : ledger.Sound context := ((Staging.Entries.init _ stored).run (established_evidenced context) ops).1
  refine ⟨sound, sound.unexpected, (satisfied_iff sound).trans ?_⟩
  constructor
  · intro covered requirement member
    have present := covered _ (List.mem_map_of_mem member)
    obtain ⟨receipt, held⟩ := Option.isSome_iff_exists.mp ((ledger.bySlot.isSome_get?_iff _).mpr present)
    exact ⟨receipt, held, sound _ _ held⟩
  · intro covered slot member
    obtain ⟨requirement, inside, rfl⟩ := List.mem_map.mp member
    obtain ⟨receipt, held, _⟩ := covered requirement inside
    rw [← Dict.isSome_get?_iff, held]
    rfl

end Ledger

end ExaServe.Compat
