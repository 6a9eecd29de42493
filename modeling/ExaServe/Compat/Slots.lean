import ExaServe.Compat.Ledger
import ExaServe.Lib.Except
import ExaServe.Lib.Run

namespace ExaServe.Compat.Ledger

open Lib Plan Control

variable {context : LedgerContext} {ledger candidate : Ledger} {rank : Int} {slot : String}

theorem rankSlots_nodup (ledger : Ledger) (rank : Int) : ((ledger.rankSlots rank).map Prod.fst).Nodup :=
  ledger.bySlot.nodup.sublist (List.filter_sublist.map Prod.fst)

theorem find_rankSlots (ledger : Ledger) (rank : Int) (slot : String) :
    findEntry slot (ledger.rankSlots rank) = (ledger.bySlot.get? slot).filter (ownedBy rank) :=
  findEntry_filter_of_nodup _ slot ledger.bySlot.nodup

theorem mem_rankSlots_iff (ledger : Ledger) (rank : Int) (slot : String) :
    slot ∈ (ledger.rankSlots rank).map Prod.fst ↔
      ∃ receipt, ledger.bySlot.get? slot = some receipt ∧ ownedBy rank receipt = true := by
  rw [← findEntry_isSome, find_rankSlots]
  cases ledger.bySlot.get? slot with
  | none => simp
  | some receipt => cases owned : ownedBy rank receipt <;> simp [Option.filter, owned]

/-- Dropping a rank erases its slots and revokes each of them. -/
theorem dropRank_eq (ledger : Ledger) (rank : Int) :
    ledger.dropRank rank =
      { ledger with
        bySlot := (ledger.rankSlots rank).foldl (fun slots entry => slots.erase entry.1) ledger.bySlot
        storeCalls := ledger.storeCalls.map fun calls =>
          calls ++ (ledger.rankSlots rank).map fun entry => .revokeSlot entry.1 "rank lease lost" } := by
  rw [dropRank]
  generalize ledger.rankSlots rank = entries
  induction entries generalizing ledger with
  | nil => simp
  | cons entry rest ih =>
    rw [List.foldl_cons, ih]
    simp [callStore, Function.comp_def]

@[simp] theorem dropRank_superseded (ledger : Ledger) (rank : Int) :
    (ledger.dropRank rank).superseded = ledger.superseded := by rw [dropRank_eq]

@[simp] theorem dropRank_rejected (ledger : Ledger) (rank : Int) :
    (ledger.dropRank rank).rejected = ledger.rejected := by rw [dropRank_eq]

theorem get?_erased (ledger : Ledger) (rank : Int) (slot : String) :
    ((ledger.rankSlots rank).foldl (fun slots entry => slots.erase entry.1) ledger.bySlot).get? slot =
      (ledger.bySlot.get? slot).filter fun receipt => !ownedBy rank receipt := by
  have cleared := Dict.get?_foldl_erase (ledger.rankSlots rank) Prod.fst ledger.bySlot slot
  rw [cleared]
  cases found : ledger.bySlot.get? slot with
  | none => simp
  | some receipt =>
    have member := mem_rankSlots_iff ledger rank slot
    rw [found] at member
    cases owned : ownedBy rank receipt <;> simp_all [Option.filter]

theorem get?_dropRank (ledger : Ledger) (rank : Int) (slot : String) :
    (ledger.dropRank rank).bySlot.get? slot =
      (ledger.bySlot.get? slot).filter fun receipt => !ownedBy rank receipt := by
  rw [dropRank_eq]
  exact get?_erased ledger rank slot

/-- A commit takes the rank's slots from the candidate and all others from the ledger. -/
theorem get?_commitRankSnapshot (ledger candidate : Ledger) (rank : Int) (slot : String) :
    (ledger.commitRankSnapshot rank candidate).bySlot.get? slot =
      ((candidate.bySlot.get? slot).filter (ownedBy rank)).or
        ((ledger.bySlot.get? slot).filter fun receipt => !ownedBy rank receipt) := by
  rw [commitRankSnapshot, Dict.get?_foldl_insert_entries (rankSlots_nodup candidate rank), find_rankSlots,
    get?_erased]

theorem get?_supersedeInstance (ledger : Ledger) (slot instanceId probe : String) :
    (ledger.supersedeInstance slot instanceId).bySlot.get? probe =
      (ledger.bySlot.get? probe).filter fun receipt =>
        !(decide (probe = slot) && decide (receipt.instanceId = instanceId)) := by
  rw [supersedeInstance]
  by_cases same : probe = slot
  · cases found : ledger.bySlot.get? slot with
    | none => simp [same, found]
    | some current =>
      by_cases named : current.instanceId = instanceId <;> simp [same, found, named, Option.filter]
  · have kept : (ledger.bySlot.get? probe).filter (fun _ => true) = ledger.bySlot.get? probe := by
      cases ledger.bySlot.get? probe <;> rfl
    simp only [same, decide_false, Bool.false_and, Bool.not_false, kept]
    split
    · rfl
    · split
      · exact Dict.get?_erase_ne _ same
      · rfl

/-- The instances an accepted receipt replaces: the one in its slot, if any. -/
def replaced (ledger : Ledger) (receipt : Receipt) : List String :=
  ((ledger.bySlot.get? receipt.slotKey).map Receipt.instanceId).toList

/-- The slot holds another instance than the receipt's, or none. -/
def Vacant (ledger : Ledger) (receipt : Receipt) : Prop :=
  ∀ existing, ledger.bySlot.get? receipt.slotKey = some existing → existing.instanceId ≠ receipt.instanceId

/-- The ledger after binding a receipt that its slot does not hold already. -/
def bound (ledger : Ledger) (receipt : Receipt) : Ledger :=
  { bySlot := ledger.bySlot.insert receipt.slotKey receipt
    superseded := ledger.superseded ++ ledger.replaced receipt
    rejected := ledger.rejected
    storeCalls := ledger.storeCalls.map (· ++ [.bindReceipt receipt]) }

/-- Binding repeats what the slot holds, refuses a conflict, or replaces. -/
theorem bindSlot_cases (ledger : Ledger) (receipt : Receipt) :
    (∃ existing, ledger.bySlot.get? receipt.slotKey = some existing ∧
      existing.instanceId = receipt.instanceId ∧ existing.receiptHash = receipt.receiptHash ∧
      ledger.bindSlot receipt = (ledger, true, "duplicate")) ∨
    (∃ existing, ledger.bySlot.get? receipt.slotKey = some existing ∧
      existing.instanceId = receipt.instanceId ∧ existing.receiptHash ≠ receipt.receiptHash ∧
      ledger.bindSlot receipt =
        ledger.reject (.str receipt.receiptRequirementId) "conflicting duplicate for the same instance") ∨
    (ledger.Vacant receipt ∧ ledger.bindSlot receipt = (ledger.bound receipt, true, "accepted")) := by
  cases found : ledger.bySlot.get? receipt.slotKey with
  | none =>
    right; right
    refine ⟨fun existing held => by simp [found] at held, ?_⟩
    simp [bindSlot, found, bound, replaced, callStore]
  | some existing =>
    by_cases same : existing.instanceId = receipt.instanceId
    · by_cases hash : existing.receiptHash = receipt.receiptHash
      · left
        exact ⟨existing, rfl, same, hash, by simp [bindSlot, found, same, hash]⟩
      · right; left
        exact ⟨existing, rfl, same, hash, by simp [bindSlot, found, same, hash]⟩
    · right; right
      refine ⟨fun other held => ?_, ?_⟩
      · cases found.symm.trans held
        exact same
      · simp [bindSlot, found, same, bound, replaced, callStore]

/-- The checks of `_accept` before the slot: the receipt is well formed and its
    submitter may submit it. -/
structure Admits (context : LedgerContext) (submission : Submission) (raw : RawReceipt) (receipt : Receipt) :
    Prop where
  read : readReceipt context raw = .ok receipt
  permitted : planRefusal context submission receipt = none

/-- `accept` raises, refuses, or binds an admitted receipt. -/
theorem accept_cases (context : LedgerContext) (ledger : Ledger) (submission : Submission) (raw : RawReceipt) :
    (∃ message, ledger.accept context submission raw = (ledger, .error message)) ∨
    (∃ requirementId reason, ledger.accept context submission raw =
      ((ledger.reject requirementId reason).1, .ok (false, reason))) ∨
    (∃ receipt, Admits context submission raw receipt ∧
      ledger.accept context submission raw = ((ledger.bindSlot receipt).1, .ok (ledger.bindSlot receipt).2)) := by
  cases read : readReceipt context raw with
  | error failure =>
    cases failure with
    | typeError message =>
      left
      exact ⟨message, by simp [accept, read]⟩
    | receiptError message =>
      right; left
      exact ⟨raw.field "receipt_requirement_id", message, by simp [accept, read, reject]⟩
  | ok receipt =>
    right
    cases refusal : planRefusal context submission receipt with
    | some reason =>
      left
      exact ⟨.str receipt.receiptRequirementId, reason, by simp [accept, read, refusal, reject]⟩
    | none =>
      right
      exact ⟨receipt, ⟨read, refusal⟩, by simp [accept, read, refusal]⟩

theorem accept_of_admits {submission : Submission} {raw : RawReceipt} {receipt : Receipt}
    (admitted : Admits context submission raw receipt) (ledger : Ledger) :
    ledger.accept context submission raw = ((ledger.bindSlot receipt).1, .ok (ledger.bindSlot receipt).2) := by
  simp [accept, admitted.read, admitted.permitted]

/-- Binding one receipt after the other, each of them accepted. -/
inductive Binds : Ledger → List Receipt → Ledger → Prop where
  | nil (ledger : Ledger) : Binds ledger [] ledger
  | cons {ledger later : Ledger} {receipt : Receipt} {rest : List Receipt}
    (accepted : (ledger.bindSlot receipt).2.1 = true)
    (following : Binds (ledger.bindSlot receipt).1 rest later) : Binds ledger (receipt :: rest) later

/-- A staged list is admitted receipt by receipt, and each of them is bound. -/
theorem acceptAll_ok_iff {submission : Submission} {raws : List RawReceipt} {later : Ledger} :
    acceptAll context submission ledger raws = .ok (.ok later) ↔
      ∃ receipts, List.Forall₂ (Admits context submission) raws receipts ∧ Binds ledger receipts later := by
  induction raws generalizing ledger with
  | nil =>
    constructor
    · intro done
      cases done
      exact ⟨[], .nil, .nil _⟩
    · rintro ⟨receipts, read, bound⟩
      cases read
      cases bound
      rfl
  | cons raw rest ih =>
    constructor
    · intro done
      rcases accept_cases context ledger submission raw with ⟨message, step⟩ | ⟨id, reason, step⟩ |
        ⟨receipt, admitted, step⟩
      · simp [acceptAll, step] at done
      · simp [acceptAll, step] at done
      · cases accepted : (ledger.bindSlot receipt).2.1 with
        | false =>
          have whole : (ledger.bindSlot receipt).2 = (false, (ledger.bindSlot receipt).2.2) := by
            rw [← accepted]
          rw [acceptAll, step, whole] at done
          cases done
        | true =>
          have whole : (ledger.bindSlot receipt).2 = (true, (ledger.bindSlot receipt).2.2) := by
            rw [← accepted]
          rw [acceptAll, step, whole] at done
          obtain ⟨receipts, read, bound⟩ := ih.mp done
          exact ⟨receipt :: receipts, .cons admitted read, .cons accepted bound⟩
    · rintro ⟨receipts, read, bound⟩
      cases read with
      | @cons _ receipt _ _ admitted read =>
        cases bound with
        | cons accepted following =>
          have whole : (ledger.bindSlot receipt).2 = (true, (ledger.bindSlot receipt).2.2) := by
            rw [← accepted]
          rw [acceptAll, accept_of_admits admitted ledger, whole]
          exact ih.mpr ⟨_, read, following⟩

end ExaServe.Compat.Ledger
