import ExaServe.Compat.SnapshotWindow
import ExaServe.Control.Head.Channel
import ExaServe.Control.Rank.Client
import ExaServe.Control.Transport.CanonicalItems
import ExaServe.Lib.KeepFirst

namespace ExaServe.Compat.Ledger

open Lib Plan Control

variable {context : LedgerContext} {rank : Int} {node slot : String} {ledger : Ledger}

/-- Who submits what a rank's session sends. -/
def fromSession (rank : Int) (node : String) : Submission :=
  { sessionRank := some rank, sessionNode := some node }

/-- `_on_receipt` with the durable job it queues. -/
def onReceipt (context : LedgerContext) (rank : Int) (node : String) (ledger : Ledger)
    (payload : List (String × Json)) : Ledger :=
  if HeadChannel.requirementName payload ∉ context.plan.requirementKeys then ledger
  else match receiptFromDict payload with
    | .error _ => ledger
    | .ok raw => (ledger.accept context (fromSession rank node) raw).1

def decodeReceipts : List (List (String × Json)) → Except ReceiptFailure (List RawReceipt)
  | [] => .ok []
  | payload :: rest => do
    let raw ← receiptFromDict payload
    let later ← decodeReceipts rest
    .ok (raw :: later)

/-- A complete snapshot, canonical where it is sent, then staged and committed where it
    arrives; `none` where one of them refuses it. -/
def replaceSnapshot (context : LedgerContext) (rank : Int) (node : String)
    (observations : List ComponentObservation) (ledger : Ledger) (receipts : List (List (String × Json))) :
    Option Ledger :=
  match canonicalSnapshotItems (NodeChannel.snapshotItems observations receipts) with
  | .error _ => none
  | .ok items =>
    let payloads := (items.filter fun item => item.kind = .receipt).map SnapshotItem.body
    if !payloads.any (HeadChannel.namesSupervisor rank) then none
    else match decodeReceipts payloads with
      | .error _ => none
      | .ok raws =>
        match ledger.stageRankSnapshot context rank raws node with
        | .ok (.ok candidate) => some (ledger.commitRankSnapshot rank candidate)
        | _ => none

/-- A rank's receipts on both sides: what its client keeps for the next snapshot, and
    the ledger of the head. -/
structure ReceiptSession where
  ledger : Ledger
  kept : Dict ReceiptKey (List (String × Json))

namespace ReceiptSession

/-- `establish`: the first snapshot holds the supervisor's receipt alone. -/
def establish (context : LedgerContext) (rank : Int) (node : String) (observations : List ComponentObservation)
    (ledger : Ledger) (supervisor : List (String × Json)) : Option ReceiptSession :=
  match receiptKey supervisor with
  | .error _ => none
  | .ok key =>
    (replaceSnapshot context rank node observations ledger [supervisor]).map fun accepted =>
      { ledger := accepted, kept := Dict.empty.insert key supervisor }

/-- `submit_receipt`: a payload without a key is not sent. -/
def submit (context : LedgerContext) (rank : Int) (node : String) (session : ReceiptSession)
    (payload : List (String × Json)) : ReceiptSession :=
  match receiptKey payload with
  | .error _ => session
  | .ok key =>
    { ledger := onReceipt context rank node session.ledger payload
      kept := session.kept.insert key payload }

/-- The session is lost, the rank's evidence goes with it, and the rank establishes
    itself again with what it kept. -/
def reconnect (context : LedgerContext) (rank : Int) (node : String) (observations : List ComponentObservation)
    (session : ReceiptSession) : Option Ledger :=
  replaceSnapshot context rank node observations (session.ledger.dropRank rank) session.kept.values

end ReceiptSession

def receiptItem (payload : List (String × Json)) : SnapshotItem := { kind := .receipt, body := payload }

/-- The receipt of a payload that passes every check before its slot. -/
def admitted (context : LedgerContext) (rank : Int) (node : String) (payload : List (String × Json)) :
    Option Receipt :=
  match receiptFromDict payload with
  | .error _ => none
  | .ok raw =>
    match readReceipt context raw with
    | .error _ => none
    | .ok receipt => if planRefusal context (fromSession rank node) receipt = none then some receipt else none

/-- The admitted receipts of one slot, in the order of their submission. -/
def submitted (context : LedgerContext) (rank : Int) (node : String) (payloads : List (List (String × Json)))
    (slot : String) : List Receipt :=
  (payloads.filterMap (admitted context rank node)).filter fun receipt => receipt.slotKey = slot

theorem receiptFromDict_data {payload : List (String × Json)} {raw : RawReceipt}
    (decoded : receiptFromDict payload = .ok raw) : raw.data = payload := by
  unfold receiptFromDict at decoded
  simp only at decoded
  split_ifs at decoded
  cases built : rehydrate payload with
  | error failure => simp [built, Except.mapError] at decoded
  | ok result =>
    rw [built] at decoded
    cases decoded
    unfold rehydrate at built
    split at built
    · obtain ⟨_, _, built⟩ := bind_ok built
      obtain ⟨_, _, built⟩ := bind_ok built
      split at built
      · cases built
        rfl
      · cases built
    · cases built

theorem admitted_iff {payload : List (String × Json)} {receipt : Receipt} :
    admitted context rank node payload = some receipt ↔
      ∃ raw, receiptFromDict payload = .ok raw ∧ Admits context (fromSession rank node) raw receipt := by
  unfold admitted
  cases decoded : receiptFromDict payload with
  | error failure => simp
  | ok raw =>
    simp only [Except.ok.injEq, exists_eq_left']
    cases read : readReceipt context raw with
    | error failure =>
      constructor
      · intro found
        cases found
      · intro admits
        cases read.symm.trans admits.read
    | ok other =>
      constructor
      · intro found
        simp only at found
        split_ifs at found with permitted
        cases found
        exact ⟨read, permitted⟩
      · intro admits
        cases read.symm.trans admits.read
        simp only [admits.permitted, if_true]

/-- The text of a payload's field. -/
theorem lookup_of_field {payload : List (String × Json)} {raw : RawReceipt} {name text : String}
    (data : raw.data = payload) (found : raw.field name = .str text) :
    Json.lookup name payload = some (.str text) := by
  rw [RawReceipt.field, data] at found
  cases there : Json.lookup name payload with
  | none => simp [there] at found
  | some value => simpa [there] using found

/-- An admitted payload is kept and sorted under the names of its receipt. -/
theorem admitted_keys {payload : List (String × Json)} {receipt : Receipt}
    (found : admitted context rank node payload = some receipt) :
    receiptKey payload = .ok (receipt.slotKey, receipt.componentId, receipt.instanceId) ∧
      (receiptItem payload).key =
        .ok ["receipt", receipt.slotKey, receipt.componentId, receipt.instanceId] ∧
      HeadChannel.requirementName payload = receipt.slotKey := by
  obtain ⟨raw, decoded, admits⟩ := admitted_iff.mp found
  obtain ⟨named, formed⟩ := admits.formed
  have data := receiptFromDict_data decoded
  have slot := lookup_of_field data named.slot
  have component := lookup_of_field data named.component
  have instance_named := lookup_of_field data named.instance_named
  have slot_text := formed.slot
  have component_text := formed.component
  have instance_text := formed.instance_named
  refine ⟨?_, ?_, ?_⟩
  · simp [receiptKey, requiredPayloadText, nonemptyText, slot, component, instance_named, slot_text, Receipt.slotKey]
  · simp [receiptItem, SnapshotItem.key, SnapshotItem.keyFields, SnapshotItem.keyPart, slot, component, instance_named, slot_text,
      component_text, instance_text, ItemKind.value, Receipt.slotKey]
  · simp [HeadChannel.requirementName, slot, Receipt.slotKey]

/-- What binding a receipt does to a slot, whether it is accepted or not. -/
theorem get?_bindSlot (ledger : Ledger) (receipt : Receipt) (slot : String) :
    (ledger.bindSlot receipt).1.bySlot.get? slot =
      if receipt.slotKey = slot then keepFirst Receipt.instanceId (ledger.bySlot.get? slot) receipt
      else ledger.bySlot.get? slot := by
  by_cases own : receipt.slotKey = slot
  · subst own
    rw [if_pos rfl]
    rcases bindSlot_cases ledger receipt with ⟨existing, held, same, _, step⟩ | ⟨existing, held, same, _, step⟩ |
      ⟨vacant, step⟩
    · rw [step, held]
      simp [keepFirst, same]
    · rw [step]
      simp [reject, held, keepFirst, same]
    · rw [step]
      cases held : ledger.bySlot.get? receipt.slotKey with
      | none => simp [bound, keepFirst]
      | some existing => simp [bound, keepFirst, vacant existing held]
  · rw [if_neg own]
    rcases bindSlot_cases ledger receipt with ⟨_, _, _, _, step⟩ | ⟨_, _, _, _, step⟩ | ⟨_, step⟩
    · rw [step]
    · rw [step]
      rfl
    · rw [step]
      exact Dict.get?_insert_ne _ _ own

theorem Binds.get? {receipts : List Receipt} {later : Ledger} (bound : Binds ledger receipts later)
    (slot : String) :
    later.bySlot.get? slot =
      (receipts.filter fun receipt => receipt.slotKey = slot).foldl (keepFirst Receipt.instanceId)
        (ledger.bySlot.get? slot) := by
  induction bound with
  | nil => rfl
  | @cons ledger later receipt rest accepted following ih =>
    rw [ih, get?_bindSlot]
    by_cases own : receipt.slotKey = slot <;> simp [own]

theorem planned_of_admitted {payload : List (String × Json)} {receipt : Receipt}
    (found : admitted context rank node payload = some receipt) : PlannedFor context rank receipt.slotKey := by
  obtain ⟨raw, _, admits⟩ := admitted_iff.mp found
  exact admits.planned

theorem accept_not_admits {submission : Submission} {raw : RawReceipt}
    (refused : ∀ receipt, ¬Admits context submission raw receipt) :
    (ledger.accept context submission raw).1.bySlot = ledger.bySlot := by
  rcases accept_cases context ledger submission raw with ⟨_, step⟩ | ⟨_, _, step⟩ | ⟨receipt, admits, _⟩
  · rw [step]
  · rw [step]
    rfl
  · exact absurd admits (refused receipt)

/-- What a submission does to a slot. -/
theorem get?_onReceipt (ledger : Ledger) (payload : List (String × Json)) (slot : String) :
    (onReceipt context rank node ledger payload).bySlot.get? slot =
      ((admitted context rank node payload).toList.filter fun receipt => receipt.slotKey = slot).foldl
        (keepFirst Receipt.instanceId) (ledger.bySlot.get? slot) := by
  cases found : admitted context rank node payload with
  | some receipt =>
    obtain ⟨raw, decoded, admits⟩ := admitted_iff.mp found
    obtain ⟨requirement, member, own, _⟩ := planned_of_admitted found
    have planned : HeadChannel.requirementName payload ∈ context.plan.requirementKeys := by
      rw [(admitted_keys found).2.2, ← own]
      exact List.mem_map_of_mem member
    rw [onReceipt, if_neg (not_not.mpr planned), decoded]
    simp only [accept_of_admits admits, get?_bindSlot]
    by_cases here : receipt.slotKey = slot <;> simp [here]
  | none =>
    have same : (onReceipt context rank node ledger payload).bySlot = ledger.bySlot := by
      unfold onReceipt
      split
      · rfl
      · split
        · rfl
        · rename_i raw decoded
          apply accept_not_admits
          intro receipt admits
          rw [admitted_iff.mpr ⟨raw, decoded, admits⟩] at found
          cases found
    rw [same]
    rfl

theorem submitted_cons (payload : List (String × Json)) (rest : List (List (String × Json))) (slot : String) :
    submitted context rank node (payload :: rest) slot =
      ((admitted context rank node payload).toList.filter fun receipt => receipt.slotKey = slot) ++
        submitted context rank node rest slot := by
  cases found : admitted context rank node payload with
  | none => simp [submitted, found]
  | some receipt => by_cases own : receipt.slotKey = slot <;> simp [submitted, found, own]

namespace ReceiptSession

theorem submit_of_keyless {session : ReceiptSession} {payload : List (String × Json)} {error : Raised}
    (keyless : receiptKey payload = .error error) : session.submit context rank node payload = session := by
  simp [submit, keyless]

/-- What the submissions of a session do to a slot. -/
theorem get?_run (session : ReceiptSession) (payloads : List (List (String × Json))) (slot : String) :
    (run (submit context rank node) session payloads).ledger.bySlot.get? slot =
      (submitted context rank node payloads slot).foldl (keepFirst Receipt.instanceId)
        (session.ledger.bySlot.get? slot) := by
  induction payloads generalizing session with
  | nil => rfl
  | cons payload rest ih =>
    rw [run_cons, ih, submitted_cons, List.foldl_append]
    congr 1
    cases keyed : receiptKey payload with
    | ok key =>
      simp only [submit, keyed]
      exact get?_onReceipt session.ledger payload slot
    | error error =>
      rw [submit_of_keyless keyed]
      cases found : admitted context rank node payload with
      | none => rfl
      | some receipt => cases keyed.symm.trans (admitted_keys found).1

/-- The payloads a client keeps: the last one of every key. -/
def keptFrom (payloads : List (List (String × Json))) : Dict ReceiptKey (List (String × Json)) :=
  payloads.foldl (fun kept payload =>
    match receiptKey payload with
    | .error _ => kept
    | .ok key => kept.insert key payload) Dict.empty

theorem keptFrom_concat (payloads : List (List (String × Json))) (payload : List (String × Json)) :
    keptFrom (payloads ++ [payload]) =
      match receiptKey payload with
      | .error _ => keptFrom payloads
      | .ok key => (keptFrom payloads).insert key payload := by
  simp [keptFrom]

def keyed (key : ReceiptKey) (payload : List (String × Json)) : Bool :=
  match receiptKey payload with
  | .ok other => other = key
  | .error _ => false

theorem get?_keptFrom (payloads : List (List (String × Json))) (key : ReceiptKey) :
    (keptFrom payloads).get? key = (payloads.filter (keyed key)).getLast? := by
  induction payloads using List.reverseRecOn with
  | nil => rfl
  | append_singleton payloads payload ih =>
    rw [keptFrom_concat, List.filter_append]
    cases found : receiptKey payload with
    | error error => simp [keyed, found, ih]
    | ok other =>
      rw [Dict.get?_insert, ih]
      by_cases same : other = key <;> simp [keyed, found, same]

theorem kept_run (context : LedgerContext) (rank : Int) (node : String) (session : ReceiptSession)
    {before : List (List (String × Json))} (start : session.kept = keptFrom before)
    (payloads : List (List (String × Json))) :
    (run (submit context rank node) session payloads).kept = keptFrom (before ++ payloads) := by
  induction payloads using List.reverseRecOn with
  | nil => simpa using start
  | append_singleton payloads payload ih =>
    rw [run_concat, ← List.append_assoc, keptFrom_concat, ← ih]
    unfold submit
    split <;> simp_all

theorem keptFrom_keyed {payloads : List (List (String × Json))} {key : ReceiptKey}
    {payload : List (String × Json)} (found : (keptFrom payloads).get? key = some payload) :
    receiptKey payload = .ok key ∧ payload ∈ payloads := by
  rw [get?_keptFrom] at found
  obtain ⟨member, own⟩ := List.mem_filter.mp (List.mem_of_getLast? found)
  refine ⟨?_, member⟩
  unfold keyed at own
  split at own
  · rename_i other read
    rw [read, of_decide_eq_true own]
  · cases own

end ReceiptSession

theorem decodeReceipts_ok {payloads : List (List (String × Json))} {raws : List RawReceipt}
    (decoded : decodeReceipts payloads = .ok raws) :
    List.Forall₂ (fun payload raw => receiptFromDict payload = .ok raw) payloads raws := by
  induction payloads generalizing raws with
  | nil =>
    cases decoded
    exact .nil
  | cons payload rest ih =>
    rw [decodeReceipts] at decoded
    obtain ⟨raw, first, decoded⟩ := bind_ok decoded
    obtain ⟨later, following, decoded⟩ := bind_ok decoded
    cases decoded
    exact .cons first (ih following)

theorem forall₂_admitted {payloads : List (List (String × Json))} {raws : List RawReceipt} {read : List Receipt}
    (decoded : List.Forall₂ (fun payload raw => receiptFromDict payload = .ok raw) payloads raws)
    (admits : List.Forall₂ (Admits context (fromSession rank node)) raws read) :
    List.Forall₂ (fun payload receipt => admitted context rank node payload = some receipt) payloads read := by
  induction decoded generalizing read with
  | nil =>
    cases admits
    exact .nil
  | cons first _ ih =>
    cases admits with
    | cons here rest => exact .cons (admitted_iff.mpr ⟨_, first, here⟩) (ih rest)

/-- What a committed snapshot was: its receipts in key order, all admitted, and bound
    one after the other on the ledger without the rank. -/
theorem replaceSnapshot_some {observations : List ComponentObservation} {receipts : List (List (String × Json))}
    {after : Ledger} (done : replaceSnapshot context rank node observations ledger receipts = some after) :
    ∃ items candidate read, canonicalSnapshotItems (NodeChannel.snapshotItems observations receipts) = .ok items ∧
      List.Forall₂ (fun payload receipt => admitted context rank node payload = some receipt)
        ((items.filter fun item => item.kind = .receipt).map SnapshotItem.body) read ∧
      Binds ({ ledger with storeCalls := none }.dropRank rank) read candidate ∧
      after = ledger.commitRankSnapshot rank candidate := by
  unfold replaceSnapshot at done
  split at done
  · cases done
  · rename_i items canonical
    simp only at done
    split_ifs at done
    split at done
    · cases done
    · rename_i raws decoded
      split at done
      · rename_i candidate staged
        cases done
        obtain ⟨read, admits, bound⟩ := acceptAll_ok_iff.mp staged
        exact ⟨items, candidate, read, canonical, forall₂_admitted (decodeReceipts_ok decoded) admits, bound, rfl⟩
      · cases done

/-- A slot that is planned for the rank is taken from the snapshot. -/
theorem get?_replaced (sound : ledger.Sound context) {read : List Receipt} {candidate : Ledger}
    (evidence : ∀ receipt ∈ read, Evidenced context receipt.slotKey receipt)
    (bound : Binds ({ ledger with storeCalls := none }.dropRank rank) read candidate)
    (planned : PlannedFor context rank slot) :
    (ledger.commitRankSnapshot rank candidate).bySlot.get? slot =
      (read.filter fun receipt => receipt.slotKey = slot).foldl (keepFirst Receipt.instanceId) none := by
  have copied : ({ ledger with storeCalls := none } : Ledger).Sound context := sound
  have candidate_sound : candidate.Sound context := (copied.dropRank rank).binds evidence bound
  have candidate_slot := bound.get? slot
  rw [get?_dropRank_planned copied planned] at candidate_slot
  rw [get?_commitRankSnapshot, ← candidate_slot]
  have cleared := get?_dropRank_planned sound planned
  rw [get?_dropRank] at cleared
  rw [cleared, Option.or_none]
  cases held : candidate.bySlot.get? slot with
  | none => rfl
  | some receipt =>
    have owned := (owned_iff_planned (candidate_sound slot receipt held)).mpr planned
    simp [Option.filter, owned]

/-- Two admitted receipts of a slot are of one component. -/
theorem admitted_component {left right : List (String × Json)} {receipt other : Receipt}
    (found : admitted context rank node left = some receipt) (again : admitted context rank node right = some other)
    (same : receipt.slotKey = other.slotKey) : receipt.componentId = other.componentId := by
  obtain ⟨_, _, admits⟩ := admitted_iff.mp found
  obtain ⟨_, _, other_admits⟩ := admitted_iff.mp again
  obtain ⟨requirement, member, fits, _⟩ := admits.evidenced.planned
  obtain ⟨other_requirement, other_member, other_fits, _⟩ := other_admits.evidenced.planned
  have one := requirement_unique member other_member (fits.slot.trans (same.trans other_fits.slot.symm))
  rw [← fits.component, one, other_fits.component]

theorem snapshotItems_eq (observations : List ComponentObservation) (receipts : List (List (String × Json))) :
    NodeChannel.snapshotItems observations receipts =
      ((observations.map fun obs => ({ kind := .observation, body := obs.toDict } : SnapshotItem)) ++
        receipts.map receiptItem).map SnapshotItem.toJson := by
  simp only [NodeChannel.snapshotItems, List.map_append, List.map_map]
  rfl

/-- The receipts of a snapshot as they arrive. -/
def arriving (items : List SnapshotItem) : List (List (String × Json)) :=
  (items.filter fun item => item.kind = .receipt).map SnapshotItem.body

theorem mem_arriving {items : List SnapshotItem} {payload : List (String × Json)} :
    payload ∈ arriving items ↔ (receiptItem payload) ∈ items := by
  simp only [arriving, List.mem_map, List.mem_filter, decide_eq_true_eq]
  constructor
  · rintro ⟨item, ⟨member, kind⟩, rfl⟩
    rw [receiptItem, ← kind]
    exact member
  · intro member
    exact ⟨_, ⟨member, rfl⟩, rfl⟩

/-- What arrives is what was sent, each payload of a key. -/
theorem arriving_sent {observations : List ComponentObservation} {receipts : List (List (String × Json))}
    {items : List SnapshotItem}
    (canonical : canonicalSnapshotItems (NodeChannel.snapshotItems observations receipts) = .ok items) :
    (∀ payload ∈ arriving items, payload ∈ receipts) ∧
      ∀ payload ∈ receipts, ∃ other ∈ arriving items, ∃ key,
        (receiptItem payload).key = .ok key ∧
          (receiptItem other).key = .ok key := by
  rw [snapshotItems_eq] at canonical
  obtain ⟨sources, covered⟩ := mem_canonical canonical
  refine ⟨?_, ?_⟩
  · intro payload member
    have sent := sources _ (mem_arriving.mp member)
    simpa [receiptItem] using sent
  · intro payload member
    obtain ⟨other, inside, key, keyed, other_keyed⟩ :=
      covered (receiptItem payload) (List.mem_append_right _ (List.mem_map.mpr ⟨payload, member, rfl⟩))
    -- the key starts with the kind
    obtain ⟨parts, own⟩ := SnapshotItem.key_kind keyed
    obtain ⟨other_parts, other_own⟩ := SnapshotItem.key_kind other_keyed
    have kind : other.kind = .receipt := by
      have same : ItemKind.receipt.value = other.kind.value := List.head_eq_of_cons_eq (own.symm.trans other_own)
      cases other_kind : other.kind with
      | receipt => rfl
      | observation =>
        rw [other_kind] at same
        exact absurd same (by decide)
    have whole : other = receiptItem other.body := by rw [receiptItem, ← kind]
    refine ⟨other.body, mem_arriving.mpr (whole ▸ inside), key, keyed, ?_⟩
    rw [← whole]
    exact other_keyed

/-- The payloads arrive in the order of their keys. -/
theorem arriving_sorted {receipts : List Json} {items : List SnapshotItem}
    (canonical : canonicalSnapshotItems receipts = .ok items) :
    (arriving items).Pairwise fun left right => ∀ key other,
      (receiptItem left).key = .ok key →
        (receiptItem right).key = .ok other → key < other := by
  obtain ⟨keys, keyed, increasing⟩ := canonical_keySorted canonical
  have items_sorted : items.Pairwise fun left right => ∀ key other,
      left.key = .ok key → right.key = .ok other → key < other := by
    clear canonical
    induction items generalizing keys with
    | nil => exact .nil
    | cons item rest ih =>
      cases keys with
      | nil => simp at keyed
      | cons key keys =>
        obtain ⟨head, tail⟩ := List.cons.inj keyed
        rw [List.pairwise_cons] at increasing
        refine .cons ?_ (ih keys tail increasing.2)
        intro later member own other own_key other_key
        cases head.symm.trans own_key
        have inside : later.key ∈ keys.map Except.ok := tail ▸ List.mem_map_of_mem member
        obtain ⟨listed, listed_member, same⟩ := List.mem_map.mp inside
        cases same.trans other_key
        exact increasing.1 _ listed_member
  rw [arriving, List.pairwise_map, List.pairwise_filter]
  refine items_sorted.imp ?_
  intro left right ordered left_kind right_kind key other own_key other_key
  have left_whole : left = receiptItem left.body := by rw [receiptItem, ← of_decide_eq_true left_kind]
  have right_whole : right = receiptItem right.body := by rw [receiptItem, ← of_decide_eq_true right_kind]
  exact ordered key other (left_whole ▸ own_key) (right_whole ▸ other_key)

section Kept

open ReceiptSession

variable {payloads : List (List (String × Json))} {read : List Receipt}

theorem mem_submitted {receipt : Receipt} :
    receipt ∈ submitted context rank node payloads slot ↔
      (∃ payload ∈ payloads, admitted context rank node payload = some receipt) ∧ receipt.slotKey = slot := by
  simp [submitted, List.mem_filter, List.mem_filterMap]

/-- The payload a client keeps under a key is the last one of the key's slot and instance. -/
theorem latest_kept {payload : List (String × Json)} {key : ReceiptKey} {receipt : Receipt}
    (kept : (keptFrom payloads).get? key = some payload)
    (found : admitted context rank node payload = some receipt) :
    ((submitted context rank node payloads receipt.slotKey).filter fun other =>
      other.instanceId = receipt.instanceId).getLast? = some receipt := by
  have own := (keptFrom_keyed kept).1
  have same_key : (receipt.slotKey, receipt.componentId, receipt.instanceId) = key :=
    Except.ok.inj ((admitted_keys found).1.symm.trans own)
  rw [get?_keptFrom] at kept
  -- filtering by slot and instance after admission is filtering by key before it
  have same : (submitted context rank node payloads receipt.slotKey).filter (fun other =>
      other.instanceId = receipt.instanceId) = (payloads.filter (keyed key)).filterMap (admitted context rank node) := by
    clear kept
    induction payloads with
    | nil => rfl
    | cons head rest ih =>
      rw [submitted_cons, List.filter_append, ih]
      cases there : admitted context rank node head with
      | none =>
        cases chosen : keyed key head <;> simp [chosen, there]
      | some other =>
        have other_key := (admitted_keys there).1
        have chosen : keyed key head =
            (decide (other.slotKey = receipt.slotKey) && decide (other.instanceId = receipt.instanceId)) := by
          simp only [keyed, other_key, ← same_key, Prod.mk.injEq]
          by_cases one_slot : other.slotKey = receipt.slotKey
          · simp [one_slot, admitted_component there found one_slot]
          · simp [one_slot]
        by_cases one_slot : other.slotKey = receipt.slotKey <;>
          by_cases one_instance : other.instanceId = receipt.instanceId <;>
            simp [chosen, there, one_slot, one_instance]
  rw [same]
  obtain ⟨front, split⟩ := List.getLast?_eq_some_iff.mp kept
  rw [split, List.filterMap_append]
  simp [found]

/-- The tuple a receipt is sorted under names the key it is kept under. -/
theorem receiptKey_of_item {payload : List (String × Json)} {parts : List String}
    (sorted : (receiptItem payload).key = .ok parts) :
    ∃ key : ReceiptKey, receiptKey payload = .ok key ∧ parts = ["receipt", key.1, key.2.1, key.2.2] := by
  have part (name text : String) (found : SnapshotItem.keyPart payload name = some text) :
      Json.lookup name payload = some (.str text) ∧ text ≠ "" := by
    unfold SnapshotItem.keyPart at found
    split at found
    · split_ifs at found with empty
      cases found
      rename_i there
      exact ⟨there, empty⟩
    · cases found
  unfold SnapshotItem.key at sorted
  split at sorted
  · rename_i texts read
    simp only [receiptItem, SnapshotItem.keyFields, List.mapM_cons, List.mapM_nil, Option.pure_def, Option.bind_eq_bind,
      Option.bind_eq_some_iff, Option.some.injEq] at read
    obtain ⟨slot, slot_read, _, ⟨component, component_read, _, ⟨named, named_read, _, rfl, rfl⟩, rfl⟩, rfl⟩ := read
    cases sorted
    obtain ⟨slot_there, slot_text⟩ := part _ _ slot_read
    refine ⟨(slot, component, named), ?_, rfl⟩
    simp [receiptKey, requiredPayloadText, nonemptyText, slot_there, slot_text, (part _ _ component_read).1,
      (part _ _ named_read).1]
  · cases sorted

theorem read_eq (decoded : List.Forall₂ (fun payload receipt => admitted context rank node payload = some receipt)
      payloads read) :
    read = payloads.filterMap (admitted context rank node) ∧
      ∀ payload ∈ payloads, ∃ receipt, admitted context rank node payload = some receipt := by
  induction decoded with
  | nil => simp
  | cons first _ ih =>
    refine ⟨by rw [List.filterMap_cons, first, ← ih.1], ?_⟩
    intro payload member
    rcases List.mem_cons.mp member with rfl | member
    · exact ⟨_, first⟩
    · exact ih.2 payload member

/-- The receipts of a slot arrive in the order of their instances. -/
theorem instances_increasing {receipts : List Json} {items : List SnapshotItem}
    (canonical : canonicalSnapshotItems receipts = .ok items) (slot : String) :
    (submitted context rank node (arriving items) slot).Pairwise fun left right =>
      left.instanceId < right.instanceId := by
  rw [submitted, List.pairwise_filter, List.pairwise_filterMap]
  refine (arriving_sorted canonical).imp ?_
  intro left right ordered receipt found other also own other_own
  have same : receipt.slotKey = other.slotKey := (of_decide_eq_true own).trans (of_decide_eq_true other_own).symm
  have less := ordered _ _ (admitted_keys found).2.1 (admitted_keys also).2.1
  rw [same, admitted_component found also same] at less
  simpa [List.cons_lt_cons_iff] using less

/-- Every instance that was submitted for a slot arrives. -/
theorem instance_arrives {observations : List ComponentObservation} {items : List SnapshotItem}
    (canonical : canonicalSnapshotItems (NodeChannel.snapshotItems observations (keptFrom payloads).values) = .ok items)
    (all : ∀ payload ∈ arriving items, ∃ receipt, admitted context rank node payload = some receipt)
    {receipt : Receipt} (member : receipt ∈ submitted context rank node payloads slot) :
    ∃ other ∈ submitted context rank node (arriving items) slot, other.instanceId = receipt.instanceId := by
  obtain ⟨⟨payload, inside, found⟩, own⟩ := mem_submitted.mp member
  have key := (admitted_keys found).1
  -- some payload is kept under the key, and one with its item key arrives
  have chosen : payload ∈ payloads.filter (keyed (receipt.slotKey, receipt.componentId, receipt.instanceId)) :=
    List.mem_filter.mpr ⟨inside, by simp [keyed, key]⟩
  obtain ⟨kept, last⟩ := Option.isSome_iff_exists.mp (List.getLast?_isSome.mpr (List.ne_nil_of_mem chosen))
  rw [← get?_keptFrom] at last
  obtain ⟨arrived, there, parts, kept_item, arrived_item⟩ :=
    (arriving_sent canonical).2 kept ((Dict.mem_values_iff _ _).mpr ⟨_, last⟩)
  obtain ⟨other, other_found⟩ := all arrived there
  obtain ⟨kept_key, kept_keyed, kept_parts⟩ := receiptKey_of_item kept_item
  have other_parts := Except.ok.inj (arrived_item.symm.trans (admitted_keys other_found).2.1)
  have same := Except.ok.inj (kept_keyed.symm.trans (keptFrom_keyed last).1)
  rw [kept_parts, same] at other_parts
  simp only [List.cons.injEq, true_and, and_true] at other_parts
  refine ⟨other, mem_submitted.mpr ⟨⟨arrived, there, other_found⟩, other_parts.1.symm.trans own⟩, other_parts.2.2.symm⟩

/-- A snapshot of what a client keeps leaves in a slot the last receipt of the greatest
    instance submitted for it. -/
theorem replaced_greatest {observations : List ComponentObservation} {after : Ledger}
    (sound : ledger.Sound context)
    (done : replaceSnapshot context rank node observations ledger (keptFrom payloads).values = some after)
    (planned : PlannedFor context rank slot) :
    Greatest Receipt.instanceId (submitted context rank node payloads slot) (after.bySlot.get? slot) := by
  obtain ⟨items, candidate, read, canonical, decoded, bound, rfl⟩ := replaceSnapshot_some done
  obtain ⟨rfl, all⟩ := read_eq decoded
  have evidence : ∀ receipt ∈ (arriving items).filterMap (admitted context rank node),
      Evidenced context receipt.slotKey receipt := by
    intro receipt member
    obtain ⟨payload, _, found⟩ := List.mem_filterMap.mp member
    obtain ⟨raw, _, admits⟩ := admitted_iff.mp found
    exact admits.evidenced
  have increasing := @instances_increasing context rank node _ _ canonical slot
  have distinct : ((submitted context rank node (arriving items) slot).map Receipt.instanceId).Nodup :=
    List.pairwise_map.mpr (increasing.imp fun less => ne_of_lt less)
  have taken := get?_replaced sound evidence bound planned
  have last := foldl_keepFirst_distinct distinct
  rw [taken, show ((arriving items).filterMap (admitted context rank node)).filter _ =
    submitted context rank node (arriving items) slot from rfl, last]
  cases top : (submitted context rank node (arriving items) slot).getLast? with
  | none =>
    have none_arrive := List.getLast?_eq_none_iff.mp top
    rw [Greatest, List.eq_nil_iff_forall_not_mem]
    intro receipt member
    obtain ⟨other, there, _⟩ := instance_arrives canonical all member
    rw [none_arrive] at there
    cases there
  | some receipt =>
    obtain ⟨front, split⟩ := List.getLast?_eq_some_iff.mp top
    obtain ⟨⟨payload, inside, found⟩, own⟩ := mem_submitted.mp (List.mem_of_getLast? top)
    refine ⟨?_, ?_⟩
    · intro other member
      obtain ⟨arrived, there, same⟩ := instance_arrives canonical all member
      rw [split, List.pairwise_append] at increasing
      rw [split] at there
      rcases List.mem_append.mp there with earlier | single
      · exact same ▸ le_of_lt (increasing.2.2 arrived earlier receipt List.mem_cons_self)
      · rw [List.mem_singleton.mp single] at same
        exact le_of_eq same.symm
    · obtain ⟨key, kept⟩ := (Dict.mem_values_iff _ _).mp ((arriving_sent canonical).1 payload inside)
      rw [← own]
      exact latest_kept kept found

end Kept

theorem replaceSnapshot_sound {observations : List ComponentObservation} {receipts : List (List (String × Json))}
    {after : Ledger} (sound : ledger.Sound context)
    (done : replaceSnapshot context rank node observations ledger receipts = some after) : after.Sound context := by
  obtain ⟨items, candidate, read, _, decoded, bound, rfl⟩ := replaceSnapshot_some done
  have copied : ({ ledger with storeCalls := none } : Ledger).Sound context := sound
  have evidence : ∀ receipt ∈ read, Evidenced context receipt.slotKey receipt := by
    intro receipt member
    obtain ⟨payload, found⟩ := exists_of_forall₂ decoded member
    obtain ⟨raw, _, admits⟩ := admitted_iff.mp found
    exact admits.evidenced
  exact sound.commitRankSnapshot ((copied.dropRank rank).binds evidence bound) rank

theorem onReceipt_sound (sound : ledger.Sound context) (payload : List (String × Json)) :
    (onReceipt context rank node ledger payload).Sound context := by
  unfold onReceipt
  split
  · exact sound
  · split
    · exact sound
    · exact sound.accept (established_evidenced context)

namespace ReceiptSession

theorem sound_run {session : ReceiptSession} (sound : session.ledger.Sound context)
    (payloads : List (List (String × Json))) :
    (run (submit context rank node) session payloads).ledger.Sound context := by
  refine @run_invariant _ _ (submit context rank node) (fun session => session.ledger.Sound context) ?_ _ sound payloads
  intro session payload sound
  unfold submit
  split
  · exact sound
  · exact onReceipt_sound sound payload

theorem establish_some {observations : List ComponentObservation} {supervisor : List (String × Json)}
    {start : ReceiptSession}
    (established : establish context rank node observations ledger supervisor = some start) :
    replaceSnapshot context rank node observations ledger (keptFrom [supervisor]).values = some start.ledger ∧
      start.kept = keptFrom [supervisor] := by
  unfold establish at established
  split at established
  · cases established
  · rename_i key named
    obtain ⟨accepted, done, rfl⟩ := Option.map_eq_some_iff.mp established
    have kept : keptFrom [supervisor] = Dict.empty.insert key supervisor := by simp [keptFrom, named]
    rw [kept]
    exact ⟨done, rfl⟩

/-- After the first snapshot a slot of the rank holds the supervisor's receipt, if it is its. -/
theorem get?_established {start : ReceiptSession} {supervisor : List (String × Json)}
    (top : Greatest Receipt.instanceId (submitted context rank node [supervisor] slot)
      (start.ledger.bySlot.get? slot)) :
    start.ledger.bySlot.get? slot =
      (submitted context rank node [supervisor] slot).foldl (keepFirst Receipt.instanceId) none := by
  have short : (submitted context rank node [supervisor] slot).length ≤ 1 :=
    (List.length_filter_le _ _).trans (List.length_filterMap_le _ _)
  generalize submitted context rank node [supervisor] slot = items at top short
  cases held : start.ledger.bySlot.get? slot with
  | none =>
    rw [held] at top
    rw [show items = [] from top]
    rfl
  | some receipt =>
    rw [held] at top
    have member := (List.mem_filter.mp (List.mem_of_getLast? top.2)).1
    obtain ⟨only, single⟩ := List.length_eq_one_iff.mp (le_antisymm short (List.length_pos_of_mem member))
    rw [single, List.mem_singleton] at member
    rw [single, member]
    rfl

end ReceiptSession

/-- The instance and the hash that the ledger holds for a slot of the rank. -/
def heldFor (rank : Int) (ledger : Ledger) (slot : String) : Option (String × String) :=
  ((ledger.bySlot.get? slot).filter (ownedBy rank)).map fun receipt => (receipt.instanceId, receipt.receiptHash)

theorem heldFor_planned (sound : ledger.Sound context) (planned : PlannedFor context rank slot) :
    ledger.heldFor rank slot =
      (ledger.bySlot.get? slot).map fun receipt => (receipt.instanceId, receipt.receiptHash) := by
  unfold heldFor
  cases held : ledger.bySlot.get? slot with
  | none => rfl
  | some receipt =>
    have owned := (owned_iff_planned (sound slot receipt held)).mpr planned
    simp [Option.filter, owned]

theorem heldFor_unplanned (sound : ledger.Sound context) (unplanned : ¬PlannedFor context rank slot) :
    ledger.heldFor rank slot = none := by
  unfold heldFor
  cases held : ledger.bySlot.get? slot with
  | none => rfl
  | some receipt =>
    cases owned : ownedBy rank receipt with
    | true => exact absurd ((owned_iff_planned (sound slot receipt held)).mp owned) unplanned
    | false => simp [Option.filter, owned]

section Reconnected

variable {supervisor : List (String × Json)} {payloads : List (List (String × Json))} {start : ReceiptSession}
  {first again : List ComponentObservation} {after : Ledger}

/-- A slot of the rank after its submissions, from the first snapshot on. -/
theorem get?_submitted (sound : ledger.Sound context)
    (established : ReceiptSession.establish context rank node first ledger supervisor = some start)
    (planned : PlannedFor context rank slot) :
    (run (ReceiptSession.submit context rank node) start payloads).ledger.bySlot.get? slot =
      (submitted context rank node (supervisor :: payloads) slot).foldl (keepFirst Receipt.instanceId) none := by
  have placed := (ReceiptSession.establish_some established).1
  have start_slot := ReceiptSession.get?_established (replaced_greatest sound placed planned)
  have whole : submitted context rank node (supervisor :: payloads) slot =
      submitted context rank node [supervisor] slot ++ submitted context rank node payloads slot := by
    rw [submitted_cons supervisor payloads, submitted_cons supervisor []]
    simp [submitted]
  rw [ReceiptSession.get?_run, start_slot, ← List.foldl_append, whole]

/-- One slot: the reconnected ledger holds what the lost one held exactly if the slot's
    receipts were submitted in order. -/
theorem heldFor_reconnect_iff (sound : ledger.Sound context)
    (established : ReceiptSession.establish context rank node first ledger supervisor = some start)
    (reconnected : (run (ReceiptSession.submit context rank node) start payloads).reconnect context rank node again =
      some after) (slot : String) :
    after.heldFor rank slot =
        (run (ReceiptSession.submit context rank node) start payloads).ledger.heldFor rank slot ↔
      InOrder Receipt.instanceId Receipt.receiptHash
        (submitted context rank node (supervisor :: payloads) slot) := by
  obtain ⟨placed, kept⟩ := ReceiptSession.establish_some established
  have start_sound := replaceSnapshot_sound sound placed
  have lost_sound := @ReceiptSession.sound_run context rank node start start_sound payloads
  have all_kept := ReceiptSession.kept_run context rank node start kept payloads
  rw [ReceiptSession.reconnect, all_kept] at reconnected
  have after_sound := replaceSnapshot_sound (lost_sound.dropRank rank) reconnected
  by_cases planned : PlannedFor context rank slot
  · rw [heldFor_planned after_sound planned, heldFor_planned lost_sound planned,
      get?_submitted sound established planned]
    exact keepFirst_eq_greatest_iff (replaced_greatest (lost_sound.dropRank rank) reconnected planned)
  · have none_submitted : submitted context rank node (supervisor :: payloads) slot = [] := by
      rw [List.eq_nil_iff_forall_not_mem]
      intro receipt member
      obtain ⟨⟨payload, _, found⟩, own⟩ := mem_submitted.mp member
      exact planned (own ▸ planned_of_admitted found)
    rw [heldFor_unplanned after_sound planned, heldFor_unplanned lost_sound planned, none_submitted]
    simp [InOrder]

end Reconnected

/-- After any history, a rank that is established, submits receipts, is lost and
    establishes itself again has the same instances and hashes in its slots exactly if
    in every slot the last admitted receipt has the greatest instance id and the run of
    that instance started with the same hash. -/
theorem reconnect_keeps_slots_iff (context : LedgerContext) (stored : Bool) (history : List Op) (rank : Int)
    (node : String) (first again : List ComponentObservation) (supervisor : List (String × Json))
    (payloads : List (List (String × Json))) {start : ReceiptSession} {after : Ledger}
    (established : ReceiptSession.establish context rank node first
      (run (Staging.step context) (Staging.init stored) history).ledger supervisor = some start)
    (reconnected : (run (ReceiptSession.submit context rank node) start payloads).reconnect context rank node again =
      some after) :
    (∀ slot, after.heldFor rank slot =
        (run (ReceiptSession.submit context rank node) start payloads).ledger.heldFor rank slot) ↔
      ∀ slot, InOrder Receipt.instanceId Receipt.receiptHash
        (submitted context rank node (supervisor :: payloads) slot) := by
  have sound : (run (Staging.step context) (Staging.init stored) history).ledger.Sound context :=
    ((Staging.Entries.init _ stored).run (established_evidenced context) history).1
  exact forall_congr' (heldFor_reconnect_iff sound established reconnected)

section Restart

/-- The payload of the first rank's supervisor. -/
def firstPayload (instanceId : String) : List (String × Json) := (firstRaw instanceId).data

theorem first_decoded (instanceId : String) : receiptFromDict (firstPayload instanceId) = .ok (firstRaw instanceId) :=
  rfl

theorem first_admitted {instanceId : String} (started : instanceId ≠ "") :
    admitted pairContext 0 "n0" (firstPayload instanceId) = some (firstReceipt instanceId) :=
  admitted_iff.mpr ⟨_, first_decoded instanceId, first_admits started⟩

/-- The first rank's slot is empty or holds one of its supervisors. -/
def FirstOnly (ledger : Ledger) : Prop :=
  ∀ existing, ledger.bySlot.get? "rank0/node_supervisor" = some existing → ∃ instanceId, existing = firstReceipt instanceId

/-- The first rank's supervisors are accepted one after the other. -/
theorem first_binds (instances : List String) {ledger : Ledger} (only : FirstOnly ledger) :
    ∃ later, Binds ledger (instances.map firstReceipt) later := by
  induction instances generalizing ledger with
  | nil => exact ⟨ledger, .nil ledger⟩
  | cons instanceId rest ih =>
    rcases bindSlot_cases ledger (firstReceipt instanceId) with ⟨existing, held, same, hash, step⟩ |
      ⟨existing, held, same, hash, step⟩ | ⟨_, step⟩
    · obtain ⟨later, bound⟩ := ih only
      exact ⟨later, .cons (by rw [step]) (by rw [step]; exact bound)⟩
    · obtain ⟨other, rfl⟩ := only existing held
      have named : other = instanceId := same
      exact absurd (by rw [named]) hash
    · have next : FirstOnly (ledger.bound (firstReceipt instanceId)) := by
        intro existing held
        have placed : (ledger.bound (firstReceipt instanceId)).bySlot.get? "rank0/node_supervisor" =
            some (firstReceipt instanceId) := Dict.get?_insert_self _ _ _
        cases placed.symm.trans held
        exact ⟨instanceId, rfl⟩
      obtain ⟨later, bound⟩ := ih next
      exact ⟨later, .cons (by rw [step]) (by rw [step]; exact bound)⟩

theorem decode_first (instances : List String) :
    decodeReceipts (instances.map firstPayload) = .ok (instances.map firstRaw) := by
  induction instances with
  | nil => rfl
  | cons instanceId rest ih =>
    rw [List.map_cons, decodeReceipts, ok_bind (first_decoded instanceId), ok_bind ih]
    rfl

theorem arriving_first (instances : List String) :
    arriving (instances.map fun instanceId => receiptItem (firstPayload instanceId)) = instances.map firstPayload := by
  induction instances with
  | nil => rfl
  | cons instanceId rest ih =>
    have first : arriving (receiptItem (firstPayload instanceId) ::
        rest.map fun instanceId => receiptItem (firstPayload instanceId)) =
        firstPayload instanceId :: arriving (rest.map fun instanceId => receiptItem (firstPayload instanceId)) := rfl
    rw [List.map_cons, first, ih, List.map_cons]

/-- A snapshot of the first rank's supervisors is accepted by an evidenced ledger. -/
theorem first_replaces {ledger : Ledger} (sound : ledger.Sound pairContext) {head : String} {rest : List String}
    {receipts : List (List (String × Json))} (started : ∀ instanceId ∈ head :: rest, instanceId ≠ "")
    (canonical : canonicalSnapshotItems (NodeChannel.snapshotItems [] receipts) =
      .ok ((head :: rest).map fun instanceId => receiptItem (firstPayload instanceId))) :
    ∃ after, replaceSnapshot pairContext 0 "n0" [] ledger receipts = some after := by
  have copied : ({ ledger with storeCalls := none } : Ledger).Sound pairContext := sound
  have planned : PlannedFor pairContext 0 "rank0/node_supervisor" :=
    planned_of_admitted (first_admitted (started head List.mem_cons_self))
  have only : FirstOnly (({ ledger with storeCalls := none } : Ledger).dropRank 0) := by
    intro existing held
    cases (get?_dropRank_planned copied planned).symm.trans held
  obtain ⟨candidate, bound⟩ := first_binds (head :: rest) only
  have admits : List.Forall₂ (Admits pairContext (fromSession 0 "n0")) ((head :: rest).map firstRaw)
      ((head :: rest).map firstReceipt) := by
    rw [List.forall₂_map_left_iff, List.forall₂_map_right_iff, List.forall₂_same]
    intro instanceId member
    exact first_admits (started instanceId member)
  have staged : ledger.stageRankSnapshot pairContext 0 ((head :: rest).map firstRaw) "n0" = .ok (.ok candidate) :=
    acceptAll_ok_iff.mpr ⟨_, admits, bound⟩
  have supervised : ((head :: rest).map firstPayload).any (HeadChannel.namesSupervisor 0) = true := rfl
  have bodies := arriving_first (head :: rest)
  unfold arriving at bodies
  refine ⟨ledger.commitRankSnapshot 0 candidate, ?_⟩
  simp only [replaceSnapshot, canonical, bodies, supervised, decode_first, staged, Bool.not_true, Bool.false_eq_true,
    if_false]

/-- A supervisor is established, restarted under another instance, lost and reconnected. -/
theorem restart_reconnects {old new head : String} {rest : List String} (oldStarted : old ≠ "")
    (started : ∀ instanceId ∈ head :: rest, instanceId ≠ "")
    (single : canonicalSnapshotItems (NodeChannel.snapshotItems [] [firstPayload old]) =
      .ok ([old].map fun instanceId => receiptItem (firstPayload instanceId)))
    (both : canonicalSnapshotItems (NodeChannel.snapshotItems []
        (ReceiptSession.keptFrom [firstPayload old, firstPayload new]).values) =
      .ok ((head :: rest).map fun instanceId => receiptItem (firstPayload instanceId))) :
    ∃ start after,
      ReceiptSession.establish pairContext 0 "n0" [] (Staging.init true).ledger (firstPayload old) = some start ∧
        (run (ReceiptSession.submit pairContext 0 "n0") start [firstPayload new]).reconnect pairContext 0 "n0" [] =
          some after := by
  have sound : (Staging.init true).ledger.Sound pairContext := (Staging.Entries.init _ true).1
  have only_old : ∀ instanceId ∈ [old], instanceId ≠ "" := by simpa using oldStarted
  obtain ⟨placed, done⟩ := first_replaces sound only_old single
  obtain ⟨key, keyed⟩ : ∃ key, receiptKey (firstPayload old) = .ok key :=
    ⟨_, (admitted_keys (first_admitted oldStarted)).1⟩
  have established : ReceiptSession.establish pairContext 0 "n0" [] (Staging.init true).ledger (firstPayload old) =
      some { ledger := placed, kept := Dict.empty.insert key (firstPayload old) } := by
    simp only [ReceiptSession.establish, keyed, done, Option.map_some]
  have start_kept := (ReceiptSession.establish_some established).2
  have start_sound := replaceSnapshot_sound sound done
  have lost_sound := @ReceiptSession.sound_run pairContext 0 "n0"
    { ledger := placed, kept := Dict.empty.insert key (firstPayload old) } start_sound [firstPayload new]
  have all_kept := ReceiptSession.kept_run pairContext 0 "n0" _ start_kept [firstPayload new]
  obtain ⟨after, reconnected⟩ := first_replaces (lost_sound.dropRank 0) started both
  refine ⟨_, after, established, ?_⟩
  rw [ReceiptSession.reconnect, all_kept]
  exact reconnected

theorem submitted_restart {old new : String} (oldStarted : old ≠ "") (newStarted : new ≠ "") (slot : String) :
    submitted pairContext 0 "n0" [firstPayload old, firstPayload new] slot =
      if "rank0/node_supervisor" = slot then [firstReceipt old, firstReceipt new] else [] := by
  have old_slot : (firstReceipt old).slotKey = "rank0/node_supervisor" := rfl
  have new_slot : (firstReceipt new).slotKey = "rank0/node_supervisor" := rfl
  simp only [submitted, List.filterMap_cons, first_admitted oldStarted, first_admitted newStarted, List.filterMap_nil]
  by_cases here : "rank0/node_supervisor" = slot <;> simp [old_slot, new_slot, here]

/-- A restart under a greater instance id survives the reconnect. -/
theorem restart_in_order :
    ∃ start after,
      ReceiptSession.establish pairContext 0 "n0" [] (run (Staging.step pairContext) (Staging.init true) []).ledger
          (firstPayload "a") = some start ∧
        (run (ReceiptSession.submit pairContext 0 "n0") start [firstPayload "b"]).reconnect pairContext 0 "n0" [] =
          some after ∧
        ∀ slot, after.heldFor 0 slot =
          (run (ReceiptSession.submit pairContext 0 "n0") start [firstPayload "b"]).ledger.heldFor 0 slot := by
  have both : canonicalSnapshotItems (NodeChannel.snapshotItems []
        (ReceiptSession.keptFrom [firstPayload "a", firstPayload "b"]).values) =
      .ok (["a", "b"].map fun instanceId => receiptItem (firstPayload instanceId)) := rfl
  have started : ∀ instanceId ∈ ["a", "b"], instanceId ≠ "" := by decide
  obtain ⟨start, after, established, reconnected⟩ := restart_reconnects (by decide) started rfl both
  refine ⟨start, after, established, reconnected, ?_⟩
  apply (reconnect_keeps_slots_iff pairContext true [] 0 "n0" [] [] (firstPayload "a") [firstPayload "b"] established
    reconnected).mpr
  intro slot
  rw [submitted_restart (by decide) (by decide)]
  split_ifs
  · have last_key : (firstReceipt "a").instanceId ≠ (firstReceipt "b").instanceId := by
      show "a" ≠ "b"
      decide
    have run : finalRun Receipt.instanceId ([] ++ [firstReceipt "a"] ++ [firstReceipt "b"]) = [firstReceipt "b"] :=
      finalRun_concat_other last_key
    simp only [InOrder, List.getLast?_cons_cons, List.getLast?_singleton, Option.mem_some_iff, forall_eq']
    refine ⟨?_, ?_⟩
    · intro receipt member
      rcases List.mem_cons.mp member with rfl | member
      · show "a" ≤ "b"
        decide
      · rw [List.mem_singleton.mp member]
    · intro first found
      rw [show [firstReceipt "a", firstReceipt "b"] = [] ++ [firstReceipt "a"] ++ [firstReceipt "b"] from rfl, run] at found
      cases found
      rfl
  · simp [InOrder]

/-- A restart under a smaller instance id is undone by the reconnect. -/
theorem restart_out_of_order :
    ∃ start after,
      ReceiptSession.establish pairContext 0 "n0" [] (Staging.init true).ledger (firstPayload "b") = some start ∧
        (run (ReceiptSession.submit pairContext 0 "n0") start [firstPayload "a"]).reconnect pairContext 0 "n0" [] =
          some after ∧
        after.heldFor 0 "rank0/node_supervisor" ≠
          (run (ReceiptSession.submit pairContext 0 "n0") start [firstPayload "a"]).ledger.heldFor 0
            "rank0/node_supervisor" := by
  have both : canonicalSnapshotItems (NodeChannel.snapshotItems []
        (ReceiptSession.keptFrom [firstPayload "b", firstPayload "a"]).values) =
      .ok (["a", "b"].map fun instanceId => receiptItem (firstPayload instanceId)) := rfl
  have started : ∀ instanceId ∈ ["a", "b"], instanceId ≠ "" := by decide
  obtain ⟨start, after, established, reconnected⟩ := restart_reconnects (by decide) started rfl both
  refine ⟨start, after, established, reconnected, ?_⟩
  have sound : (Staging.init true).ledger.Sound pairContext := (Staging.Entries.init _ true).1
  intro same
  have ordered := (heldFor_reconnect_iff sound established reconnected "rank0/node_supervisor").mp same
  rw [submitted_restart (by decide) (by decide), if_pos rfl] at ordered
  have less := (ordered (firstReceipt "a") rfl).1 (firstReceipt "b") List.mem_cons_self
  exact absurd (show "b" ≤ "a" from less) (by decide)

end Restart

end ExaServe.Compat.Ledger
