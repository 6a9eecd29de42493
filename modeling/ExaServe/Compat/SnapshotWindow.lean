import ExaServe.Compat.Evidence

namespace ExaServe.Compat.Ledger

open Lib Plan Control

variable {context : LedgerContext} {ledger candidate : Ledger} {rank : Int} {slot : String}

/-- The slot is planned for the rank. -/
def PlannedFor (context : LedgerContext) (rank : Int) (slot : String) : Prop :=
  ∃ requirement ∈ context.plan.receiptRequirements,
    requirement.receiptRequirementId = slot ∧ requirement.plannedRank = some rank

theorem requirement_unique {left right : ReceiptRequirement} (leftMember : left ∈ context.plan.receiptRequirements)
    (rightMember : right ∈ context.plan.receiptRequirements)
    (same : left.receiptRequirementId = right.receiptRequirementId) : left = right :=
  List.inj_on_of_nodup_map context.plan.slots_distinct leftMember rightMember same

/-- A slot's evidence belongs to the rank the slot is planned for. -/
theorem owned_iff_planned {receipt : Receipt} (evidence : Evidenced context slot receipt) :
    ownedBy rank receipt = true ↔ PlannedFor context rank slot := by
  obtain ⟨requirement, member, fits, owned⟩ := evidence.planned
  have named : requirement.receiptRequirementId = slot := fits.slot.trans evidence.keyed
  have scope := fits.scope
  simp only [ownedBy, decide_eq_true_eq]
  unfold Receipt.OwnedIn at owned
  cases kind : receipt.ownerScope with
  | rank =>
    simp only [kind] at owned
    obtain ⟨owner, node, by_owner, pinned, _, _⟩ := owned
    rw [by_owner]
    constructor
    · intro same
      exact ⟨requirement, member, named, pinned.trans same⟩
    · intro planned
      obtain ⟨other, inside, also, pinned_other⟩ := planned
      rw [requirement_unique inside member (also.trans named.symm), pinned] at pinned_other
      exact pinned_other
  | global =>
    simp only [kind] at owned
    rw [owned.1]
    constructor
    · intro same
      cases same
    · intro planned
      obtain ⟨other, inside, also, pinned_other⟩ := planned
      have same := requirement_unique inside member (also.trans named.symm)
      have pinned := requirement.pinned_iff_rank.mp (by rw [← same, pinned_other]; rfl)
      rw [scope, kind] at pinned
      cases pinned

/-- What a rank's session submits is planned for that rank. -/
theorem Admits.planned {node : String} {raw : RawReceipt} {receipt : Receipt}
    (admitted : Admits context { sessionRank := some rank, sessionNode := some node } raw receipt) :
    PlannedFor context rank receipt.slotKey := by
  have permitted := admitted.permitted
  unfold planRefusal at permitted
  split at permitted
  · cases permitted
  · split at permitted
    · cases permitted
    · rename_i requirement found
      obtain ⟨member, named⟩ := requirementFor_mem found
      split at permitted
      · cases permitted
      · unfold authorityRefusal at permitted
        split at permitted
        · simp at permitted
        · simp only at permitted
          split_ifs at permitted with wrong_owner unplanned
          exact ⟨requirement, member, named, not_not.mp unplanned⟩

theorem get?_dropRank_planned (sound : ledger.Sound context) (planned : PlannedFor context rank slot) :
    (ledger.dropRank rank).bySlot.get? slot = none := by
  rw [get?_dropRank]
  cases held : ledger.bySlot.get? slot with
  | none => rfl
  | some receipt =>
    have owned := (owned_iff_planned (sound slot receipt held)).mpr planned
    simp [Option.filter, owned]

/-- The two ledgers hold the same in every slot of the rank. -/
def AgreeOn (context : LedgerContext) (rank : Int) (left right : Ledger) : Prop :=
  ∀ slot, PlannedFor context rank slot → left.bySlot.get? slot = right.bySlot.get? slot

theorem AgreeOn.bound {left right : Ledger} (agree : AgreeOn context rank left right) (receipt : Receipt) :
    AgreeOn context rank (left.bound receipt) (right.bound receipt) := by
  intro slot planned
  simp only [Ledger.bound, Dict.get?_insert, agree slot planned]

/-- Ledgers that agree on a rank bind its receipts alike, and append the same
    superseded instances. -/
theorem Binds.carry {receipts : List Receipt} {left right later : Ledger} (bound : Binds left receipts later)
    (agree : AgreeOn context rank left right)
    (planned : ∀ receipt ∈ receipts, PlannedFor context rank receipt.slotKey) :
    ∃ after gone, Binds right receipts after ∧ AgreeOn context rank later after ∧
      later.rejected = left.rejected ∧ after.rejected = right.rejected ∧
      later.superseded = left.superseded ++ gone ∧ after.superseded = right.superseded ++ gone := by
  induction bound generalizing right with
  | nil => exact ⟨right, [], .nil right, agree, rfl, rfl, by simp, by simp⟩
  | @cons left later receipt rest accepted following ih =>
    have here := agree receipt.slotKey (planned receipt List.mem_cons_self)
    have rest_planned : ∀ other ∈ rest, PlannedFor context rank other.slotKey :=
      fun other member => planned other (List.mem_cons_of_mem _ member)
    rcases bindSlot_cases left receipt with ⟨existing, held, same, hash, step⟩ |
      ⟨existing, held, same, hash, step⟩ | ⟨vacant, step⟩
    · have other_step : right.bindSlot receipt = (right, true, "duplicate") := by
        rcases bindSlot_cases right receipt with ⟨_, _, _, _, step⟩ | ⟨other, found, _, differs, _⟩ |
          ⟨vacant, _⟩
        · exact step
        · cases (here.symm.trans held).symm.trans found
          exact absurd hash differs
        · exact absurd same (vacant existing (here.symm.trans held))
      rw [step] at ih
      obtain ⟨after, gone, bound, rest_agree, records⟩ := ih agree rest_planned
      exact ⟨after, gone, .cons (by rw [other_step]) (by rw [other_step]; exact bound), rest_agree, records⟩
    · rw [step] at accepted
      cases accepted
    · have other_step : right.bindSlot receipt = (right.bound receipt, true, "accepted") := by
        rcases bindSlot_cases right receipt with ⟨existing, found, same, _, _⟩ | ⟨existing, found, same, _, _⟩ |
          ⟨_, step⟩
        · exact absurd same (vacant existing (here.trans found))
        · exact absurd same (vacant existing (here.trans found))
        · exact step
      have replaced_same : left.replaced receipt = right.replaced receipt := by simp only [replaced, here]
      rw [step] at ih
      obtain ⟨after, gone, bound, rest_agree, left_rejected, right_rejected, left_gone, right_gone⟩ :=
        ih (agree.bound receipt) rest_planned
      refine ⟨after, left.replaced receipt ++ gone, .cons (by rw [other_step]) (by rw [other_step]; exact bound),
        rest_agree, left_rejected, right_rejected, ?_, ?_⟩
      · rw [left_gone, Ledger.bound, List.append_assoc]
      · rw [right_gone, Ledger.bound, replaced_same, List.append_assoc]

/-- The same slots, and the same rejections and superseded instances in any order. -/
structure SameRecords (left right : Ledger) : Prop where
  slots : ∀ slot, left.bySlot.get? slot = right.bySlot.get? slot
  rejected : left.rejected.Perm right.rejected
  superseded : left.superseded.Perm right.superseded

/-- Staging the same receipts on another ledger succeeds as well, with the same
    slots for the rank. -/
theorem stage_elsewhere {receipts : List RawReceipt} {node : String} {live : Ledger}
    (sound : ledger.Sound context) (live_sound : live.Sound context)
    (staged : ledger.stageRankSnapshot context rank receipts node = .ok (.ok candidate)) :
    ∃ fresh gone, live.stageRankSnapshot context rank receipts node = .ok (.ok fresh) ∧
      AgreeOn context rank candidate fresh ∧
      candidate.rejected = ledger.rejected ∧ fresh.rejected = live.rejected ∧
      candidate.superseded = ledger.superseded ++ gone ∧ fresh.superseded = live.superseded ++ gone := by
  obtain ⟨read, admitted, bound⟩ := acceptAll_ok_iff.mp staged
  have copied : ({ ledger with storeCalls := none } : Ledger).Sound context := sound
  have live_copied : ({ live with storeCalls := none } : Ledger).Sound context := live_sound
  have agree : AgreeOn context rank (({ ledger with storeCalls := none } : Ledger).dropRank rank)
      (({ live with storeCalls := none } : Ledger).dropRank rank) := by
    intro slot planned
    rw [get?_dropRank_planned copied planned, get?_dropRank_planned live_copied planned]
  have planned : ∀ receipt ∈ read, PlannedFor context rank receipt.slotKey := by
    intro receipt member
    obtain ⟨raw, admits⟩ := exists_of_forall₂ admitted member
    exact admits.planned
  obtain ⟨fresh, gone, again, same, left_rejected, right_rejected, left_gone, right_gone⟩ :=
    bound.carry agree planned
  rw [dropRank_rejected] at left_rejected right_rejected
  rw [dropRank_superseded] at left_gone right_gone
  exact ⟨fresh, gone, acceptAll_ok_iff.mpr ⟨read, admitted, again⟩, same, left_rejected, right_rejected,
    left_gone, right_gone⟩

/-- The committed slots depend on the candidate only through the rank's slots. -/
theorem get?_commit_congr {live fresh : Ledger} (sound : candidate.Sound context) (fresh_sound : fresh.Sound context)
    (agree : AgreeOn context rank candidate fresh) (slot : String) :
    (live.commitRankSnapshot rank candidate).bySlot.get? slot =
      (live.commitRankSnapshot rank fresh).bySlot.get? slot := by
  rw [get?_commitRankSnapshot, get?_commitRankSnapshot]
  by_cases planned : PlannedFor context rank slot
  · rw [agree slot planned]
  · have none_owned : ∀ other : Ledger, other.Sound context →
        (other.bySlot.get? slot).filter (ownedBy rank) = none := by
      intro other other_sound
      rw [Option.filter_eq_none_iff]
      intro receipt held owned
      exact planned ((owned_iff_planned (other_sound slot receipt held)).mp owned)
    rw [none_owned candidate sound, none_owned fresh fresh_sound]

section Window

variable (context) (rank)

/-- The operation concerns other ranks only. -/
def Op.Elsewhere : Op → Prop
  | .accept submission _ => submission.sessionRank ≠ some rank
  | .supersedeInstance slot _ => ¬PlannedFor context rank slot
  | .dropRank other => other ≠ rank
  | .stageRankSnapshot other _ _ => other ≠ rank
  | .commitRankSnapshot other _ => other ≠ rank
  | .commitStaged _ => False

end Window

/-- Committing a candidate staged on an earlier ledger or on the live one: the slots
    agree always, the records as far as the earlier ledger's agree with the live one's. -/
theorem sameRecords_iff {receipts : List RawReceipt} {node : String} {live : Ledger}
    (sound : ledger.Sound context) (live_sound : live.Sound context)
    (staged : ledger.stageRankSnapshot context rank receipts node = .ok (.ok candidate)) :
    (∃ fresh, live.stageRankSnapshot context rank receipts node = .ok (.ok fresh) ∧
        SameRecords (live.commitRankSnapshot rank candidate) (live.commitRankSnapshot rank fresh)) ↔
      ledger.rejected.Perm live.rejected ∧ ledger.superseded.Perm live.superseded := by
  obtain ⟨fresh, gone, again, agree, rejected, fresh_rejected, superseded, fresh_superseded⟩ :=
    stage_elsewhere sound live_sound staged
  have candidate_sound := sound.stageRankSnapshot (established_evidenced context) staged
  have fresh_sound := live_sound.stageRankSnapshot (established_evidenced context) again
  constructor
  · rintro ⟨other, staged_again, same⟩
    cases again.symm.trans staged_again
    have refused := same.rejected
    have gone_same := same.superseded
    simp only [commitRankSnapshot, rejected, fresh_rejected] at refused
    simp only [commitRankSnapshot, superseded, fresh_superseded] at gone_same
    exact ⟨refused, (List.perm_append_right_iff gone).mp gone_same⟩
  · rintro ⟨refused, gone_same⟩
    refine ⟨fresh, again, get?_commit_congr candidate_sound fresh_sound agree, ?_, ?_⟩
    · simpa only [commitRankSnapshot, rejected, fresh_rejected] using refused
    · simpa only [commitRankSnapshot, superseded, fresh_superseded] using gone_same.append_right gone

/-- Between staging and committing a rank's snapshot anything may run. The committed
    slots are those of staging after it; the rejections and the superseded instances
    are so exactly if the live ledger still records what it recorded at staging. -/
theorem commit_after_window_iff (context : LedgerContext) (stored : Bool) (history window : List Op) (rank : Int)
    (receipts : List RawReceipt) (node : String) {candidate : Ledger}
    (staged : (run (Staging.step context) (Staging.init stored) history).ledger.stageRankSnapshot context rank
      receipts node = .ok (.ok candidate)) :
    let origin := (run (Staging.step context) (Staging.init stored) history).ledger
    let live := (run (Staging.step context) (Staging.init stored) (history ++ window)).ledger
    (∃ fresh, live.stageRankSnapshot context rank receipts node = .ok (.ok fresh) ∧
        SameRecords (live.commitRankSnapshot rank candidate) (live.commitRankSnapshot rank fresh)) ↔
      origin.rejected.Perm live.rejected ∧ origin.superseded.Perm live.superseded := by
  intro origin live
  have sound : origin.Sound context := ((Staging.Entries.init _ stored).run (established_evidenced context) history).1
  have live_sound : live.Sound context := 
    ((Staging.Entries.init _ stored).run (established_evidenced context) (history ++ window)).1
  exact sameRecords_iff sound live_sound staged

def zeroDigest : String := "0000000000000000000000000000000000000000000000000000000000000000"

/-- The supervisor slot of a rank. -/
def supervisorSlot (rank : Nat) (slot : String) : ReceiptRequirement where
  receiptRequirementId := slot
  role := "node_supervisor"
  componentSlot := "node_supervisor"
  ownerScope := .rank
  plannedRank := some (rank : Int)
  pinned_iff_rank := by simp
  rank_nonneg := by simp
  supervised_global := by simp

/-- Two ranks on two nodes, with one slot each and no patches. -/
def pairContext : LedgerContext where
  plan :=
    { deploymentId := "d", deploymentPlanHash := zeroDigest, siteProfileHash := zeroDigest
      compatibilityProfileHash := zeroDigest, manifestHash := zeroDigest, models := [], numNodes := 2
      receiptRequirements :=
        [supervisorSlot 0 "rank0/node_supervisor", supervisorSlot 1 "rank1/node_supervisor"]
      slots_distinct := by decide
      ranks_planned := by simp [supervisorSlot] }
  binding :=
    { deploymentId := "d", generation := 1, deploymentPlanHash := zeroDigest, siteProfileHash := zeroDigest
      schedulerAllocationId := "j", rankToNode := [(0, "n0"), (1, "n1")], allocationBindingHash := zeroDigest
      ranks_contiguous := rfl
      nodes_named := by decide
      nodes_distinct := by decide }
  profile := { python := "3.12", ray := "2.49", vllm := "0.11", patches := [] }
  timestamp text := if text = "2026-01-01T00:00:00+00:00" then some true else none
  deployment_agrees := rfl
  plan_agrees := rfl
  site_agrees := rfl
  ranks_agree := rfl

/-- A supervisor's receipt payload, but for its hash. -/
def supervisorFields (rank : Int) (slot node instanceId : String) : List (String × Json) :=
  [("schema_version", .int 2), ("deployment_id", .str "d"), ("generation", .int 1),
    ("deployment_plan_hash", .str zeroDigest), ("site_profile_hash", .str zeroDigest),
    ("allocation_binding_hash", .str zeroDigest), ("compatibility_profile_hash", .str zeroDigest),
    ("manifest_hash", .str zeroDigest), ("receipt_requirement_id", .str slot),
    ("role", .str "node_supervisor"), ("component_id", .str "node_supervisor"),
    ("instance_id", .str instanceId), ("owner_scope", .str "RANK"), ("owner_rank", .int rank),
    ("node_id", .str node), ("pid", .int 7), ("actor_id", .null), ("executable_hash", .str zeroDigest),
    ("argv_hash", .null), ("prepared_environment_hash", .str zeroDigest),
    ("observed_versions", .obj [("python", .str "3.12"), ("ray", .str "2.49"), ("vllm", .str "0.11")]),
    ("observed_package_hashes", .obj []), ("observed_source_hashes", .obj []), ("patch_results", .obj []),
    ("capabilities", .arr []), ("attestation_type", .str "SELF"),
    ("attested_at", .str "2026-01-01T00:00:00+00:00")]

def supervisorRaw (rank : Int) (slot node instanceId receiptHash : String) : RawReceipt :=
  { data := supervisorFields rank slot node instanceId ++ [("receipt_hash", .str receiptHash)]
    patchResults := [] }

def supervisorReceipt (rank : Int) (slot node instanceId receiptHash : String) : Receipt :=
  { deploymentId := "d", generation := 1, deploymentPlanHash := zeroDigest, siteProfileHash := zeroDigest
    allocationBindingHash := zeroDigest, compatibilityProfileHash := zeroDigest, manifestHash := zeroDigest
    receiptRequirementId := slot, role := "node_supervisor", componentId := "node_supervisor", instanceId
    ownerScope := .rank, ownerRank := some rank, nodeId := node, pid := some 7, actorId := none
    executableHash := zeroDigest, argvHash := none, preparedEnvironmentHash := zeroDigest
    observedVersions := [("python", "3.12"), ("ray", "2.49"), ("vllm", "0.11")], observedPackageHashes := []
    observedSourceHashes := [], patchResults := [], capabilities := [], attestationType := .self
    attestedAt := "2026-01-01T00:00:00+00:00", receiptHash }

/-- The hash of a supervisor's receipt does not depend on the one it declares. -/
theorem supervisor_computeHash (rank : Int) (slot node instanceId receiptHash : String) :
    (supervisorRaw rank slot node instanceId receiptHash).computeHash =
      (supervisorRaw rank slot node instanceId "").computeHash := by
  have kept (declared : String) : (supervisorRaw rank slot node instanceId declared).data.filter
      (fun field => field.1 ≠ "receipt_hash") = supervisorFields rank slot node instanceId := by
    simp [supervisorRaw, supervisorFields]
  unfold RawReceipt.computeHash RawReceipt.canonical
  rw [kept, kept]

/-- The fields of a supervisor's receipt. -/
structure SupervisorFields (raw : RawReceipt) (rank : Int) (slot node instanceId receiptHash : String) : Prop where
  deployment : raw.field "deployment_id" = .str "d"
  generation : raw.field "generation" = .int 1
  digests : ∀ name ∈ ["deployment_plan_hash", "site_profile_hash", "allocation_binding_hash",
    "compatibility_profile_hash", "manifest_hash", "executable_hash", "prepared_environment_hash"],
    raw.field name = .str zeroDigest
  slot_named : raw.field "receipt_requirement_id" = .str slot
  roles : ∀ name ∈ ["role", "component_id"], raw.field name = .str "node_supervisor"
  instance_named : raw.field "instance_id" = .str instanceId
  scope : raw.field "owner_scope" = .str "RANK"
  owner : raw.field "owner_rank" = .int rank
  node_named : raw.field "node_id" = .str node
  pid : raw.field "pid" = .int 7
  absent : ∀ name ∈ ["actor_id", "argv_hash"], raw.field name = .null
  versions : raw.field "observed_versions" =
    .obj [("python", .str "3.12"), ("ray", .str "2.49"), ("vllm", .str "0.11")]
  unpatched : ∀ name ∈ ["observed_package_hashes", "observed_source_hashes"], raw.field name = .obj []
  capabilities : raw.field "capabilities" = .arr []
  attestation : raw.field "attestation_type" = .str "SELF"
  attested : raw.field "attested_at" = .str "2026-01-01T00:00:00+00:00"
  hash : raw.field "receipt_hash" = .str receiptHash
  results : raw.patchResults = []

theorem supervisorRaw_fields (rank : Int) (slot node instanceId receiptHash : String) :
    SupervisorFields (supervisorRaw rank slot node instanceId receiptHash) rank slot node instanceId receiptHash := by
  constructor
  case digests | roles | absent | unpatched =>
    simp only [List.forall_mem_cons, List.not_mem_nil, false_imp_iff, implies_true, and_true]
    repeat' apply And.intro
    all_goals rfl
  all_goals rfl

theorem requireText_of {raw : RawReceipt} {name text : String} (found : raw.field name = .str text)
    (named : text ≠ "") : raw.requireText name = .ok text := by
  simp [RawReceipt.requireText, found, named]

theorem requireSha_of {raw : RawReceipt} {name digest : String} (found : raw.field name = .str digest)
    (formed : matchesSha256 digest = true) : requireSha name (raw.field name) = .ok digest := by
  simp only [found, requireSha, formed, if_true]

theorem supervisor_validates {raw : RawReceipt} {rank : Int} {slot node instanceId receiptHash : String}
    (fields : SupervisorFields raw rank slot node instanceId receiptHash) (nonneg : 0 ≤ rank)
    (named : slot ≠ "") (placed : node ≠ "") (started : instanceId ≠ "")
    (digest : matchesSha256 receiptHash = true) (hash : raw.computeHash = receiptHash) :
    validateReceipt pairContext.timestamp [] [] raw =
      .ok (supervisorReceipt rank slot node instanceId receiptHash) := by
  have zero : matchesSha256 zeroDigest = true := by decide +kernel
  have present : ¬rank < 0 := by omega
  have zeros (name : String) (member : name ∈ ["deployment_plan_hash", "site_profile_hash",
      "allocation_binding_hash", "compatibility_profile_hash", "manifest_hash", "executable_hash",
      "prepared_environment_hash"]) : requireSha name (raw.field name) = .ok zeroDigest :=
    requireSha_of (fields.digests name member) zero
  have maps (name : String) (member : name ∈ ["observed_package_hashes", "observed_source_hashes"]) :
      raw.requireMap name true = .ok [] := by
    simp [RawReceipt.requireMap, fields.unpatched name member, RawReceipt.requireTexts]
  have generation : raw.requireGeneration = .ok 1 := by simp [RawReceipt.requireGeneration, fields.generation]
  have argv : requireOptionalSha "argv_hash" (raw.field "argv_hash") = .ok none := by
    rw [fields.absent "argv_hash" (by simp)]
    rfl
  have owner : raw.requireOwnerRank .rank = .ok (some rank) := by
    simp [RawReceipt.requireOwnerRank, fields.owner, present]
  have pid : raw.requirePid = .ok (some 7) := by simp [RawReceipt.requirePid, fields.pid]
  have actor : raw.requireActorId = .ok none := by
    simp [RawReceipt.requireActorId, fields.absent "actor_id" (by simp)]
  have versions : raw.requireMap "observed_versions" false =
      .ok [("python", "3.12"), ("ray", "2.49"), ("vllm", "0.11")] := by
    simp [RawReceipt.requireMap, fields.versions, RawReceipt.requireTexts, bind, Except.bind]
  have capabilities : raw.requireCapabilities = .ok [] := by
    simp [RawReceipt.requireCapabilities, fields.capabilities, RawReceipt.texts?, RawReceipt.sortedUnique]
  have unpatched : RawReceipt.patchRefusal [] [] "node_supervisor" [] = none := rfl
  unfold validateReceipt
  rw [ok_bind (requireText_of fields.deployment (by decide)), ok_bind (requireText_of fields.slot_named named),
    ok_bind (requireText_of (fields.roles "role" (by simp)) (by decide)),
    ok_bind (requireText_of (fields.roles "component_id" (by simp)) (by decide)),
    ok_bind (requireText_of fields.instance_named started), ok_bind (requireText_of fields.node_named placed),
    ok_bind (requireText_of fields.attested (by decide)), ok_bind generation,
    ok_bind (zeros _ (by simp)), ok_bind (zeros _ (by simp)), ok_bind (zeros _ (by simp)),
    ok_bind (zeros _ (by simp)), ok_bind (zeros _ (by simp)), ok_bind (zeros _ (by simp)),
    ok_bind (zeros _ (by simp)), ok_bind argv, ok_bind (requireSha_of fields.hash digest), fields.scope,
    ok_bind (show memberOf OwnerScope.ofValue _ (.str "RANK") = .ok .rank from rfl), ok_bind owner, ok_bind pid, ok_bind actor, fields.attestation,
    ok_bind (show memberOf AttestationType.ofValue _ (.str "SELF") = .ok .self from rfl), ok_bind versions, ok_bind (maps _ (by simp)),
    ok_bind (maps _ (by simp)), ok_bind capabilities, fields.results]
  have timely : pairContext.timestamp "2026-01-01T00:00:00+00:00" = some true := rfl
  rw [timely, unpatched]
  simp only [hash, ne_eq, not_true_eq_false, if_false]
  rfl

/-- The hash that the payload of the first rank's supervisor has. -/
def firstHash (instanceId : String) : String :=
  (supervisorRaw 0 "rank0/node_supervisor" "n0" instanceId "").computeHash

def firstRaw (instanceId : String) : RawReceipt :=
  supervisorRaw 0 "rank0/node_supervisor" "n0" instanceId (firstHash instanceId)

def firstReceipt (instanceId : String) : Receipt :=
  supervisorReceipt 0 "rank0/node_supervisor" "n0" instanceId (firstHash instanceId)

theorem first_permitted (instanceId receiptHash : String) :
    planRefusal pairContext { sessionRank := some 0, sessionNode := some "n0" }
      (supervisorReceipt 0 "rank0/node_supervisor" "n0" instanceId receiptHash) = none := by
  have here : sameNode "n0" "n0" = true := by decide
  simp [planRefusal, evidenceRefusal, supervisorReceipt, pairContext, mismatches, find,
    CompatibilityProfile.expectedVersions, CompatibilityProfile.expectedSources, CompatibilityProfile.capabilities,
    RawReceipt.sortedUnique, ReceiptPlan.requirementFor, supervisorSlot, slotRefusal, authorityRefusal,
    AllocationBinding.nodeFor, here]

/-- The first rank's supervisor is admitted under any instance. -/
theorem first_admits {instanceId : String} (started : instanceId ≠ "") :
    Admits pairContext { sessionRank := some 0, sessionNode := some "n0" } (firstRaw instanceId)
      (firstReceipt instanceId) where
  read := by
    have fields := supervisorRaw_fields 0 "rank0/node_supervisor" "n0" instanceId (firstHash instanceId)
    have resolved : pairContext.plan.patchRequirements pairContext.profile (.str "rank0/node_supervisor") =
        .ok ([], []) := by decide +kernel
    have digest : matchesSha256 (firstHash instanceId) = true := by
      rw [matchesSha256, Bool.or_eq_true]
      exact .inl (isSha256Hex_canonicalHash _)
    unfold readReceipt firstRaw
    rw [fields.slot_named, ok_bind resolved]
    exact supervisor_validates fields (by decide) (by decide) (by decide) started digest
      (supervisor_computeHash _ _ _ _ _)
  permitted := first_permitted instanceId (firstHash instanceId)

theorem first_stages (ledger : Ledger) (vacant : (ledger.dropRank 0).bySlot.get? "rank0/node_supervisor" = none) :
    ∃ candidate, ledger.stageRankSnapshot pairContext 0 [firstRaw "a"] "n0" = .ok (.ok candidate) := by
  have free : ((({ ledger with storeCalls := none } : Ledger).dropRank 0)).Vacant (firstReceipt "a") := by
    intro existing held
    rw [get?_dropRank] at held vacant
    cases vacant.symm.trans held
  rcases bindSlot_cases (({ ledger with storeCalls := none } : Ledger).dropRank 0) (firstReceipt "a") with
    ⟨existing, held, same, -⟩ | ⟨existing, held, same, -⟩ | ⟨-, step⟩
  · exact absurd same (free existing held)
  · exact absurd same (free existing held)
  · have bound : Binds (({ ledger with storeCalls := none } : Ledger).dropRank 0) [firstReceipt "a"] _ :=
      .cons (by rw [step]) (.nil _)
    exact ⟨_, acceptAll_ok_iff.mpr ⟨_, .cons (first_admits (by decide)) .nil, bound⟩⟩

/-- The second rank's session ends inside the window. -/
theorem second_dropped_in_window :
    ∃ candidate, (run (Staging.step pairContext) (Staging.init true) []).ledger.stageRankSnapshot pairContext 0
        [firstRaw "a"] "n0" = .ok (.ok candidate) ∧
      ∃ fresh, (run (Staging.step pairContext) (Staging.init true) ([] ++ [Op.dropRank 1])).ledger.stageRankSnapshot
          pairContext 0 [firstRaw "a"] "n0" = .ok (.ok fresh) ∧
        SameRecords
          ((run (Staging.step pairContext) (Staging.init true) ([] ++ [Op.dropRank 1])).ledger.commitRankSnapshot 0
            candidate)
          ((run (Staging.step pairContext) (Staging.init true) ([] ++ [Op.dropRank 1])).ledger.commitRankSnapshot 0
            fresh) := by
  obtain ⟨candidate, staged⟩ := first_stages (Staging.init true).ledger rfl
  have kept := commit_after_window_iff pairContext true [] [.dropRank 1] 0 [firstRaw "a"] "n0" staged
  exact ⟨candidate, staged, kept.mpr ⟨.nil, .nil⟩⟩

/-- The second rank submits a receipt for a slot that is not planned. -/
def secondRefused : Op :=
  .accept { sessionRank := some 1, sessionNode := some "n1" }
    (supervisorRaw 1 "rank1/ray_worker" "n1" "b" zeroDigest)

/-- The rejection of another rank's receipt inside the window is forgotten. -/
theorem second_refused_in_window :
    secondRefused.Elsewhere pairContext 0 ∧
      ∃ candidate, (run (Staging.step pairContext) (Staging.init true) []).ledger.stageRankSnapshot pairContext 0
          [firstRaw "a"] "n0" = .ok (.ok candidate) ∧
        ¬∃ fresh, (run (Staging.step pairContext) (Staging.init true)
              ([] ++ [secondRefused])).ledger.stageRankSnapshot pairContext 0 [firstRaw "a"] "n0" =
                .ok (.ok fresh) ∧
            SameRecords
              ((run (Staging.step pairContext) (Staging.init true)
                ([] ++ [secondRefused])).ledger.commitRankSnapshot 0 candidate)
              ((run (Staging.step pairContext) (Staging.init true)
                ([] ++ [secondRefused])).ledger.commitRankSnapshot 0 fresh) := by
  obtain ⟨candidate, staged⟩ := first_stages (Staging.init true).ledger rfl
  have recorded : (run (Staging.step pairContext) (Staging.init true)
      ([] ++ [secondRefused])).ledger.rejected.length = 1 := by decide +kernel
  refine ⟨by simp [secondRefused, Op.Elsewhere], candidate, staged, ?_⟩
  intro same
  have sound : (Staging.init true).ledger.Sound pairContext := (Staging.Entries.init _ true).1
  have live_sound : (run (Staging.step pairContext) (Staging.init true) [secondRefused]).ledger.Sound pairContext :=
    ((Staging.Entries.init _ true).run (established_evidenced pairContext) [secondRefused]).1
  have kept := ((sameRecords_iff sound live_sound staged).mp same).1.length_eq
  rw [show (Staging.init true).ledger.rejected.length = 0 from rfl] at kept
  exact absurd (kept.trans recorded) (by decide)

end ExaServe.Compat.Ledger
