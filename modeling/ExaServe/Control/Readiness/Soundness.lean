import ExaServe.Control.Readiness.Evaluate
import ExaServe.Control.Session.Steps
import ExaServe.Lib.Positions
import Mathlib.Data.Set.Function

namespace ExaServe.Control.Readiness

open Lib Plan

section Collected

@[simp] theorem blockers_append (left right : Findings) : (left ++ right).blockers = left.blockers ++ right.blockers := rfl

theorem foldl_blockers (clauses : List Findings) (start : Findings) :
    (clauses.foldl (· ++ ·) start).blockers = start.blockers ++ clauses.flatMap Findings.blockers := by
  induction clauses generalizing start with
  | nil => simp
  | cons clause rest ih => rw [List.foldl_cons, ih, List.flatMap_cons, blockers_append, List.append_assoc]

theorem foldl_blockers_nil {α : Type} {clause : α → Findings} {items : List α} :
    ((items.map clause).foldl (· ++ ·) ({} : Findings)).blockers = [] ↔ ∀ item ∈ items, (clause item).blockers = [] := by
  rw [foldl_blockers]
  simp

theorem insertionSort_nil {α : Type} [LinearOrder α] {items : List α} : items.insertionSort (· ≤ ·) = [] ↔ items = [] := by
  constructor
  · intro empty
    exact List.Perm.eq_nil (empty ▸ (List.perm_insertionSort (· ≤ ·) items).symm)
  · rintro rfl
    rfl

theorem sort_nil {names : Finset String} : names.sort (· ≤ ·) = [] ↔ names = ∅ := by
  rw [← List.length_eq_zero_iff, Finset.length_sort, Finset.card_eq_zero]

end Collected

section Clauses

variable {setting : Setting} {evidence : Evidence}

theorem session_clear {sessions : Coordinator} : (sessionFindings setting (some sessions)).blockers = [] ↔
    (∀ rank ∈ sessions.sessions.keys, sessions.holdsEstablished rank = true) ∧
      sessions.generationState ≠ .terminal := by
  have revoked : readinessRevokedRanks sessions = [] ↔
      ∀ rank ∈ sessions.sessions.keys, sessions.holdsEstablished rank = true := by
    unfold readinessRevokedRanks
    rw [insertionSort_nil, List.filter_eq_nil_iff]
    simp
  unfold sessionFindings
  dsimp only
  rw [blockers_append, List.append_eq_nil_iff]
  refine and_congr ?_ ?_
  · rw [← revoked]
    split <;> simp_all
  · split <;> simp_all

/-- The node has what the plan wants, and no more where that is forbidden. -/
def HasResources (setting : Setting) (node : NodeView) : Prop :=
  (setting.plan.nodeCpus.val : ℚ) ≤ numberValue node.cpu.val ∧
    (setting.plan.numGpusPerNode.val : ℚ) ≤ numberValue node.gpu.val ∧
    (setting.plan.readiness.allowExcessResources = false →
      numberValue node.cpu.val = setting.plan.nodeCpus.val ∧
        numberValue node.gpu.val = setting.plan.numGpusPerNode.val)

theorem resource_clear {rank : Int} {node : NodeView} :
    (resourceFindings setting rank node).blockers = [] ↔ HasResources setting node := by
  unfold resourceFindings HasResources
  dsimp only
  split
  · rename_i short
    simp only [List.cons_ne_nil, false_iff, not_and_or, not_le]
    rcases short with cpu | gpu
    · exact .inl cpu
    · exact .inr (.inl gpu)
  · rename_i enough
    rw [not_or, not_lt, not_lt] at enough
    split
    · rename_i excess
      simp only [List.cons_ne_nil, false_iff]
      rintro ⟨-, -, exact_⟩
      obtain ⟨cpu, gpu⟩ := exact_ excess.1
      rcases excess.2 with other | other
      · exact other cpu
      · exact other gpu
    · rename_i fitting
      simp only [true_iff]
      refine ⟨enough.1, enough.2, fun forbidden => ?_⟩
      rw [not_and] at fitting
      simpa [not_or] using fitting forbidden

theorem rank_clear {entry : Int × String} : (rankFindings setting evidence entry).blockers = [] ↔
    ∃ node, nodeMatches evidence entry.2 = [node] ∧ HasResources setting node := by
  unfold rankFindings
  split
  · rename_i node found
    rw [resource_clear]
    constructor
    · intro enough
      exact ⟨node, found, enough⟩
    · rintro ⟨other, single, enough⟩
      rw [found] at single
      cases single
      exact enough
  · rename_i several
    simp only [List.cons_ne_nil, false_iff]
    rintro ⟨node, single, -⟩
    exact several node single

theorem membership_clear {earlier : List String} : (membershipFindings setting evidence earlier).blockers = [] ↔
    (∀ entry ∈ setting.binding.rankToNode, ∃ node, nodeMatches evidence entry.2 = [node] ∧ HasResources setting node) ∧
      ∀ node ∈ aliveNodes evidence, node.id ∈ matchedIds setting evidence := by
  have extra : extraIds setting evidence = [] ↔
      ∀ node ∈ aliveNodes evidence, node.id ∈ matchedIds setting evidence := by
    unfold extraIds
    rw [insertionSort_nil, List.filter_eq_nil_iff]
    simp
  unfold membershipFindings
  simp only [blockers_append, List.append_eq_nil_iff, foldl_blockers_nil, apply_ite Findings.blockers, ite_self,
    and_true, ite_eq_right_iff, List.cons_ne_nil, imp_false, not_not, rank_clear, ← extra]

theorem component_clear : (componentFindings setting evidence).blockers = [] ↔
    (∀ rank ∈ setting.binding.ranks, evidence.rankComponents.get? rank = some true) ∧
      ∀ componentId ∈ ownedComponentIds, evidence.ownedComponents.get? componentId = some true := by
  unfold componentFindings
  simp only [List.append_eq_nil_iff, List.map_eq_nil_iff, List.filter_eq_nil_iff, decide_eq_true_eq, not_not]

theorem application_clear : (applicationFindings setting evidence).blockers = [] ↔
    evidence.applicationNames = setting.applications := by
  unfold applicationFindings
  simp only [blockers_append, List.append_eq_nil_iff, apply_ite Findings.blockers, ite_self, and_true,
    ite_eq_right_iff, List.cons_ne_nil, imp_false, not_not, sort_nil, Finset.sdiff_eq_empty_iff_subset]
  constructor
  · rintro ⟨missing, unexpected⟩
    exact unexpected.antisymm missing
  · intro same
    exact ⟨same.ge, same.le⟩

theorem missing_not_healthy : isHealthy "MISSING" = false := by decide +kernel

theorem oneProxy_clear {id : String} : (oneProxyFindings setting evidence id).blockers = [] ↔
    ∃ status, proxyStatus setting evidence id = some status ∧ isHealthy status = true := by
  unfold oneProxyFindings
  simp only [apply_ite Findings.blockers, ite_eq_left_iff, List.cons_ne_nil, imp_false, not_not]
  cases found : proxyStatus setting evidence id with
  | none => simp [missing_not_healthy]
  | some status => simp

theorem proxy_clear {earlier : List String} : (proxyFindings setting evidence earlier).blockers = [] ↔
    (∀ id ∈ expectedProxyIds setting evidence,
      ∃ status, proxyStatus setting evidence id = some status ∧ isHealthy status = true) ∧
      ∀ proxy ∈ evidence.proxies.items, proxy.id ∈ expectedProxyIds setting evidence := by
  have unplanned : ((evidence.proxies.items.map ProxyView.id).filter
      fun id => id ∉ expectedProxyIds setting evidence).insertionSort (· ≤ ·) = [] ↔
      ∀ proxy ∈ evidence.proxies.items, proxy.id ∈ expectedProxyIds setting evidence := by
    rw [insertionSort_nil, List.filter_eq_nil_iff]
    simp
  unfold proxyFindings
  simp only [blockers_append, List.append_eq_nil_iff, foldl_blockers_nil, apply_ite Findings.blockers, ite_self,
    and_true, ite_eq_right_iff, List.cons_ne_nil, imp_false, not_not, oneProxy_clear, unplanned, Finset.mem_sort]

theorem receipt_clear {ledger : Compat.Ledger} : (receiptFindings setting ledger).blockers = [] ↔
    ∀ slot, slot ∈ setting.plan.requirementIds ↔ slot ∈ ledger.bySlot.keys := by
  have keys : setting.context.plan.requirementKeys = setting.plan.requirementIds :=
    requirementKeys_receiptPlan setting.plan
  have exact_ : (Compat.Ledger.satisfied setting.context ledger).2.missing = [] ∧
      (Compat.Ledger.satisfied setting.context ledger).2.unexpected = [] ↔
      ∀ slot, slot ∈ setting.plan.requirementIds ↔ slot ∈ ledger.bySlot.keys := by
    unfold Compat.Ledger.satisfied
    simp only [keys, insertionSort_nil, List.filter_eq_nil_iff, decide_eq_true_eq, not_not]
    constructor
    · rintro ⟨missing, unexpected⟩ slot
      exact ⟨missing slot, unexpected slot⟩
    · intro same
      exact ⟨fun slot => (same slot).mp, fun slot => (same slot).mpr⟩
  have agreed : (Compat.Ledger.satisfied setting.context ledger).1 = true ↔
      (Compat.Ledger.satisfied setting.context ledger).2.missing = [] ∧
        (Compat.Ledger.satisfied setting.context ledger).2.unexpected = [] := by
    unfold Compat.Ledger.satisfied
    simp only [Bool.and_eq_true, List.isEmpty_iff]
  rw [← exact_]
  unfold receiptFindings
  dsimp only
  split
  · rename_i ok
    simp only [true_iff]
    exact agreed.mp ok
  · simp only [blockers_append, List.append_eq_nil_iff, apply_ite Findings.blockers, ite_eq_right_iff,
      List.cons_ne_nil, imp_false, not_not]

theorem model_clear {model : ModelPlan} : (modelFindings evidence model).blockers = [] ↔
    observedReplicas evidence model.modelId = (model.numReplicas, model.numReplicas) := by
  unfold modelFindings
  simp only [blockers_append, List.append_eq_nil_iff, apply_ite Findings.blockers, ite_eq_right_iff,
    List.cons_ne_nil, imp_false, not_not, Prod.ext_iff]
  exact and_comm

/-- What the endpoint has to be: established and, in production, in front of a live gateway. -/
def EndpointUp (setting : Setting) (evidence : Evidence) : Prop :=
  evidence.advertisedEndpoint ≠ "" ∧ (setting.plan.exposure.mode = .proxiedInternal →
    evidence.gatewayAlive = some true ∧ evidence.gatewayHealthy = some true)

theorem endpoint_clear : (endpointFindings setting evidence).blockers = [] ↔ EndpointUp setting evidence := by
  unfold endpointFindings EndpointUp
  by_cases established : evidence.advertisedEndpoint = ""
  · simp [established]
  · rw [if_neg established]
    by_cases production : setting.plan.exposure.mode = .proxiedInternal
    · rw [if_pos production]
      split <;> simp_all
    · simp [established, production]

theorem route_clear {model : ModelPlan} : (routeFindings evidence model).blockers = [] ↔
    evidence.routesOk.get? model.routeName = some true ∧ evidence.canaryOk.get? model.modelId = some true := by
  unfold routeFindings
  simp only [blockers_append, List.append_eq_nil_iff, apply_ite Findings.blockers, ite_eq_left_iff,
    List.cons_ne_nil, imp_false, not_not]

theorem canary_clear {earlier : List String} : (canaryFindings setting evidence earlier).blockers = [] ↔
    ∀ model ∈ setting.plan.models, evidence.routesOk.get? model.routeName = some true ∧
      evidence.canaryOk.get? model.modelId = some true := by
  unfold canaryFindings
  simp only [blockers_append, List.append_eq_nil_iff, foldl_blockers_nil, apply_ite Findings.blockers, ite_self,
    and_true, route_clear]

end Clauses

/-- What the clauses require, in their order. -/
structure Clear (setting : Setting) (sessions : Coordinator) (ledger : Compat.Ledger) (evidence : Evidence) : Prop where
  established : ∀ rank ∈ sessions.sessions.keys, sessions.holdsEstablished rank = true
  alive : sessions.generationState ≠ .terminal
  matched : ∀ entry ∈ setting.binding.rankToNode,
    ∃ node, nodeMatches evidence entry.2 = [node] ∧ HasResources setting node
  planned : ∀ node ∈ aliveNodes evidence, node.id ∈ matchedIds setting evidence
  components : ∀ rank ∈ setting.binding.ranks, evidence.rankComponents.get? rank = some true
  owned : ∀ componentId ∈ ownedComponentIds, evidence.ownedComponents.get? componentId = some true
  applications : evidence.applicationNames = setting.applications
  proxied : ∀ id ∈ expectedProxyIds setting evidence,
    ∃ status, proxyStatus setting evidence id = some status ∧ isHealthy status = true
  expected : ∀ proxy ∈ evidence.proxies.items, proxy.id ∈ expectedProxyIds setting evidence
  receipts : ∀ slot, slot ∈ setting.plan.requirementIds ↔ slot ∈ ledger.bySlot.keys
  replicas : ∀ model ∈ setting.plan.models,
    observedReplicas evidence model.modelId = (model.numReplicas, model.numReplicas)
  endpoint : EndpointUp setting evidence
  routes : ∀ model ∈ setting.plan.models, evidence.routesOk.get? model.routeName = some true ∧
    evidence.canaryOk.get? model.modelId = some true

section Ready

variable {setting : Setting} {sessions : Coordinator} {ledger : Compat.Ledger} {now : State.Status.Reading}
  {evidence : Evidence}

/-- The verdict is the conjunction of the clauses. -/
theorem ready_iff_clear :
    (evaluate setting (some sessions) ledger now evidence).ready = true ↔ Clear setting sessions ledger evidence := by
  simp only [evaluate, decide_eq_true_eq]
  unfold findings
  simp only [blockers_append, List.append_eq_nil_iff, session_clear, membership_clear,
    component_clear, application_clear, proxy_clear, receipt_clear, foldl_blockers_nil, model_clear, endpoint_clear,
    canary_clear]
  constructor
  · rintro ⟨⟨⟨⟨⟨⟨⟨⟨⟨established, alive⟩, matched, planned⟩, components, owned⟩, applications⟩, proxied, expected⟩,
      receipts⟩, replicas⟩, endpoint⟩, routes⟩
    exact ⟨established, alive, matched, planned, components, owned, applications, proxied, expected, receipts,
      replicas, endpoint, routes⟩
  · intro clear
    exact ⟨⟨⟨⟨⟨⟨⟨⟨⟨clear.established, clear.alive⟩, clear.matched, clear.planned⟩, clear.components, clear.owned⟩,
      clear.applications⟩, clear.proxied, clear.expected⟩, clear.receipts⟩, clear.replicas⟩, clear.endpoint⟩,
      clear.routes⟩

end Ready

/-- The evidence is that of the plan: the nodes of the ranks and no others are alive, with
    their resources and proxies, and everything else is as planned. -/
structure MatchesPlan (setting : Setting) (sessions : Coordinator) (ledger : Compat.Ledger) (evidence : Evidence)
    (nodeOf : Int → NodeView) : Prop where
  bound : ∀ rank ∈ setting.binding.ranks, ∃ name, setting.binding.nodeFor rank = some name ∧
    canonicalNodeId (nodeOf rank).nodeName.val = canonicalNodeId name
  members : Set.BijOn (fun rank => (nodeOf rank).id) {rank | rank ∈ setting.binding.ranks}
    {id | ∃ node ∈ evidence.nodes.items, node.alive = true ∧ node.id = id}
  observed : ∀ rank ∈ setting.binding.ranks, nodeOf rank ∈ evidence.nodes.items ∧ (nodeOf rank).alive = true
  resources : ∀ rank ∈ setting.binding.ranks, HasResources setting (nodeOf rank)
  proxied : ∀ id, (∃ proxy ∈ evidence.proxies.items, proxy.id = id) ↔
    if setting.plan.usesHeadOnlyServeProxy then id = (nodeOf 0).id
    else ∃ rank ∈ setting.binding.ranks, (nodeOf rank).id = id
  healthy : ∀ proxy ∈ evidence.proxies.items, isHealthy (setting.upper proxy.status.val) = true
  applications : setting.plan.plannedApplicationNames = .ok evidence.applicationNames
  replicas : ∀ model ∈ setting.plan.models,
    evidence.replicasRunning.get? model.modelId = some (model.numReplicas, model.numReplicas)
  established : ∀ rank ∈ setting.binding.ranks, sessions.holdsEstablished rank = true
  components : ∀ rank ∈ setting.binding.ranks, evidence.rankComponents.get? rank = some true
  owned : evidence.ownedComponents.get? "rank_launcher" = some true ∧
    evidence.ownedComponents.get? "deployment" = some true
  receipts : ∀ slot, slot ∈ setting.plan.requirementIds ↔ (ledger.bySlot.get? slot).isSome

section Matched

variable {setting : Setting} {sessions : Coordinator} {ledger : Compat.Ledger} {evidence : Evidence}

/-- The node of a rank where every rank has one. -/
def nodeOf (setting : Setting) (evidence : Evidence) (fallback : NodeView) (rank : Int) : NodeView :=
  match setting.binding.rankToNode.find? fun entry => entry.1 = rank with
  | some entry => (matchedNode evidence entry.2).getD fallback
  | none => fallback

theorem matchedNode_eq {name : String} {node : NodeView} (single : nodeMatches evidence name = [node]) :
    matchedNode evidence name = some node := by
  unfold matchedNode
  rw [single]

theorem mem_nodeMatches {name : String} {node : NodeView} : node ∈ nodeMatches evidence name ↔
    (node ∈ evidence.nodes.items ∧ node.alive = true) ∧ canonicalNodeId node.nodeName.val = canonicalNodeId name := by
  simp only [nodeMatches, aliveNodes, List.mem_filter, decide_eq_true_eq]

theorem single_match {name : String} {node : NodeView} (single : nodeMatches evidence name = [node]) :
    (node ∈ evidence.nodes.items ∧ node.alive = true) ∧ canonicalNodeId node.nodeName.val = canonicalNodeId name := by
  rw [← mem_nodeMatches, single]
  exact List.mem_singleton.mpr rfl

/-- The entry of a rank. -/
theorem entry_of_rank (binding : AllocationBinding) {rank : Int} (planned : rank ∈ binding.ranks) :
    ∃ name, (rank, name) ∈ binding.rankToNode ∧ binding.rankToNode.find? (fun entry => entry.1 = rank) = some (rank, name) ∧
      binding.nodeFor rank = some name := by
  have found := (binding.nodeFor_isSome_iff rank).mpr planned
  obtain ⟨name, bound⟩ := Option.isSome_iff_exists.mp found
  refine ⟨name, AllocationBinding.nodeFor_mem bound, ?_, bound⟩
  unfold AllocationBinding.nodeFor at bound
  obtain ⟨entry, hit, rfl⟩ := Option.map_eq_some_iff.mp bound
  have same := List.find?_some hit
  rw [decide_eq_true_eq] at same
  rw [hit, ← same]

theorem Clear.node_of (clear : Clear setting sessions ledger evidence) (fallback : NodeView) {rank : Int}
    (planned : rank ∈ setting.binding.ranks) :
    ∃ name, (rank, name) ∈ setting.binding.rankToNode ∧ setting.binding.nodeFor rank = some name ∧
      nodeMatches evidence name = [nodeOf setting evidence fallback rank] ∧
      matchedIdOf setting evidence rank = some (nodeOf setting evidence fallback rank).id ∧
      HasResources setting (nodeOf setting evidence fallback rank) := by
  obtain ⟨name, member, hit, bound⟩ := entry_of_rank setting.binding planned
  obtain ⟨node, single, enough⟩ := clear.matched _ member
  have same : nodeOf setting evidence fallback rank = node := by
    unfold nodeOf
    rw [hit]
    dsimp only
    rw [matchedNode_eq single]
    rfl
  refine ⟨name, member, bound, same ▸ single, ?_, same ▸ enough⟩
  unfold matchedIdOf
  rw [hit, same]
  dsimp only
  rw [matchedNode_eq single]
  rfl

theorem Clear.mem_matchedIds (clear : Clear setting sessions ledger evidence) (fallback : NodeView) {id : String} :
    id ∈ matchedIds setting evidence ↔
      ∃ rank ∈ setting.binding.ranks, (nodeOf setting evidence fallback rank).id = id := by
  unfold matchedIds
  rw [List.mem_filterMap]
  constructor
  · rintro ⟨⟨rank, name⟩, member, found⟩
    have planned : rank ∈ setting.binding.ranks := List.mem_map.mpr ⟨_, member, rfl⟩
    obtain ⟨other, listed, -, single, -⟩ := clear.node_of fallback planned
    have ranks := setting.binding.ranks_contiguous ▸ List.nodup_range.map Int.ofNat_injective
    have same := List.inj_on_of_nodup_map ranks member listed rfl
    cases same
    dsimp only at found
    rw [matchedNode_eq single] at found
    exact ⟨rank, planned, Option.some.inj found⟩
  · rintro ⟨rank, planned, rfl⟩
    obtain ⟨name, listed, -, single, -⟩ := clear.node_of fallback planned
    refine ⟨(rank, name), listed, ?_⟩
    rw [matchedNode_eq single]
    rfl

/-- The nodes that need a proxy, by the ranks they are of. -/
theorem Clear.mem_expectedProxyIds (clear : Clear setting sessions ledger evidence) (fallback : NodeView) {id : String} :
    id ∈ expectedProxyIds setting evidence ↔
      if setting.plan.usesHeadOnlyServeProxy then id = (nodeOf setting evidence fallback 0).id
      else ∃ rank ∈ setting.binding.ranks, (nodeOf setting evidence fallback rank).id = id := by
  have first : (0 : Int) ∈ setting.binding.ranks := by
    rw [AllocationBinding.mem_ranks_iff, setting.ranks_agree]
    have least := setting.plan.numNodes.property
    omega
  obtain ⟨-, -, -, -, found, -⟩ := clear.node_of fallback first
  unfold expectedProxyIds
  rw [found]
  cases setting.plan.usesHeadOnlyServeProxy with
  | true => simp
  | false => simp [clear.mem_matchedIds fallback]

/-- The proxies of the evidence are those that are expected. -/
theorem Clear.proxy_iff (clear : Clear setting sessions ledger evidence) {id : String} :
    (∃ proxy ∈ evidence.proxies.items, proxy.id = id) ↔ id ∈ expectedProxyIds setting evidence := by
  constructor
  · rintro ⟨proxy, inside, rfl⟩
    exact clear.expected proxy inside
  · intro expected
    obtain ⟨status, found, -⟩ := clear.proxied id expected
    obtain ⟨proxy, hit, -⟩ := Option.map_eq_some_iff.mp found
    exact ⟨proxy, List.mem_of_find?_eq_some hit, by simpa using List.find?_some hit⟩

theorem proxyStatus_eq {proxy : ProxyView} (inside : proxy ∈ evidence.proxies.items) :
    proxyStatus setting evidence proxy.id = some (setting.upper proxy.status.val) := by
  unfold proxyStatus
  rw [find?_key evidence.proxies.distinct inside]
  rfl

theorem Clear.matches_plan (clear : Clear setting sessions ledger evidence)
    (coordinated : ∀ rank ∈ setting.binding.ranks, (sessions.sessions.get? rank).isSome) (fallback : NodeView) :
    MatchesPlan setting sessions ledger evidence (nodeOf setting evidence fallback) where
  bound := by
    intro rank planned
    obtain ⟨name, -, bound, single, -⟩ := clear.node_of fallback planned
    have inside := single_match single
    exact ⟨name, bound, inside.2⟩
  members := by
    refine ⟨?_, ?_, ?_⟩
    · intro rank planned
      obtain ⟨name, -, -, single, -⟩ := clear.node_of fallback planned
      have inside := single_match single
      exact ⟨_, inside.1.1, inside.1.2, rfl⟩
    · -- Two ranks on one node would be bound to one canonical name.
      intro left leftPlanned right rightPlanned same
      obtain ⟨leftName, leftListed, -, leftSingle, -⟩ := clear.node_of fallback leftPlanned
      obtain ⟨rightName, rightListed, -, rightSingle, -⟩ := clear.node_of fallback rightPlanned
      have leftInside := single_match leftSingle
      have rightInside := single_match rightSingle
      have nodes := List.inj_on_of_nodup_map evidence.nodes.distinct leftInside.1.1 rightInside.1.1 same
      have names : canonicalNodeId leftName = canonicalNodeId rightName := by
        rw [← leftInside.2, nodes, rightInside.2]
      exact congrArg Prod.fst (List.inj_on_of_nodup_map setting.binding.nodes_distinct leftListed rightListed names)
    · rintro id ⟨node, inside, live, rfl⟩
      have matched := clear.planned node (List.mem_filter.mpr ⟨inside, live⟩)
      exact (clear.mem_matchedIds fallback).mp matched
  observed := by
    intro rank planned
    obtain ⟨name, -, -, single, -⟩ := clear.node_of fallback planned
    exact (single_match single).1
  resources := by
    intro rank planned
    obtain ⟨-, -, -, -, -, enough⟩ := clear.node_of fallback planned
    exact enough
  proxied := by
    intro id
    rw [clear.proxy_iff, clear.mem_expectedProxyIds fallback]
  healthy := by
    intro proxy inside
    obtain ⟨status, found, healthy⟩ := clear.proxied proxy.id (clear.expected proxy inside)
    rw [proxyStatus_eq inside] at found
    rw [Option.some.inj found]
    exact healthy
  applications := by
    rw [clear.applications]
    exact setting.named
  replicas := by
    intro model member
    have observed := clear.replicas model member
    unfold observedReplicas at observed
    cases found : evidence.replicasRunning.get? model.modelId with
    | none =>
      rw [found] at observed
      have least := model.positive.2.2.2.2.2
      have zero := congrArg Prod.fst observed
      simp only [Option.getD_none] at zero
      omega
    | some counts =>
      rw [found] at observed
      rw [← observed]
      rfl
  established := by
    intro rank planned
    exact clear.established rank ((Dict.isSome_get?_iff _ _).mp (coordinated rank planned))
  components := clear.components
  owned := ⟨clear.owned _ (by decide), clear.owned _ (by decide)⟩
  receipts := by
    intro slot
    rw [Dict.isSome_get?_iff]
    exact clear.receipts slot

end Matched

section Disturbed

variable {setting : Setting} {sessions : Coordinator} {ledger : Compat.Ledger} {evidence : Evidence}

def Projection.remove {α : Type} {key : α → String} (projection : Projection key) (id : String) : Projection key where
  items := projection.items.filter fun item => key item ≠ id
  distinct := projection.distinct.sublist (List.filter_sublist.map key)

/-- One piece of evidence less, or an unplanned one more. -/
inductive Disturbed (setting : Setting) (sessions : Coordinator) (ledger : Compat.Ledger) (evidence : Evidence) :
    Coordinator → Compat.Ledger → Evidence → Prop
  | sessionLost {other : Coordinator} {rank : Int} (present : rank ∈ other.sessions.keys)
      (lost : other.holdsEstablished rank = false) : Disturbed setting sessions ledger evidence other ledger evidence
  | receiptLost {slot : String} (accepted : slot ∈ ledger.bySlot.keys) :
      Disturbed setting sessions ledger evidence sessions { ledger with bySlot := ledger.bySlot.erase slot } evidence
  | nodeLost {node : NodeView} (live : node ∈ aliveNodes evidence) :
      Disturbed setting sessions ledger evidence sessions ledger
        { evidence with nodes := evidence.nodes.remove node.id }
  | nodeJoined (node : NodeView) (fresh : node.id ∉ evidence.nodes.items.map NodeView.id) (live : node.alive = true) :
      Disturbed setting sessions ledger evidence sessions ledger
        { evidence with nodes := evidence.nodes.add node fresh }
  | proxyLost {proxy : ProxyView} (present : proxy ∈ evidence.proxies.items) :
      Disturbed setting sessions ledger evidence sessions ledger
        { evidence with proxies := evidence.proxies.remove proxy.id }
  | proxyJoined (proxy : ProxyView) (fresh : proxy.id ∉ evidence.proxies.items.map ProxyView.id) :
      Disturbed setting sessions ledger evidence sessions ledger
        { evidence with proxies := evidence.proxies.add proxy fresh }
  | applicationLost {name : String} (present : name ∈ evidence.applicationNames) :
      Disturbed setting sessions ledger evidence sessions ledger
        { evidence with applicationNames := evidence.applicationNames.erase name }
  | applicationJoined {name : String} (fresh : name ∉ evidence.applicationNames) :
      Disturbed setting sessions ledger evidence sessions ledger
        { evidence with applicationNames := insert name evidence.applicationNames }
  | replicasLost {model : ModelPlan} (served : model ∈ setting.plan.models) :
      Disturbed setting sessions ledger evidence sessions ledger
        { evidence with replicasRunning := evidence.replicasRunning.erase model.modelId }
  | rankComponentLost {rank : Int} (planned : rank ∈ setting.binding.ranks) :
      Disturbed setting sessions ledger evidence sessions ledger
        { evidence with rankComponents := evidence.rankComponents.erase rank }
  | ownedComponentLost {componentId : String} (owned : componentId ∈ ownedComponentIds) :
      Disturbed setting sessions ledger evidence sessions ledger
        { evidence with ownedComponents := evidence.ownedComponents.erase componentId }
  | routeLost {model : ModelPlan} (served : model ∈ setting.plan.models) :
      Disturbed setting sessions ledger evidence sessions ledger
        { evidence with routesOk := evidence.routesOk.erase model.routeName }
  | canaryLost {model : ModelPlan} (served : model ∈ setting.plan.models) :
      Disturbed setting sessions ledger evidence sessions ledger
        { evidence with canaryOk := evidence.canaryOk.erase model.modelId }
  | endpointLost :
      Disturbed setting sessions ledger evidence sessions ledger { evidence with advertisedEndpoint := "" }
  | gatewayLost (production : setting.plan.exposure.mode = .proxiedInternal) :
      Disturbed setting sessions ledger evidence sessions ledger
        { evidence with gatewayAlive := none, gatewayHealthy := none }

/-- The node of a rank is the same whenever more nodes are known. -/
theorem match_of_more {fewer more : Evidence} (known : ∀ node ∈ fewer.nodes.items, node ∈ more.nodes.items)
    {name : String} {left right : NodeView} (inFewer : nodeMatches fewer name = [left])
    (inMore : nodeMatches more name = [right]) : left = right := by
  have inside := single_match inFewer
  have also : left ∈ nodeMatches more name := mem_nodeMatches.mpr ⟨⟨known left inside.1.1, inside.1.2⟩, inside.2⟩
  rw [inMore] at also
  exact List.mem_singleton.mp also

/-- A live node that is matched is that of some rank. -/
theorem Clear.rank_of_live (clear : Clear setting sessions ledger evidence) {node : NodeView}
    (live : node ∈ aliveNodes evidence) :
    ∃ entry ∈ setting.binding.rankToNode, nodeMatches evidence entry.2 = [node] := by
  have matched := clear.planned node live
  unfold matchedIds at matched
  obtain ⟨entry, listed, found⟩ := List.mem_filterMap.mp matched
  obtain ⟨other, single, -⟩ := clear.matched entry listed
  rw [matchedNode_eq single] at found
  have same : other = node := List.inj_on_of_nodup_map evidence.nodes.distinct (single_match single).1.1
    (List.mem_filter.mp live).1 (Option.some.inj found)
  exact ⟨entry, listed, same ▸ single⟩

theorem Clear.not_of_disturbed (clear : Clear setting sessions ledger evidence) {sessions' : Coordinator}
    {ledger' : Compat.Ledger} {evidence' : Evidence}
    (disturbed : Disturbed setting sessions ledger evidence sessions' ledger' evidence') :
    ¬ Clear setting sessions' ledger' evidence' := by
  intro still
  cases disturbed with
  | sessionLost present lost =>
    have established := still.established _ present
    rw [lost] at established
    cases established
  | @receiptLost slot accepted =>
    have kept := (still.receipts slot).mp ((clear.receipts slot).mpr accepted)
    rw [← Dict.isSome_get?_iff, Dict.get?_erase_self] at kept
    cases kept
  | @nodeLost node live =>
    obtain ⟨entry, listed, single⟩ := clear.rank_of_live live
    obtain ⟨other, found, -⟩ := still.matched entry listed
    have same := match_of_more (fun node inside => List.mem_of_mem_filter inside) found single
    have removed := (single_match found).1.1
    rw [same] at removed
    exact absurd rfl (of_decide_eq_true (List.mem_filter.mp removed).2)
  | nodeJoined node fresh live =>
    have joined : node ∈ aliveNodes { evidence with nodes := evidence.nodes.add node fresh } :=
      List.mem_filter.mpr ⟨List.mem_append_right _ (List.mem_singleton.mpr rfl), live⟩
    obtain ⟨entry, listed, single⟩ := still.rank_of_live joined
    obtain ⟨other, found, -⟩ := clear.matched entry listed
    have same := match_of_more (fun node inside => List.mem_append_left _ inside) found single
    have known := (single_match found).1.1
    rw [same] at known
    exact fresh (List.mem_map_of_mem known)
  | @proxyLost proxy present =>
    obtain ⟨other, inside, same⟩ := still.proxy_iff.mpr (clear.proxy_iff.mp ⟨proxy, present, rfl⟩)
    exact absurd same (of_decide_eq_true (List.mem_filter.mp inside).2)
  | proxyJoined proxy fresh =>
    have expected := still.expected proxy (List.mem_append_right _ (List.mem_singleton.mpr rfl))
    obtain ⟨other, inside, same⟩ := clear.proxy_iff.mpr expected
    exact fresh (same ▸ List.mem_map_of_mem inside)
  | applicationLost present =>
    have same := still.applications.trans clear.applications.symm
    exact absurd (same ▸ present) (Finset.notMem_erase _ _)
  | applicationJoined fresh =>
    have same := still.applications.trans clear.applications.symm
    exact fresh (same ▸ Finset.mem_insert_self _ _)
  | @replicasLost model served =>
    have observed := still.replicas model served
    have least := model.positive.2.2.2.2.2
    simp only [observedReplicas, Dict.get?_erase_self, Option.getD_none, Prod.mk.injEq] at observed
    omega
  | rankComponentLost planned =>
    have running := still.components _ planned
    rw [Dict.get?_erase_self] at running
    cases running
  | ownedComponentLost owned =>
    have running := still.owned _ owned
    rw [Dict.get?_erase_self] at running
    cases running
  | routeLost served =>
    have healthy := (still.routes _ served).1
    rw [Dict.get?_erase_self] at healthy
    cases healthy
  | canaryLost served =>
    have answered := (still.routes _ served).2
    rw [Dict.get?_erase_self] at answered
    cases answered
  | endpointLost => exact still.endpoint.1 rfl
  | gatewayLost production => exact absurd (still.endpoint.2 production).1 fun held => by cases held

end Disturbed

section Sound

theorem sessions_coordinated (allocation : Allocation) (calls : List SessionCall) {rank : Int}
    (planned : rank ∈ allocation.binding.ranks) :
    ((calls.foldl (Coordinator.step allocation) (.create allocation)).sessions.get? rank).isSome := by
  induction calls using List.reverseRecOn with
  | nil =>
    simp only [List.foldl_nil, Coordinator.create, Dict.get?_ofKeys, if_pos planned, Option.isSome_some]
  | append_singleton calls call ih =>
    rw [List.foldl_append, List.foldl_cons, List.foldl_nil, Coordinator.step_session, Option.isSome_map]
    exact ih

/-- Whatever the setters were called with, and whatever became of the sessions: a true verdict
    means that the evidence is that of the plan, and it does not outlive any piece of it. -/
theorem ready_matches_plan (setting : Setting) (allocation : Allocation) (same : allocation.binding = setting.binding)
    (calls : List SessionCall) (ledger : Compat.Ledger) (now : State.Status.Reading) (inputs : List Input)
    (ready : (evaluate setting (some (calls.foldl (Coordinator.step allocation) (.create allocation))) ledger now
      (setAll setting inputs {})).ready = true) :
    (∃ nodeOf, MatchesPlan setting (calls.foldl (Coordinator.step allocation) (.create allocation)) ledger
      (setAll setting inputs {}) nodeOf) ∧
    ∀ sessions' ledger' evidence', Disturbed setting (calls.foldl (Coordinator.step allocation) (.create allocation))
      ledger (setAll setting inputs {}) sessions' ledger' evidence' →
      (evaluate setting (some sessions') ledger' now evidence').ready = false := by
  have clear := ready_iff_clear.mp ready
  have coordinated : ∀ rank ∈ setting.binding.ranks,
      ((calls.foldl (Coordinator.step allocation) (.create allocation)).sessions.get? rank).isSome := by
    intro rank planned
    exact sessions_coordinated allocation calls (same ▸ planned)
  refine ⟨?_, ?_⟩
  · have first : (0 : Int) ∈ setting.binding.ranks := by
      rw [AllocationBinding.mem_ranks_iff, setting.ranks_agree]
      have least := setting.plan.numNodes.property
      omega
    obtain ⟨name, listed, -⟩ := entry_of_rank setting.binding first
    obtain ⟨fallback, -⟩ := clear.matched _ listed
    exact ⟨_, clear.matches_plan coordinated fallback⟩
  · intro sessions' ledger' evidence' disturbed
    rw [Bool.eq_false_iff]
    intro still
    exact clear.not_of_disturbed disturbed (ready_iff_clear.mp still)

end Sound

section Sample

/-- One model of one replica on one node. -/
def samplePlan : DeploymentPlan :=
  (compileDeploymentPlan (sampleSections ⟨1, one_counts⟩ false) []
    (some (.arr [.obj [("model_id", .str "m"), ("num_replicas", .int 1)]]))).toOption.get (by decide +kernel)

def sampleBinding : AllocationBinding where
  deploymentId := samplePlan.deploymentId.val
  generation := 1
  deploymentPlanHash := samplePlan.deploymentPlanHash.val
  siteProfileHash := samplePlan.siteProfileHash.val
  schedulerAllocationId := "j"
  rankToNode := [(0, "n0")]
  allocationBindingHash := sampleDigest.val
  ranks_contiguous := rfl
  nodes_named := by decide +kernel
  nodes_distinct := by simp

def sampleSetting : Setting where
  plan := samplePlan
  binding := sampleBinding
  profile := { python := "3.12", ray := "2.49", vllm := "0.11", patches := [] }
  timestamp := fun _ => some true
  upper := fun text => String.ofList (text.toList.map Char.toUpper)
  applications := {"_exaserve_proxy_anchor_r0", "m"}
  named := eq_ok_of_toOption (by decide +kernel)
  deployment_agrees := rfl
  plan_agrees := rfl
  site_agrees := rfl
  ranks_agree := by decide +kernel

def sampleReceipt (slot : String) : Compat.Receipt where
  deploymentId := samplePlan.deploymentId.val
  generation := 1
  deploymentPlanHash := samplePlan.deploymentPlanHash.val
  siteProfileHash := samplePlan.siteProfileHash.val
  allocationBindingHash := sampleDigest.val
  compatibilityProfileHash := sampleDigest.val
  manifestHash := sampleDigest.val
  receiptRequirementId := slot
  role := "replica"
  componentId := slot
  instanceId := "i"
  ownerScope := .global
  ownerRank := none
  nodeId := "n0"
  pid := some 7
  actorId := none
  executableHash := sampleDigest.val
  argvHash := none
  preparedEnvironmentHash := sampleDigest.val
  observedVersions := []
  observedPackageHashes := []
  observedSourceHashes := []
  patchResults := []
  capabilities := []
  attestationType := .self
  attestedAt := "2026-01-01T00:00:00+00:00"
  receiptHash := sampleDigest.val

def sampleLedger : Compat.Ledger := { bySlot := Dict.ofKeys samplePlan.requirementIds sampleReceipt }

def sampleInputs (proxyStatus : String) : List Input :=
  [.advertisedEndpoint (.str "http://n0:8080"), .gateway (.bool true) (.bool true), .route (.str "m") (.bool true),
    .canary (.str "m") (.bool true), .replicas (.str "m") (.int 1) (.int 1), .rankComponent (.int 0) (.bool true),
    .ownedComponent (.str "rank_launcher") (.bool true), .ownedComponent (.str "deployment") (.bool true),
    .applications (.arr [.str "_exaserve_proxy_anchor_r0", .str "m"]),
    .cluster (.arr [.obj [("node_id", .str "node0"), ("node_name", .str "n0.site"), ("node_address", .str "10.0.0.1"),
      ("alive", .bool true), ("cpu", .int 64), ("gpu", .int 4)]])
      (.arr [.obj [("node_id", .str "node0"), ("status", .str proxyStatus)]])]

def sampleAllocation : Allocation := ⟨{}, sampleBinding⟩

def sampleSessions : Coordinator :=
  Coordinator.soloRegistration.foldl (Coordinator.step sampleAllocation) (.create sampleAllocation)

def sampleReading : State.Status.Reading := ⟨one, by decide +kernel⟩

def sampleNode : NodeView where
  nodeId := ⟨"node0", by decide⟩
  nodeName := ⟨"n0.site", by decide⟩
  nodeAddress := ⟨"10.0.0.1", by decide⟩
  alive := true
  cpu := ⟨.int 64, by decide +kernel⟩
  gpu := ⟨.int 4, by decide +kernel⟩

def sampleEvidence : Evidence := setAll sampleSetting (sampleInputs "HEALTHY") {}

/-- What is evaluated of the sample. -/
theorem sample_evaluated :
    ((∀ rank ∈ sampleSessions.sessions.keys, sampleSessions.holdsEstablished rank = true) ∧
      sampleSessions.generationState ≠ .terminal) ∧
    (nodeMatches sampleEvidence "n0" = [sampleNode] ∧
      (∀ node ∈ aliveNodes sampleEvidence, node.id ∈ matchedIds sampleSetting sampleEvidence) ∧
      expectedProxyIds sampleSetting sampleEvidence = {"node0"} ∧
      proxyStatus sampleSetting sampleEvidence "node0" = some "HEALTHY" ∧ isHealthy "HEALTHY" = true ∧
      ∀ proxy ∈ sampleEvidence.proxies.items, proxy.id ∈ expectedProxyIds sampleSetting sampleEvidence) ∧
    ((∀ rank ∈ sampleBinding.ranks, sampleEvidence.rankComponents.get? rank = some true) ∧
      (∀ componentId ∈ ownedComponentIds, sampleEvidence.ownedComponents.get? componentId = some true) ∧
      sampleEvidence.applicationNames = sampleSetting.applications) ∧
    (∀ model ∈ samplePlan.models,
      observedReplicas sampleEvidence model.modelId = (model.numReplicas, model.numReplicas) ∧
        sampleEvidence.routesOk.get? model.routeName = some true ∧
        sampleEvidence.canaryOk.get? model.modelId = some true) ∧
    sampleEvidence.advertisedEndpoint ≠ "" ∧ sampleEvidence.gatewayAlive = some true ∧
      sampleEvidence.gatewayHealthy = some true := by
  decide +kernel

theorem sample_resources : HasResources sampleSetting sampleNode := by
  unfold HasResources
  decide +kernel

theorem sample_clear : Clear sampleSetting sampleSessions sampleLedger sampleEvidence := by
  obtain ⟨⟨established, alive⟩, ⟨single, planned, expectedIds, status, healthy, expected⟩,
    ⟨components, owned, applications⟩, models, endpoint, gatewayAlive, gatewayHealthy⟩ := sample_evaluated
  refine ⟨established, alive, ?_, planned, components, owned, applications, ?_, expected, ?_,
    fun model served => (models model served).1, ⟨endpoint, fun _ => ⟨gatewayAlive, gatewayHealthy⟩⟩,
    fun model served => (models model served).2⟩
  · intro entry listed
    have only : entry = (0, "n0") := List.mem_singleton.mp listed
    exact ⟨sampleNode, only ▸ single, sample_resources⟩
  · intro id inside
    rw [expectedIds, Finset.mem_singleton] at inside
    subst inside
    exact ⟨"HEALTHY", status, healthy⟩
  · intro slot
    rw [← Dict.isSome_get?_iff]
    show slot ∈ samplePlan.requirementIds ↔ ((Dict.ofKeys samplePlan.requirementIds sampleReceipt).get? slot).isSome
    rw [Dict.get?_ofKeys]
    split <;> simp_all

theorem one_node_ready : (evaluate sampleSetting (some sampleSessions) sampleLedger sampleReading
    sampleEvidence).ready = true ∧
    ∃ nodeOf, MatchesPlan sampleSetting sampleSessions sampleLedger sampleEvidence nodeOf := by
  have ready : (evaluate sampleSetting (some sampleSessions) sampleLedger sampleReading sampleEvidence).ready = true :=
    ready_iff_clear.mpr sample_clear
  exact ⟨ready, (ready_matches_plan sampleSetting sampleAllocation rfl Coordinator.soloRegistration sampleLedger
    sampleReading (sampleInputs "HEALTHY") ready).1⟩

end Sample

end ExaServe.Control.Readiness
