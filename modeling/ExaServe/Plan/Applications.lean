import Mathlib.Data.Finset.Card
import Mathlib.Data.Finset.Range
import Mathlib.Data.Finset.Union
import ExaServe.Lib.Dict
import ExaServe.Lib.Padded
import ExaServe.Plan.Placement

namespace ExaServe.Plan

open Lib Control

section Groups

/-- The replicas of each rank and the devices they take there. -/
structure NodeGroups where
  byRank : List (Nat × List Nat) := []
  devicesByRank : List (Nat × Finset Nat) := []

def NodeGroups.add (groups : NodeGroups) (replica : ReplicaPlan) : Except Raised NodeGroups :=
  match replica.plannedRanks, replica.plannedDeviceIds with
  | [rank], [devices] => .ok {
      byRank := appendEntry rank replica.replicaIndex groups.byRank
      devicesByRank := putEntry rank
        ((findEntry rank groups.devicesByRank).getD ∅ ∪ devices.toFinset) groups.devicesByRank }
  | _, _ => .error (planError "node-grouped null replica must occupy one planned rank")

/-- The groups in the order of their ranks, each in the order of its replicas. -/
def NodeGroups.ordered (groups : NodeGroups) : List (Nat × List Nat) :=
  (groups.byRank.insertionSort fun left right => left.1 ≤ right.1).map fun group =>
    (group.1, group.2.insertionSort (· ≤ ·))

namespace DeploymentFields

variable (plan : DeploymentFields)

/-- The layouts that are served by one application a node. -/
def nodeGrouped (model : ModelPlan) : Prop :=
  plan.runtime.nullCompute = true ∧ plan.usesHeadOnlyServeProxy = false ∧ plan.gatewayKind = some .haproxy ∧
    plan.models.length = 1 ∧ model ∈ plan.models ∧ 1 < model.numReplicas ∧
    model.numReplicas = plan.numNodes.val * plan.numGpusPerNode.val ∧ model.tensorParallelSize = 1 ∧
    model.pipelineParallelSize = 1

instance (model : ModelPlan) : Decidable (plan.nodeGrouped model) :=
  inferInstanceAs (Decidable (_ ∧ _ ∧ _ ∧ _ ∧ _ ∧ _ ∧ _ ∧ _ ∧ _))

def nodeGroupedNullApplicationGroups (model : ModelPlan) : Except Raised (List (Nat × List Nat)) :=
  if plan.nodeGrouped model then do
    let collected ← model.replicas.foldlM NodeGroups.add {}
    let groups := collected.ordered
    let expected := Finset.range plan.numGpusPerNode.val
    if groups.map Prod.fst ≠ List.range plan.numNodes.val ∨
        (groups.any fun group => group.2.length ≠ plan.numGpusPerNode.val) ∨
        (groups.any fun group => (findEntry group.1 collected.devicesByRank).getD ∅ ≠ expected) then .ok []
    else do
      let observed := (groups.flatMap Prod.snd).insertionSort (· ≤ ·)
      let _ ← require (observed = List.range model.numReplicas)
        "node-grouped null applications do not cover exact replica slots"
      .ok groups
  else .ok []

end DeploymentFields

end Groups

section Names

def proxyAnchorAppPrefix : String := "_exaserve_proxy_anchor_r"

def anchorName (rank : Nat) : String := s!"{proxyAnchorAppPrefix}{rank}"

/-- The name of a part of a model. -/
def partName (mark : Char) (route : String) (index : Nat) : String := s!"{route}_{mark}{index}"

def groupName (route : String) (index : Nat) : String := partName 'g' route index

def replicaName (route : String) (index : Nat) : String := partName 'r' route index

namespace DeploymentFields

variable (plan : DeploymentFields)

def plannedProxyAnchorNames : Finset String :=
  if plan.usesHeadOnlyServeProxy then ∅ else (Finset.range plan.numNodes.val).image anchorName

/-- The names one model adds to the set. -/
def modelApplicationNames (model : ModelPlan) : Except Raised (Finset String) :=
  if plan.usesHeadOnlyServeProxy then .ok {model.routeName}
  else do
    let groups ← plan.nodeGroupedNullApplicationGroups model
    if groups ≠ [] then .ok ((Finset.range groups.length).image (groupName model.routeName))
    else if 1 < model.numReplicas then .ok ((Finset.range model.numReplicas).image (replicaName model.routeName))
    else .ok {model.routeName}

def addApplicationNames (names : Finset String) (model : ModelPlan) : Except Raised (Finset String) := do
  let added ← plan.modelApplicationNames model
  .ok (names ∪ added)

def plannedApplicationNames : Except Raised (Finset String) :=
  plan.models.foldlM plan.addApplicationNames plan.plannedProxyAnchorNames

end DeploymentFields

end Names

/-- What a plan has Serve run: an application each. -/
inductive PlannedUnit where
  | anchor (rank : Nat)
  | model (route : String)
  | group (route : String) (index : Nat)
  | replica (route : String) (index : Nat)
  deriving DecidableEq

namespace PlannedUnit

def name : PlannedUnit → String
  | anchor rank => anchorName rank
  | model route => route
  | group route index => groupName route index
  | replica route index => replicaName route index

end PlannedUnit

namespace DeploymentFields

variable (plan : DeploymentFields)

def anchorUnits : List PlannedUnit :=
  if plan.usesHeadOnlyServeProxy then [] else (List.range plan.numNodes.val).map .anchor

/-- The units of one model: itself, its node groups or its replicas. -/
def modelUnits (model : ModelPlan) : Except Raised (List PlannedUnit) :=
  if plan.usesHeadOnlyServeProxy then .ok [.model model.routeName]
  else do
    let groups ← plan.nodeGroupedNullApplicationGroups model
    if groups ≠ [] then .ok ((List.range groups.length).map (.group model.routeName))
    else if 1 < model.numReplicas then .ok ((List.range model.numReplicas).map (.replica model.routeName))
    else .ok [.model model.routeName]

def plannedUnits : Except Raised (List PlannedUnit) := do
  let units ← plan.models.mapM plan.modelUnits
  .ok (plan.anchorUnits ++ units.flatten)

end DeploymentFields

section Routes

theorem toLower_ne_underscore {c : Char} (plain : c.isAlphanum = true) : c.toLower ≠ '_' := by
  intro low
  unfold Char.toLower at low
  split at low
  · rename_i upper
    have code := congrArg Char.toNat low
    have least : 65 ≤ c.toNat := upper.1
    have most : c.toNat ≤ 90 := upper.2
    have shift : ('a'.val - 'A'.val).toNat = 32 := by decide
    simp only [Char.toNat, Char.reduceVal, UInt32.reduceToNat, UInt32.toNat_add] at code least most shift
    omega
  · subst low
    revert plain
    decide

theorem stripDashes_cons {c : Char} (rest : List Char) (first : c ≠ '-') :
    ∃ others, stripDashes (c :: rest) = c :: others := by
  refine ⟨(rest.reverse.dropWhile (· = '-')).reverse, ?_⟩
  unfold stripDashes
  rw [List.dropWhile_cons_of_neg (by simpa using first), List.reverse_cons, List.dropWhile_append]
  split
  · rename_i empty
    rw [List.dropWhile_cons_of_neg (by simpa using first), List.isEmpty_iff.mp empty]
    rfl
  · rw [List.reverse_append]
    rfl

theorem SafeModelId.head {modelId : String} (safe : SafeModelId modelId) :
    ∃ c rest, modelId.toList = c :: rest ∧ c.isAlphanum = true := by
  have segments := safe.segments
  cases letters : modelId.toList with
  | nil => exact absurd (String.ext letters) safe.bounded.1
  | cons c rest =>
    refine ⟨c, rest, rfl, ?_⟩
    rw [letters, splitOn] at segments
    split at segments
    · simp [isIdSegment] at segments
    · split at segments
      all_goals simp only [List.all_cons, isIdSegment, Bool.and_eq_true] at segments
      all_goals exact segments.1.1

/-- A route starts with the first character of its model, which is a letter or a digit. -/
theorem routeName_head {modelId : String} (safe : SafeModelId modelId) :
    ∃ c rest, (routeName (storageName modelId)).toList = c :: rest ∧ c ≠ '_' := by
  obtain ⟨c, rest, letters, plain⟩ := safe.head
  have kept : c ≠ '/' ∧ c ≠ '-' := by
    constructor
    all_goals
      rintro rfl
      revert plain
      decide
  unfold routeName storageName
  simp only [letters, List.flatMap_cons, if_neg kept.1, String.toList_ofList, List.singleton_append, List.map_cons,
    plain, Bool.true_or, if_true]
  obtain ⟨others, stripped⟩ := stripDashes_cons (((rest.flatMap fun c => if c = '/' then ['-', '-'] else [c])).map
    fun c => if c.isAlphanum || c = '_' || c = '-' then c else '-') kept.2
  refine ⟨c.toLower, others.map Char.toLower, ?_, toLower_ne_underscore plain⟩
  rw [stripped, List.map_cons]

theorem partName_toList (mark : Char) (route : String) (index : Nat) :
    (partName mark route index).toList = (route.toList ++ ['_']) ++ mark :: Nat.toDigits 10 index := by
  simp [partName, toString]

end Routes

section Covered

theorem insertionSort_eq_range {numbers : List Nat} {count : Nat} (same : numbers.Perm (List.range count)) :
    numbers.insertionSort (· ≤ ·) = List.range count := by
  refine List.Perm.eq_of_pairwise ?_ (List.pairwise_insertionSort (· ≤ ·) numbers) List.pairwise_le_range
    ((List.perm_insertionSort _ numbers).trans same)
  intro a b _ _ first second
  omega

/-- Replicas of one stage are all collected. -/
theorem collect_ok {replicas : List ReplicaPlan} (single : ∀ replica ∈ replicas, replica.pipelineParallelSize = 1)
    (groups : NodeGroups) : ∃ collected, replicas.foldlM NodeGroups.add groups = .ok collected ∧
      (collected.byRank.flatMap Prod.snd).Perm
        (groups.byRank.flatMap Prod.snd ++ replicas.map ReplicaPlan.replicaIndex) := by
  induction replicas generalizing groups with
  | nil => exact ⟨groups, rfl, by simp⟩
  | cons replica rest ih =>
    have one := single replica List.mem_cons_self
    obtain ⟨rank, ranks⟩ := List.length_eq_one_iff.mp (replica.stages.trans one)
    obtain ⟨devices, groupsOf⟩ := List.length_eq_one_iff.mp (replica.aligned.trans (replica.stages.trans one))
    obtain ⟨collected, done, items⟩ := ih (fun other member => single other (List.mem_cons_of_mem _ member))
      { byRank := appendEntry rank replica.replicaIndex groups.byRank
        devicesByRank := putEntry rank
          ((findEntry rank groups.devicesByRank).getD ∅ ∪ devices.toFinset) groups.devicesByRank }
    refine ⟨collected, ?_, ?_⟩
    · rw [List.foldlM_cons]
      unfold NodeGroups.add
      rw [ranks, groupsOf]
      exact done
    · refine items.trans (((appendEntry_items _ _ _).append_right _).trans ?_)
      simp

theorem ordered_items (groups : NodeGroups) :
    (groups.ordered.flatMap Prod.snd).Perm (groups.byRank.flatMap Prod.snd) := by
  unfold NodeGroups.ordered
  rw [List.flatMap_map]
  have inner := List.Perm.flatMap_left (groups.byRank.insertionSort fun left right => left.1 ≤ right.1)
    fun group _ => List.perm_insertionSort (· ≤ ·) group.2
  exact inner.trans ((List.perm_insertionSort _ groups.byRank).flatMap_right Prod.snd)

/-- The groups of a compiled plan are always found: its replicas have one stage where the model
    has one, and they are numbered in order. -/
theorem Compiled.groups_ok {plan : DeploymentFields} (compiled : Compiled plan) (model : ModelPlan) :
    ∃ groups, plan.nodeGroupedNullApplicationGroups model = .ok groups ∧
      (groups ≠ [] → plan.models.length = 1) := by
  unfold DeploymentFields.nodeGroupedNullApplicationGroups
  split
  · rename_i dense
    obtain ⟨-, -, -, alone, member, -, -, -, single⟩ := dense
    have stages : ∀ replica ∈ model.replicas, replica.pipelineParallelSize = 1 := fun replica inside =>
      (compiled.sized model member replica inside).2.trans single
    obtain ⟨collected, done, items⟩ := collect_ok stages {}
    rw [ok_bind done]
    have covered : (collected.ordered.flatMap Prod.snd).insertionSort (· ≤ ·) =
        List.range model.numReplicas := by
      refine insertionSort_eq_range ((ordered_items collected).trans ?_)
      rw [← compiled.numbered model member]
      simpa using items
    dsimp only
    split
    · exact ⟨[], rfl, fun some_groups => absurd rfl some_groups⟩
    · refine ⟨collected.ordered, ?_, fun _ => alone⟩
      rw [ok_bind (require_ok covered _)]
  · exact ⟨[], rfl, fun some_groups => absurd rfl some_groups⟩

end Covered

section Distinct

variable {plan : DeploymentFields}

/-- What is known of a unit of a compiled plan. -/
def DeploymentFields.Plans (plan : DeploymentFields) : PlannedUnit → Prop
  | .anchor rank => rank < plan.numNodes.val
  | .model route => ∃ model ∈ plan.models, model.routeName = route ∧ (plan.models.length = 1 ∨ model.numReplicas = 1)
  | .group route _ => plan.models.length = 1 ∧ ∃ model ∈ plan.models, model.routeName = route
  | .replica route index => ∃ model ∈ plan.models, model.routeName = route ∧ 1 < model.numReplicas ∧
      index < model.numReplicas

/-- The route a unit serves. -/
def PlannedUnit.route? : PlannedUnit → Option String
  | .anchor _ => none
  | .model route | .group route _ | .replica route _ => some route

theorem image_range (name : Nat → String) (count : Nat) :
    (Finset.range count).image name = ((List.range count).map name).toFinset := by
  ext text
  simp

/-- The units of a model are planned, serve its route and are listed once. Where models share
    the plan, they are the model or its replicas. -/
theorem Compiled.modelUnits_ok (compiled : Compiled plan) {model : ModelPlan} (member : model ∈ plan.models) :
    ∃ units, plan.modelUnits model = .ok units ∧ units.Nodup ∧
      (∀ unit ∈ units, plan.Plans unit ∧ unit.route? = some model.routeName) ∧
      plan.modelApplicationNames model = .ok (units.map PlannedUnit.name).toFinset ∧
      (plan.models.length ≠ 1 → (model.numReplicas = 1 → .model model.routeName ∈ units) ∧
        (1 < model.numReplicas → ∀ index < model.numReplicas, .replica model.routeName index ∈ units)) := by
  unfold DeploymentFields.modelUnits DeploymentFields.modelApplicationNames
  split
  · rename_i headOnly
    have alone := compiled.facts.alone headOnly
    refine ⟨_, rfl, List.nodup_singleton _, ?_, rfl, fun several => absurd alone several⟩
    intro unit inside
    rw [List.mem_singleton] at inside
    subst inside
    exact ⟨⟨model, member, rfl, .inl alone⟩, rfl⟩
  · obtain ⟨groups, found, alone⟩ := compiled.groups_ok model
    rw [ok_bind found, ok_bind found]
    by_cases some_groups : groups ≠ []
    · rw [if_pos some_groups, if_pos some_groups]
      refine ⟨_, rfl, ?_, ?_, ?_, fun several => absurd (alone some_groups) several⟩
      · exact List.nodup_range.map fun a b same => by cases same; rfl
      · intro unit inside
        obtain ⟨index, -, rfl⟩ := List.mem_map.mp inside
        exact ⟨⟨alone some_groups, model, member, rfl⟩, rfl⟩
      · rw [List.map_map, image_range]
        rfl
    · rw [if_neg some_groups, if_neg some_groups]
      split
      · rename_i many
        refine ⟨_, rfl, ?_, ?_, ?_, fun _ => ⟨fun one => absurd one (by omega), ?_⟩⟩
        · exact List.nodup_range.map fun a b same => by cases same; rfl
        · intro unit inside
          obtain ⟨index, below, rfl⟩ := List.mem_map.mp inside
          exact ⟨⟨model, member, rfl, many, List.mem_range.mp below⟩, rfl⟩
        · rw [List.map_map, image_range]
          rfl
        · intro _ index below
          exact List.mem_map.mpr ⟨index, List.mem_range.mpr below, rfl⟩
      · rename_i few
        have one : model.numReplicas = 1 := by
          have least := model.positive.2.2.2.2.2
          omega
        refine ⟨_, rfl, List.nodup_singleton _, ?_, rfl, fun _ => ⟨fun _ => List.mem_singleton.mpr rfl, ?_⟩⟩
        · intro unit inside
          rw [List.mem_singleton] at inside
          subst inside
          exact ⟨⟨model, member, rfl, .inr one⟩, rfl⟩
        · intro many
          exact absurd many few

theorem mem_anchorUnits {unit : PlannedUnit} (member : unit ∈ plan.anchorUnits) :
    ∃ rank < plan.numNodes.val, unit = .anchor rank := by
  unfold DeploymentFields.anchorUnits at member
  split at member
  · cases member
  · obtain ⟨rank, below, rfl⟩ := List.mem_map.mp member
    exact ⟨rank, List.mem_range.mp below, rfl⟩

theorem anchorUnits_nodup (plan : DeploymentFields) : plan.anchorUnits.Nodup := by
  unfold DeploymentFields.anchorUnits
  split
  · exact List.nodup_nil
  · exact List.nodup_range.map fun a b same => by cases same; rfl

theorem plannedProxyAnchorNames_eq (plan : DeploymentFields) :
    plan.plannedProxyAnchorNames = (plan.anchorUnits.map PlannedUnit.name).toFinset := by
  unfold DeploymentFields.plannedProxyAnchorNames DeploymentFields.anchorUnits
  split
  · rfl
  · rw [image_range, List.map_map]
    rfl

theorem addApplicationNames_all {unitsOf : ModelPlan → List PlannedUnit} {models : List ModelPlan}
    (named : ∀ model ∈ models,
      plan.modelApplicationNames model = .ok ((unitsOf model).map PlannedUnit.name).toFinset)
    (start : Finset String) : models.foldlM plan.addApplicationNames start =
      .ok (start ∪ ((models.flatMap unitsOf).map PlannedUnit.name).toFinset) := by
  induction models generalizing start with
  | nil => simp; rfl
  | cons model rest ih =>
    have first : plan.addApplicationNames start model =
        .ok (start ∪ ((unitsOf model).map PlannedUnit.name).toFinset) := by
      unfold DeploymentFields.addApplicationNames
      rw [ok_bind (named model List.mem_cons_self)]
    rw [List.foldlM_cons, ok_bind first, ih fun other member => named other (List.mem_cons_of_mem _ member),
      List.flatMap_cons, List.map_append, List.toFinset_append, Finset.union_assoc]

/-- The units of a compiled plan: each planned, listed once, and named as the set has them. -/
theorem Compiled.plannedUnits_ok (compiled : Compiled plan) :
    ∃ units, plan.plannedUnits = .ok units ∧ units.Nodup ∧ (∀ unit ∈ units, plan.Plans unit) ∧
      plan.plannedApplicationNames = .ok (units.map PlannedUnit.name).toFinset ∧
      (plan.models.length ≠ 1 → ∀ model ∈ plan.models, (model.numReplicas = 1 → .model model.routeName ∈ units) ∧
        (1 < model.numReplicas → ∀ index < model.numReplicas, .replica model.routeName index ∈ units)) := by
  choose! unitsOf found nodup planned named listed using fun model => @Compiled.modelUnits_ok plan compiled model
  have mapped : plan.models.mapM plan.modelUnits = .ok (plan.models.map unitsOf) := mapM_ok found
  refine ⟨plan.anchorUnits ++ plan.models.flatMap unitsOf, ?_, ?_, ?_, ?_, ?_⟩
  · unfold DeploymentFields.plannedUnits
    rw [ok_bind mapped, List.flatMap_def]
  · refine List.nodup_append'.mpr ⟨anchorUnits_nodup plan, List.nodup_flatMap.mpr ⟨nodup, ?_⟩, ?_⟩
    · refine List.Pairwise.imp_of_mem ?_ (List.pairwise_map.mp compiled.facts.routes)
      intro left right leftMember rightMember apart unit inLeft inRight
      have same := (planned left leftMember unit inLeft).2.symm.trans (planned right rightMember unit inRight).2
      exact apart (Option.some.inj same)
    · intro unit anchor served
      obtain ⟨rank, -, rfl⟩ := mem_anchorUnits anchor
      obtain ⟨model, member, inside⟩ := List.mem_flatMap.mp served
      exact absurd (planned model member _ inside).2 nofun
  · intro unit inside
    rcases List.mem_append.mp inside with anchor | served
    · obtain ⟨rank, below, rfl⟩ := mem_anchorUnits anchor
      exact below
    · obtain ⟨model, member, inside⟩ := List.mem_flatMap.mp served
      exact (planned model member unit inside).1
  · unfold DeploymentFields.plannedApplicationNames
    rw [addApplicationNames_all named, plannedProxyAnchorNames_eq, List.map_append, List.toFinset_append]
  · intro several model member
    obtain ⟨single, many⟩ := listed model member several
    exact ⟨fun one => List.mem_append_right _ (List.mem_flatMap.mpr ⟨model, member, single one⟩),
      fun more index below => List.mem_append_right _ (List.mem_flatMap.mpr ⟨model, member, many more index below⟩)⟩

/-- A model served by one application whose route is the name of another model's replica. -/
def DeploymentFields.Shadowed (plan : DeploymentFields) : Prop :=
  ∃ model ∈ plan.models, ∃ other ∈ plan.models, 1 < model.numReplicas ∧ other.numReplicas = 1 ∧
    ∃ index < model.numReplicas, other.routeName = replicaName model.routeName index

instance (plan : DeploymentFields) : Decidable plan.Shadowed :=
  inferInstanceAs (Decidable (∃ model ∈ plan.models, _))

theorem Compiled.route_head (compiled : Compiled plan) {model : ModelPlan} (member : model ∈ plan.models) :
    ∃ c rest, model.routeName.toList = c :: rest ∧ c ≠ '_' := by
  rw [compiled.routed model member]
  exact routeName_head model.identified

theorem anchorName_toList (rank : Nat) :
    (anchorName rank).toList = "_exaserve_proxy_anchor_".toList ++ 'r' :: Nat.toDigits 10 rank := by
  simp [anchorName, proxyAnchorAppPrefix, toString]

/-- An anchor has no name of a model. -/
theorem Compiled.anchor_apart (compiled : Compiled plan) {unit : PlannedUnit} (planned : plan.Plans unit)
    {rank : Nat} (same : unit.name = anchorName rank) : unit = .anchor rank := by
  have letters := congrArg String.toList same
  rw [anchorName_toList] at letters
  have apart {model : ModelPlan} (member : model ∈ plan.models) {rest : List Char}
      (starts : model.routeName.toList ++ rest = '_' :: "exaserve_proxy_anchor_".toList ++ 'r' :: Nat.toDigits 10 rank) :
      False := by
    obtain ⟨c, others, route, plain⟩ := compiled.route_head member
    rw [route] at starts
    exact plain (List.cons.inj starts).1
  cases unit with
  | anchor other =>
    change (anchorName other).toList = _ at letters
    rw [anchorName_toList] at letters
    rw [(digits_suffix_inj (by decide) (by decide) letters).2.2]
  | model route =>
    obtain ⟨model, member, rfl, -⟩ := planned
    exact (apart member ((List.append_nil _).trans letters)).elim
  | group route index =>
    obtain ⟨-, model, member, rfl⟩ := planned
    change (partName 'g' model.routeName index).toList = _ at letters
    rw [partName_toList, List.append_assoc] at letters
    exact (apart member letters).elim
  | replica route index =>
    obtain ⟨model, member, rfl, -⟩ := planned
    change (partName 'r' model.routeName index).toList = _ at letters
    rw [partName_toList, List.append_assoc] at letters
    exact (apart member letters).elim

theorem partName_ne (mark : Char) (route : String) (index : Nat) : route ≠ partName mark route index := by
  intro same
  have lengths := congrArg (fun text => text.toList.length) same
  simp only [partName_toList, List.length_append, List.length_cons] at lengths
  omega

theorem eq_of_alone {models : List ModelPlan} (alone : models.length = 1) {left right : ModelPlan}
    (leftMember : left ∈ models) (rightMember : right ∈ models) : left = right := by
  obtain ⟨model, rfl⟩ := List.length_eq_one_iff.mp alone
  rw [List.mem_singleton.mp leftMember, List.mem_singleton.mp rightMember]

/-- A model has the name of a replica only when one shadows the other. -/
theorem shadowed_of_model {route replicated : String} {index : Nat} (served : plan.Plans (.model route))
    (planned : plan.Plans (.replica replicated index)) (same : route = replicaName replicated index) :
    plan.Shadowed := by
  obtain ⟨other, otherMember, rfl, single⟩ := served
  obtain ⟨model, member, rfl, many, below⟩ := planned
  refine ⟨model, member, other, otherMember, many, ?_, index, below, same⟩
  rcases single with alone | single
  · rw [eq_of_alone alone otherMember member] at same
    exact absurd same (partName_ne _ _ _)
  · exact single

theorem model_ne_group {route grouped : String} {index : Nat} (served : plan.Plans (.model route))
    (planned : plan.Plans (.group grouped index)) : route ≠ groupName grouped index := by
  obtain ⟨other, otherMember, rfl, -⟩ := served
  obtain ⟨alone, model, member, rfl⟩ := planned
  rw [eq_of_alone alone otherMember member]
  exact partName_ne _ _ _

theorem partName_inj {mark other : Char} (marks : mark.isDigit = false) (others : other.isDigit = false)
    {left right : String} {i j : Nat} (same : partName mark left i = partName other right j) :
    mark = other ∧ left = right ∧ i = j := by
  have letters := congrArg String.toList same
  rw [partName_toList, partName_toList] at letters
  obtain ⟨fronts, equal, numbers⟩ := digits_suffix_inj marks others letters
  exact ⟨equal, String.ext (List.append_cancel_right fronts), numbers⟩

theorem Compiled.name_inj (compiled : Compiled plan) (clear : ¬ plan.Shadowed) {left right : PlannedUnit}
    (leftPlanned : plan.Plans left) (rightPlanned : plan.Plans right) (same : left.name = right.name) :
    left = right := by
  cases left with
  | anchor rank => exact (compiled.anchor_apart rightPlanned same.symm).symm
  | model route =>
    cases right with
    | anchor rank => exact compiled.anchor_apart leftPlanned same
    | model other => exact congrArg PlannedUnit.model same
    | group other index => exact absurd same (model_ne_group leftPlanned rightPlanned)
    | replica other index => exact absurd (shadowed_of_model leftPlanned rightPlanned same) clear
  | group route index =>
    cases right with
    | anchor rank => exact compiled.anchor_apart leftPlanned same
    | model other => exact absurd same.symm (model_ne_group rightPlanned leftPlanned)
    | group other position =>
      obtain ⟨-, rfl, rfl⟩ := partName_inj (by decide) (by decide) same
      rfl
    | replica other position => exact absurd (partName_inj (by decide) (by decide) same).1 (by decide)
  | replica route index =>
    cases right with
    | anchor rank => exact compiled.anchor_apart leftPlanned same
    | model other => exact absurd (shadowed_of_model rightPlanned leftPlanned same.symm) clear
    | group other position => exact absurd (partName_inj (by decide) (by decide) same).1 (by decide)
    | replica other position =>
      obtain ⟨-, rfl, rfl⟩ := partName_inj (by decide) (by decide) same
      rfl

theorem toFinset_card_eq_iff {texts : List String} : texts.toFinset.card = texts.length ↔ texts.Nodup := by
  rw [← Multiset.coe_nodup, ← Multiset.toFinset_card_eq_card_iff_nodup]
  rfl

/-- Over every plan the compiler accepts: the units have distinct names, as many as there are
    units, exactly when no model is named as a replica of another. -/
theorem planned_names_distinct_iff {sections : DeploymentSections} {launcherCapabilities : List String}
    {rawModels : Option Json} {deployment : DeploymentPlan}
    (compiled : compileDeploymentPlan sections launcherCapabilities rawModels = .ok deployment) :
    ∃ units names, deployment.plannedUnits = .ok units ∧ deployment.plannedApplicationNames = .ok names ∧
      units.Nodup ∧
      (((∀ left ∈ units, ∀ right ∈ units, left.name = right.name → left = right) ∧ names.card = units.length) ↔
        ¬ deployment.Shadowed) := by
  have known := compiled_of_compile compiled
  obtain ⟨units, found, nodup, planned, named, listed⟩ := known.plannedUnits_ok
  refine ⟨units, _, found, named, nodup, ?_⟩
  rw [show units.length = (units.map PlannedUnit.name).length from (List.length_map _).symm, toFinset_card_eq_iff]
  constructor
  · rintro ⟨distinct, -⟩ ⟨model, member, other, otherMember, many, single, index, below, same⟩
    have several : deployment.models.length ≠ 1 := by
      intro alone
      rw [eq_of_alone alone member otherMember] at many
      omega
    have first := (listed several other otherMember).1 single
    have second := (listed several model member).2 many index below
    exact absurd (distinct _ first _ second same) nofun
  · intro clear
    have distinct : ∀ left ∈ units, ∀ right ∈ units, left.name = right.name → left = right :=
      fun left inLeft right inRight same => known.name_inj clear (planned left inLeft) (planned right inRight) same
    exact ⟨distinct, List.Nodup.map_on distinct nodup⟩

def sampleModel (modelId : String) (numReplicas : Int) : Json :=
  .obj [("model_id", .str modelId), ("num_replicas", .int numReplicas)]

theorem apart_names_distinct : ∃ plan units names,
    compileDeploymentPlan (sampleSections ⟨1, by decide⟩ false) ["ray_serve.run_many"]
        (some (.arr [sampleModel "a" 2, sampleModel "b" 1])) = .ok plan ∧
      plan.plannedUnits = .ok units ∧ plan.plannedApplicationNames = .ok names ∧ names.card = units.length := by
  have accepted : (compileDeploymentPlan (sampleSections ⟨1, by decide⟩ false) ["ray_serve.run_many"]
      (some (.arr [sampleModel "a" 2, sampleModel "b" 1]))).toOption.map
        (fun plan => decide plan.Shadowed) = some false := by decide +kernel
  obtain ⟨plan, compiled, clear⟩ := ok_of_toOption accepted
  obtain ⟨units, names, found, named, -, distinct⟩ := planned_names_distinct_iff compiled
  exact ⟨plan, units, names, compiled, found, named, (distinct.mpr (of_decide_eq_false clear)).2⟩

/-- The second model is deployed under the name of the first one's replica. -/
theorem model_named_as_replica : ∃ plan units names,
    compileDeploymentPlan (sampleSections ⟨1, by decide⟩ false) ["ray_serve.run_many"]
        (some (.arr [sampleModel "a" 2, sampleModel "a_r0" 1])) = .ok plan ∧
      plan.plannedUnits = .ok units ∧ plan.plannedApplicationNames = .ok names ∧
      .replica "a" 0 ∈ units ∧ .model "a_r0" ∈ units ∧
      (PlannedUnit.replica "a" 0).name = (PlannedUnit.model "a_r0").name ∧
      units.length = 4 ∧ names.card = 3 := by
  have accepted : (compileDeploymentPlan (sampleSections ⟨1, by decide⟩ false) ["ray_serve.run_many"]
      (some (.arr [sampleModel "a" 2, sampleModel "a_r0" 1]))).toOption.map
        (fun plan => (plan.plannedUnits.toOption, plan.plannedApplicationNames.toOption.map Finset.card)) =
      some (some [.anchor 0, .replica "a" 0, .replica "a" 1, .model "a_r0"], some 3) := by decide +kernel
  obtain ⟨plan, compiled, evaluated⟩ := ok_of_toOption accepted
  obtain ⟨listed, counted⟩ := Prod.mk.inj evaluated
  have found := eq_ok_of_toOption listed
  obtain ⟨names, named, size⟩ := ok_of_toOption counted
  refine ⟨plan, _, names, compiled, found, named, ?_⟩
  rw [size]
  decide

end Distinct

end ExaServe.Plan
