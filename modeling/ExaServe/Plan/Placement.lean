import ExaServe.Plan.Reservation

namespace ExaServe.Plan

open Lib Control

section Facts

/-- What the constructor of a plan has established of it. -/
structure DeploymentFields.Facts (plan : DeploymentFields) : Prop where
  served : plan.models ≠ []
  alone : plan.usesHeadOnlyServeProxy = true → plan.models.length = 1
  slots : plan.requirementIds.Nodup
  derived : plan.receiptRequirements =
    buildReceiptRequirements plan.numNodes.val plan.models plan.gatewayKind (!plan.runtime.nullCompute)
  modelIds : (plan.models.map fun model => model.modelId).Nodup
  routes : (plan.models.map fun model => model.routeName).Nodup
  ranks : ∀ replica ∈ plan.replicas, ∀ rank ∈ replica.plannedRanks, rank < plan.numNodes.val
  exclusive : (plan.replicas.flatMap ReplicaPlan.occupied).Nodup

theorem checkDevices_ok {gpus : Nat} {taken : List (Nat × Nat)} {devices : List (String × Nat × Nat)}
    (passed : DeploymentFields.checkDevices gpus taken devices = .ok ()) :
    (devices.map Prod.snd).Nodup ∧ ∀ slot ∈ devices.map Prod.snd, slot ∉ taken := by
  induction devices generalizing taken with
  | nil => exact ⟨List.nodup_nil, nofun⟩
  | cons device rest ih =>
    obtain ⟨replicaId, rank, id⟩ := device
    unfold DeploymentFields.checkDevices at passed
    obtain ⟨_, -, passed⟩ := bind_ok passed
    obtain ⟨fresh, -, passed⟩ := bind_ok passed
    obtain ⟨nodup, apart⟩ := ih passed
    refine ⟨List.nodup_cons.mpr ⟨?_, nodup⟩, ?_⟩
    · intro again
      exact apart _ again List.mem_cons_self
    · intro slot member
      rcases List.mem_cons.mp member with rfl | member
      · exact fresh.down
      · intro before
        exact apart slot member (List.mem_cons_of_mem _ before)

theorem DeploymentFields.facts {plan : DeploymentFields} (accepted : plan.postInit = .ok ()) : plan.Facts := by
  obtain ⟨_, models, accepted⟩ := bind_ok accepted
  obtain ⟨served, -, models⟩ := bind_ok models
  obtain ⟨alone, -, models⟩ := bind_ok models
  obtain ⟨_, -, models⟩ := bind_ok models
  obtain ⟨slots, -, -⟩ := bind_ok models
  obtain ⟨_, -, accepted⟩ := bind_ok accepted
  obtain ⟨_, -, accepted⟩ := bind_ok accepted
  obtain ⟨_, topology, -⟩ := bind_ok accepted
  obtain ⟨derived, -, topology⟩ := bind_ok topology
  obtain ⟨modelIds, -, topology⟩ := bind_ok topology
  obtain ⟨routes, -, topology⟩ := bind_ok topology
  obtain ⟨ranks, -, topology⟩ := bind_ok topology
  obtain ⟨_, devices, -⟩ := bind_ok topology
  refine ⟨served.down, alone.down, slots.down, derived.down, modelIds.down, routes.down, ranks.down, ?_⟩
  have distinct := (checkDevices_ok devices).1
  unfold DeploymentFields.plannedDevices at distinct
  rw [List.map_flatMap] at distinct
  simpa [List.map_map, Function.comp_def] using distinct

end Facts

/-- What the passes keep: replicas are numbered in order, have the sizes of their model, and
    take the devices of a rank in increasing order. -/
structure Placed (intents : List ModelIntent) (state : Placing) : Prop where
  numbered : ∀ index, (state.placements index).map ReplicaPlan.replicaIndex =
    List.range (state.placements index).length
  sized : ∀ intent index, (intent, index) ∈ intents.zipIdx → ∀ replica ∈ state.placements index,
    replica.tensorParallelSize = intent.tensorParallelSize ∧
      replica.pipelineParallelSize = intent.pipelineParallelSize
  ascending : ∀ rank, (state.devices rank).Pairwise (· < ·)
  groups : ∀ index, ∀ replica ∈ state.placements index, ∀ group ∈ replica.plannedDeviceIds, group.Pairwise (· < ·)

section Passes

variable {numNodes : Nat} {intents : List ModelIntent}

theorem Placed.reserve {before after : Placing} (placed : Placed intents before) {index : Nat} {intent : ModelIntent}
    (member : (intent, index) ∈ intents.zipIdx)
    (done : Plan.reserve numNodes before index intent = .ok (some after)) : Placed intents after := by
  rcases reserve_cases done with ⟨none, -⟩ | ⟨primary, others, replica, -, added, same⟩
  · cases none
  cases same
  refine ⟨?_, ?_, ?_, ?_⟩
  · intro other
    unfold Placing.reserved
    dsimp only
    split_ifs with same
    · rw [List.map_append, placed.numbered, List.length_append, List.length_singleton, List.range_succ]
      simp [added.replicaIndex]
    · exact placed.numbered other
  · intro given other found probe inside
    unfold Placing.reserved at inside
    dsimp only at inside
    split_ifs at inside with same
    · subst same
      rcases List.mem_append.mp inside with earlier | last
      · exact placed.sized given other found probe earlier
      · rw [List.mem_singleton] at last
        subst last
        have equal : given = intent := by
          rw [List.mem_zipIdx_iff_getElem?] at found member
          exact Option.some.inj (found.symm.trans member)
        rw [equal]
        exact ⟨added.tensorParallelSize, added.pipelineParallelSize⟩
    · exact placed.sized given other found probe inside
  · intro rank
    unfold Placing.reserved
    dsimp only
    split_ifs
    · exact (placed.ascending rank).sublist (List.drop_sublist _ _)
    · exact placed.ascending rank
  · intro other probe inside group belongs
    unfold Placing.reserved at inside
    dsimp only at inside
    split_ifs at inside with same
    · rcases List.mem_append.mp inside with earlier | last
      · exact placed.groups index probe earlier group belongs
      · rw [List.mem_singleton] at last
        subst last
        rw [added.plannedDeviceIds] at belongs
        obtain ⟨rank, -, rfl⟩ := List.mem_map.mp belongs
        exact (placed.ascending rank).sublist (List.take_sublist _ _)
    · exact placed.groups other probe inside group belongs

theorem placed_start (gpusPerNode cpusPerNode : Nat) : Placed intents (fullPlacing gpusPerNode cpusPerNode) where
  numbered := fun _ => rfl
  sized := by
    intro intent index found replica member
    cases member
  ascending := fun _ => List.pairwise_lt_range
  groups := by
    intro index replica member
    cases member

theorem placeModels_placed {gpusPerNode cpusPerNode maxReplicas : Nat} {state : Placing}
    (done : placeModels numNodes intents gpusPerNode cpusPerNode maxReplicas = .ok state) : Placed intents state := by
  apply placeModels_kept _ done (placed_start gpusPerNode cpusPerNode)
  intro indexed member before after reserved placed
  exact placed.reserve member reserved

end Passes

section Compiled

/-- What compilation adds to what the constructor checks. -/
structure Compiled (plan : DeploymentFields) : Prop where
  facts : plan.Facts
  routed : ∀ model ∈ plan.models, model.routeName = routeName (storageName model.modelId)
  numbered : ∀ model ∈ plan.models, model.replicas.map ReplicaPlan.replicaIndex = List.range model.numReplicas
  sized : ∀ model ∈ plan.models, ∀ replica ∈ model.replicas,
    replica.tensorParallelSize = model.tensorParallelSize ∧
      replica.pipelineParallelSize = model.pipelineParallelSize
  ascending : ∀ model ∈ plan.models, ∀ replica ∈ model.replicas, ∀ group ∈ replica.plannedDeviceIds,
    group.Pairwise (· < ·)

theorem compileSettings_routed {path : String} {raw : List (String × Json)} {modelId : String} {sizes : Nat × Nat}
    {intent : ModelIntent} (done : compileSettings path raw modelId sizes = .ok intent) :
    intent.routeName = routeName (storageName intent.modelId) := by
  unfold compileSettings at done
  obtain ⟨_, -, done⟩ := bind_ok done
  obtain ⟨_, -, done⟩ := bind_ok done
  obtain ⟨_, -, done⟩ := bind_ok done
  obtain ⟨_, -, done⟩ := bind_ok done
  obtain ⟨_, -, done⟩ := bind_ok done
  obtain ⟨_, -, done⟩ := bind_ok done
  obtain ⟨_, -, done⟩ := bind_ok done
  obtain ⟨_, -, done⟩ := bind_ok done
  cases done
  rfl

theorem compileIntentsFrom_routed {numNodes gpusPerNode : Nat} {earlier : List ModelIntent} {items : List Json}
    {intents : List ModelIntent} (done : compileIntentsFrom numNodes gpusPerNode earlier items = .ok intents)
    (before : ∀ intent ∈ earlier, intent.routeName = routeName (storageName intent.modelId)) :
    ∀ intent ∈ intents, intent.routeName = routeName (storageName intent.modelId) := by
  induction items generalizing earlier with
  | nil =>
    cases done
    exact before
  | cons item rest ih =>
    obtain ⟨next, compiled, done⟩ := bind_ok done
    obtain ⟨_, -, compiled⟩ := bind_ok compiled
    obtain ⟨_, -, compiled⟩ := bind_ok compiled
    obtain ⟨_, -, compiled⟩ := bind_ok compiled
    apply ih done
    intro intent member
    rcases List.mem_append.mp member with member | member
    · exact before intent member
    · rw [List.mem_singleton] at member
      rw [member]
      exact compileSettings_routed compiled

theorem ModelPlan.make_fields {settings : ModelSettings} {numReplicas : Nat} {replicas : List ReplicaPlan}
    {model : ModelPlan} (made : ModelPlan.make settings numReplicas replicas = .ok model) :
    model.toModelSettings = settings ∧ model.numReplicas = numReplicas ∧ model.replicas = replicas := by
  unfold ModelPlan.make at made
  obtain ⟨_, -, made⟩ := bind_ok made
  obtain ⟨_, -, made⟩ := bind_ok made
  obtain ⟨_, -, made⟩ := bind_ok made
  obtain ⟨_, -, made⟩ := bind_ok made
  obtain ⟨_, -, made⟩ := bind_ok made
  obtain ⟨_, -, made⟩ := bind_ok made
  obtain ⟨_, -, made⟩ := bind_ok made
  obtain ⟨_, -, made⟩ := bind_ok made
  obtain ⟨_, -, made⟩ := bind_ok made
  obtain ⟨_, -, made⟩ := bind_ok made
  obtain ⟨_, -, made⟩ := bind_ok made
  obtain ⟨_, -, made⟩ := bind_ok made
  cases made
  exact ⟨rfl, rfl, rfl⟩

/-- The models of the intents in order, each with the replicas placed for it. -/
theorem resolveModels_placed {numNodes gpusPerNode cpusPerNode : Nat} {intents : List ModelIntent}
    {envelope : ScaleEnvelope} {models : List ModelPlan}
    (done : resolveModels numNodes intents gpusPerNode cpusPerNode envelope = .ok models) :
    ∃ state, placeModels numNodes intents gpusPerNode cpusPerNode envelope.maxReplicasPerModel.val = .ok state ∧
      List.Forall₂ (fun indexed model => model.toModelSettings = indexed.1.toModelSettings ∧
        model.numReplicas = (state.placements indexed.2).length ∧
        model.replicas = state.placements indexed.2) intents.zipIdx models := by
  unfold resolveModels at done
  obtain ⟨state, placed, done⟩ := bind_ok done
  obtain ⟨_, -, done⟩ := bind_ok done
  obtain ⟨_, -, done⟩ := bind_ok done
  obtain ⟨_, -, done⟩ := bind_ok done
  exact ⟨state, placed, (forall₂_of_mapM done).imp fun _ _ made => ModelPlan.make_fields made⟩

/-- Every resolved model is an intent with the replicas placed for it. -/
theorem resolveModels_models {numNodes gpusPerNode cpusPerNode : Nat} {intents : List ModelIntent}
    {envelope : ScaleEnvelope} {models : List ModelPlan}
    (done : resolveModels numNodes intents gpusPerNode cpusPerNode envelope = .ok models) :
    ∃ state, Placed intents state ∧ ∀ model ∈ models, ∃ intent index, (intent, index) ∈ intents.zipIdx ∧
      model.toModelSettings = intent.toModelSettings ∧
      model.numReplicas = (state.placements index).length ∧ model.replicas = state.placements index := by
  obtain ⟨state, placed, resolved⟩ := resolveModels_placed done
  refine ⟨state, placeModels_placed placed, ?_⟩
  intro model member
  have listed := (List.forall₂_and_left _ _).mpr ⟨fun indexed (found : indexed ∈ intents.zipIdx) => found, resolved⟩
  obtain ⟨⟨intent, index⟩, found, facts⟩ := exists_of_forall₂ listed member
  exact ⟨intent, index, found, facts⟩

theorem compiled_of_compile {sections : DeploymentSections} {launcherCapabilities : List String}
    {rawModels : Option Json} {plan : DeploymentPlan}
    (done : compileDeploymentPlan sections launcherCapabilities rawModels = .ok plan) :
    Compiled plan.toDeploymentFields := by
  unfold compileDeploymentPlan at done
  obtain ⟨_, -, done⟩ := bind_ok done
  obtain ⟨intents, compiled, done⟩ := bind_ok done
  obtain ⟨models, resolved, done⟩ := bind_ok done
  obtain ⟨_, -, done⟩ := bind_ok done
  obtain ⟨_, -, done⟩ := bind_ok done
  obtain ⟨made, accepted, done⟩ := bind_ok done
  cases done
  have routed : ∀ intent ∈ intents, intent.routeName = routeName (storageName intent.modelId) := by
    unfold compileModelIntents at compiled
    split at compiled
    · exact compileIntentsFrom_routed compiled nofun
    · cases compiled
  have fields : made.toDeploymentFields = sections.fields models := by
    unfold DeploymentPlan.make at accepted
    split at accepted
    · cases accepted
      rfl
    · cases accepted
  have same : made.finalize.models = models := by
    show made.models = models
    rw [fields]
    rfl
  obtain ⟨state, placed, from_intents⟩ := resolveModels_models resolved
  refine ⟨DeploymentFields.facts made.finalize.accepted, ?_, ?_, ?_, ?_⟩
  all_goals
    rw [same]
    intro model member
    obtain ⟨intent, index, found, settings, count, replicas⟩ := from_intents model member
  · rw [settings]
    exact routed intent (List.fst_mem_of_mem_zipIdx found)
  · rw [replicas, count]
    exact placed.numbered index
  · rw [replicas, settings]
    exact placed.sized intent index found
  · rw [replicas]
    exact placed.groups index

end Compiled

end ExaServe.Plan
