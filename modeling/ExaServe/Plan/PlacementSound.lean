import ExaServe.Plan.Capacity

namespace ExaServe.Plan

open Lib Control

section Requested

variable {numNodes : Nat}

theorem reserve_count {before after : Placing} {index : Nat} {intent : ModelIntent}
    (done : reserve numNodes before index intent = .ok (some after)) :
    (after.placements index).length = (before.placements index).length + 1 ∧
      ∀ other, other ≠ index → after.placements other = before.placements other := by
  rcases reserve_cases done with ⟨none, -⟩ | ⟨primary, others, replica, -, -, same⟩
  · cases none
  · cases same
    constructor
    · simp [Placing.reserved]
    · intro other different
      simp only [Placing.reserved, if_neg different]

theorem reserveAll_count {index : Nat} {intent : ModelIntent} {failed : Raised} {count : Nat}
    {before after : Placing} (done : reserveAll numNodes index intent failed count before = .ok after) :
    (after.placements index).length = (before.placements index).length + count ∧
      ∀ other, other ≠ index → after.placements other = before.placements other := by
  induction count generalizing before with
  | zero =>
    cases done
    exact ⟨rfl, fun _ _ => rfl⟩
  | succ count ih =>
    unfold reserveAll at done
    obtain ⟨found, reserved, done⟩ := bind_ok done
    cases found with
    | none => cases done
    | some next =>
      have one := reserve_count reserved
      have rest := ih done
      constructor
      · omega
      · intro other different
        exact (rest.2 other different).trans (one.2 other different)

theorem placeRequested_count {maxReplicas : Nat} {indexed : ModelIntent × Nat} {before after : Placing}
    (done : placeRequested numNodes maxReplicas before indexed = .ok after) :
    (∀ count, indexed.1.requestedReplicas = some count →
      (after.placements indexed.2).length = (before.placements indexed.2).length + count) ∧
      ∀ other, other ≠ indexed.2 → after.placements other = before.placements other := by
  unfold placeRequested at done
  dsimp only at done
  split at done
  · rename_i automatic
    cases done
    constructor
    · intro count requested
      rw [automatic] at requested
      cases requested
    · intro _ _
      rfl
  · rename_i found requested
    obtain ⟨_, -, done⟩ := bind_ok done
    have counted := reserveAll_count done
    constructor
    · intro count same
      rw [requested] at same
      cases same
      exact counted.1
    · exact counted.2

theorem placeRequested_counts {maxReplicas : Nat} {items : List (ModelIntent × Nat)} {before after : Placing}
    (distinct : (items.map Prod.snd).Nodup)
    (done : items.foldlM (placeRequested numNodes maxReplicas) before = .ok after) :
    (∀ indexed ∈ items, ∀ count, indexed.1.requestedReplicas = some count →
      (after.placements indexed.2).length = (before.placements indexed.2).length + count) ∧
      ∀ other, other ∉ items.map Prod.snd → after.placements other = before.placements other := by
  induction items generalizing before with
  | nil =>
    cases done
    exact ⟨nofun, fun _ _ => rfl⟩
  | cons head rest ih =>
    rw [List.foldlM_cons] at done
    obtain ⟨next, placed, done⟩ := bind_ok done
    obtain ⟨fresh, distinct⟩ := List.nodup_cons.mp distinct
    have one := placeRequested_count placed
    have later := ih distinct done
    constructor
    · intro indexed member count requested
      rcases List.mem_cons.mp member with same | member
      · rw [same] at requested ⊢
        rw [later.2 head.2 fresh]
        exact one.1 count requested
      · have different : indexed.2 ≠ head.2 := by
          intro same
          rw [← same] at fresh
          exact fresh (List.mem_map_of_mem member)
        rw [← one.2 indexed.2 different]
        exact later.1 indexed member count requested
    · intro other absent
      rw [List.map_cons, List.mem_cons, not_or] at absent
      exact (later.2 other absent.2).trans (one.2 other absent.1)

theorem same_intent {intents : List ModelIntent} {left right : ModelIntent × Nat} (first : left ∈ intents.zipIdx)
    (second : right ∈ intents.zipIdx) (same : left.2 = right.2) : left.1 = right.1 := by
  rw [List.mem_zipIdx_iff_getElem?] at first second
  rw [same] at first
  exact Option.some.inj (first.symm.trans second)

/-- A model with a count has exactly that many replicas after all passes. -/
theorem placeModels_requested {intents : List ModelIntent} {gpusPerNode cpusPerNode maxReplicas : Nat} {state : Placing}
    (done : placeModels numNodes intents gpusPerNode cpusPerNode maxReplicas = .ok state) {indexed : ModelIntent × Nat}
    (member : indexed ∈ intents.zipIdx) {count : Nat} (requested : indexed.1.requestedReplicas = some count) :
    (state.placements indexed.2).length = count := by
  unfold placeModels at done
  obtain ⟨explicit, first, done⟩ := bind_ok done
  obtain ⟨pipelined, second, done⟩ := bind_ok done
  have distinct : (intents.zipIdx.map Prod.snd).Nodup := by
    rw [List.zipIdx_map_snd]
    exact List.nodup_range'
  have counted := (placeRequested_counts distinct first).1 indexed member count requested
  have untouched : ∀ other ∈ intents.zipIdx, other.1.requestedReplicas = none → ∀ before after,
      reserve numNodes before other.2 other.1 = .ok (some after) →
        before.placements indexed.2 = explicit.placements indexed.2 →
          after.placements indexed.2 = explicit.placements indexed.2 := by
    intro other listed automatic before after reserved kept
    have different : indexed.2 ≠ other.2 := by
      intro same
      rw [same_intent member listed same, automatic] at requested
      cases requested
    rw [(reserve_count reserved).2 indexed.2 different]
    exact kept
  have after_pipelined : pipelined.placements indexed.2 = explicit.placements indexed.2 := by
    refine @foldlM_kept _ _ _ _ (fun state : Placing => state.placements indexed.2 = explicit.placements indexed.2)
      intents.zipIdx ?_ _ _ second rfl
    intro other listed before after stepped kept
    exact @placePipelined_kept _ (fun state => state.placements indexed.2 = explicit.placements indexed.2) _
      (fun automatic _ => untouched other listed automatic) _ _ stepped kept
  have after_rounds : state.placements indexed.2 = explicit.placements indexed.2 := by
    refine @placeRounds_kept _ (fun state => state.placements indexed.2 = explicit.placements indexed.2) _ _
      ?_ _ _ _ done after_pipelined
    intro other listed before after _
    have facts := List.mem_filter.mp listed
    exact untouched other facts.1 (of_decide_eq_true facts.2).1 before after
  rw [after_rounds, counted]
  simp [fullPlacing]

end Requested

section Names

theorem requireFresh_ok {path family modelId value : String} {identity : ModelIntent → String}
    {earlier : List ModelIntent} (passed : requireFresh path family identity modelId value earlier = .ok ()) :
    ∀ intent ∈ earlier, identity intent ≠ value := by
  unfold requireFresh at passed
  split at passed
  · cases passed
  · rename_i absent
    intro intent member same
    have missed := List.find?_eq_none.mp absent intent member
    simp [same] at missed

theorem compileModelId_ok {path : String} {earlier : List ModelIntent} {raw : List (String × Json)} {modelId : String}
    (done : compileModelId path earlier raw = .ok modelId) : ∀ intent ∈ earlier, intent.modelId ≠ modelId ∧
      intent.routeName ≠ routeName (storageName modelId) := by
  unfold compileModelId at done
  obtain ⟨_, -, done⟩ := bind_ok done
  obtain ⟨given, -, done⟩ := bind_ok done
  obtain ⟨_, -, done⟩ := bind_ok done
  obtain ⟨_, fresh, done⟩ := bind_ok done
  obtain ⟨_, -, done⟩ := bind_ok done
  obtain ⟨_, routed, done⟩ := bind_ok done
  cases done
  intro intent member
  exact ⟨requireFresh_ok fresh intent member, requireFresh_ok routed intent member⟩

theorem compileSettings_fields {path : String} {raw : List (String × Json)} {modelId : String} {sizes : Nat × Nat}
    {intent : ModelIntent} (done : compileSettings path raw modelId sizes = .ok intent) :
    intent.modelId = modelId ∧ intent.routeName = routeName (storageName modelId) := by
  unfold compileSettings at done
  obtain ⟨_, -, done⟩ := bind_ok done
  obtain ⟨_, -, done⟩ := bind_ok done
  obtain ⟨_, -, done⟩ := bind_ok done
  obtain ⟨_, -, done⟩ := bind_ok done
  obtain ⟨_, -, done⟩ := bind_ok done
  obtain ⟨_, -, done⟩ := bind_ok done
  obtain ⟨_, -, done⟩ := bind_ok done
  obtain ⟨_, -, done⟩ := bind_ok done
  cases done
  exact ⟨rfl, rfl⟩

theorem nodup_map_concat {α β : Type} {f : α → β} {items : List α} {item : α} (before : (items.map f).Nodup)
    (fresh : ∀ other ∈ items, f other ≠ f item) : ((items ++ [item]).map f).Nodup := by
  rw [List.map_append, List.nodup_append]
  refine ⟨before, List.nodup_singleton _, ?_⟩
  intro value earlier last member
  obtain ⟨other, listed, rfl⟩ := List.mem_map.mp earlier
  rw [List.map_singleton, List.mem_singleton] at member
  rw [member]
  exact fresh other listed

theorem compileIntentsFrom_distinct {numNodes gpusPerNode : Nat} {earlier : List ModelIntent} {items : List Json}
    {intents : List ModelIntent} (done : compileIntentsFrom numNodes gpusPerNode earlier items = .ok intents)
    (names : (earlier.map fun intent => intent.modelId).Nodup)
    (routes : (earlier.map fun intent => intent.routeName).Nodup) :
    (intents.map fun intent => intent.modelId).Nodup ∧ (intents.map fun intent => intent.routeName).Nodup := by
  induction items generalizing earlier with
  | nil =>
    cases done
    exact ⟨names, routes⟩
  | cons item rest ih =>
    obtain ⟨next, compiled, done⟩ := bind_ok done
    obtain ⟨_, -, compiled⟩ := bind_ok compiled
    obtain ⟨modelId, identified, compiled⟩ := bind_ok compiled
    obtain ⟨_, -, compiled⟩ := bind_ok compiled
    have fresh := compileModelId_ok identified
    have fields := compileSettings_fields compiled
    apply ih done
    · apply nodup_map_concat names
      intro intent member
      rw [fields.1]
      exact (fresh intent member).1
    · apply nodup_map_concat routes
      intro intent member
      rw [fields.2]
      exact (fresh intent member).2

theorem compileModelIntents_distinct {rawModels : Option Json} {numNodes gpusPerNode : Nat} {intents : List ModelIntent}
    (compiled : compileModelIntents rawModels numNodes gpusPerNode = .ok intents) :
    (intents.map fun intent => intent.modelId).Nodup ∧ (intents.map fun intent => intent.routeName).Nodup := by
  unfold compileModelIntents at compiled
  split at compiled
  · exact compileIntentsFrom_distinct compiled List.nodup_nil List.nodup_nil
  · cases compiled

end Names

section Sound

/-- What holds of the placement of models on nodes of one size. -/
structure PlacementSound (numNodes gpusPerNode cpusPerNode : Nat) (intents : List ModelIntent)
    (models : List ModelPlan) : Prop where
  exclusive : ((models.flatMap ModelPlan.replicas).flatMap ReplicaPlan.occupied).Nodup
  devices : ∀ model ∈ models, ∀ replica ∈ model.replicas, ∀ slot ∈ replica.occupied, slot.2 < gpusPerNode
  ranks : ∀ model ∈ models, ∀ replica ∈ model.replicas, ∀ rank ∈ replica.plannedRanks, rank < numNodes
  cpus : ∀ rank, demandOf rank (models.flatMap ModelPlan.replicas) ≤ cpusPerNode
  stages : ∀ model ∈ models, ∀ replica ∈ model.replicas,
    replica.plannedRanks.Nodup ∧ replica.plannedRanks.length = model.pipelineParallelSize ∧
      replica.plannedDeviceIds.length = model.pipelineParallelSize ∧
      ∀ group ∈ replica.plannedDeviceIds, group.Nodup ∧ group.length = model.tensorParallelSize
  pipelined : ∀ model ∈ models, 1 < model.pipelineParallelSize →
    (model.replicas.flatMap ReplicaPlan.plannedRanks).Nodup
  numbered : ∀ model ∈ models, model.replicas.map ReplicaPlan.replicaIndex = List.range model.replicas.length
  requested : List.Forall₂ (fun intent model => model.toModelSettings = intent.toModelSettings ∧
    model.numReplicas = model.replicas.length ∧
    ∀ count, intent.requestedReplicas = some count → model.replicas.length = count) intents models

variable {numNodes gpusPerNode cpusPerNode : Nat} {intents : List ModelIntent} {models : List ModelPlan}

theorem forall₂_zipIdx {α β : Type} {related : α → β → Prop} {items : List α} {results : List β} {start : Nat}
    (each : List.Forall₂ (fun indexed => related indexed.1) (items.zipIdx start) results) :
    List.Forall₂ related items results := by
  induction items generalizing results start with
  | nil =>
    cases each
    exact .nil
  | cons item rest ih =>
    rw [List.zipIdx_cons] at each
    cases each with
    | cons first others => exact .cons first (ih others)

theorem replicas_of_placed {state : Placing} {items : List (ModelIntent × Nat)}
    (placed : List.Forall₂ (fun indexed model => model.toModelSettings = indexed.1.toModelSettings ∧
      model.numReplicas = (state.placements indexed.2).length ∧ model.replicas = state.placements indexed.2)
      items models) : models.flatMap ModelPlan.replicas = items.flatMap fun indexed => state.placements indexed.2 := by
  induction placed with
  | nil => rfl
  | cons first _ ih => rw [List.flatMap_cons, List.flatMap_cons, ih, first.2.2]

theorem placement_sound {envelope : ScaleEnvelope}
    (resolved : resolveModels numNodes intents gpusPerNode cpusPerNode envelope = .ok models) :
    PlacementSound numNodes gpusPerNode cpusPerNode intents models := by
  obtain ⟨state, done, placed⟩ := resolveModels_placed resolved
  have booked := placeModels_booked done
  have facts := placeModels_placed done
  have listed := (List.forall₂_and_left _ _).mpr ⟨fun indexed (found : indexed ∈ intents.zipIdx) => found, placed⟩
  have source : ∀ model ∈ models, ∃ indexed, indexed ∈ intents.zipIdx ∧
      model.toModelSettings = indexed.1.toModelSettings ∧
      model.numReplicas = (state.placements indexed.2).length ∧ model.replicas = state.placements indexed.2 :=
    fun model member => exists_of_forall₂ listed member
  constructor
  · rw [replicas_of_placed placed, List.flatMap_assoc, List.nodup_flatMap]
    constructor
    · intro indexed _
      exact booked.held indexed.2
    · have distinct : (intents.zipIdx.map Prod.snd).Nodup := by
        rw [List.zipIdx_map_snd]
        exact List.nodup_range'
      apply (List.pairwise_map.mp distinct).imp
      intro left right different
      exact booked.apart left.2 right.2 different
  · intro model member replica inside slot occupied
    obtain ⟨indexed, found, -, -, replicas⟩ := source model member
    rw [replicas] at inside
    exact booked.bounded indexed.2 slot (List.mem_flatMap.mpr ⟨replica, inside, occupied⟩)
  · intro model member replica inside
    obtain ⟨indexed, found, -, -, replicas⟩ := source model member
    rw [replicas] at inside
    exact booked.ranks indexed.2 replica inside
  · intro rank
    have total := booked.cpus rank
    rw [replicas_of_placed placed, demandOf_flatMap]
    have same : (intents.zipIdx.map fun indexed => demandOf rank (state.placements indexed.2)).sum =
        ((List.range intents.length).map fun index => demandOf rank (state.placements index)).sum := by
      rw [List.range_eq_range', ← List.zipIdx_map_snd 0 intents, List.map_map]
      rfl
    rw [same]
    omega
  · intro model member replica inside
    obtain ⟨⟨intent, index⟩, found, settings, -, replicas⟩ := source model member
    rw [replicas] at inside
    have sizes := facts.sized intent index found replica inside
    have tp : model.tensorParallelSize = replica.tensorParallelSize := by rw [settings, sizes.1]
    have pp : model.pipelineParallelSize = replica.pipelineParallelSize := by rw [settings, sizes.2]
    rw [tp, pp]
    refine ⟨replica.ranks.2, replica.stages, replica.aligned.trans replica.stages, ?_⟩
    intro group belongs
    exact ⟨(replica.devices group belongs).2, (replica.devices group belongs).1⟩
  · intro model member several
    obtain ⟨⟨intent, index⟩, found, settings, -, replicas⟩ := source model member
    rw [settings] at several
    rw [replicas]
    exact booked.pipelined intent index found several
  · intro model member
    obtain ⟨indexed, -, -, -, replicas⟩ := source model member
    rw [replicas]
    exact facts.numbered indexed.2
  · apply forall₂_zipIdx
    apply listed.imp
    rintro indexed model ⟨found, settings, counted, replicas⟩
    refine ⟨settings, ?_, ?_⟩
    · rw [counted, replicas]
    · intro count requested
      rw [replicas]
      exact placeModels_requested done found requested

end Sound

section Topology

theorem checkDevices_of {gpus : Nat} {taken : List (Nat × Nat)} {devices : List (String × Nat × Nat)}
    (bounded : ∀ slot ∈ devices.map Prod.snd, slot.2 < gpus) (distinct : (devices.map Prod.snd).Nodup)
    (fresh : ∀ slot ∈ devices.map Prod.snd, slot ∉ taken) :
    DeploymentFields.checkDevices gpus taken devices = .ok () := by
  induction devices generalizing taken with
  | nil => rfl
  | cons device rest ih =>
    obtain ⟨replicaId, rank, id⟩ := device
    rw [List.map_cons, List.nodup_cons] at distinct
    unfold DeploymentFields.checkDevices
    rw [ok_bind (require_ok (bounded (rank, id) List.mem_cons_self) _),
      ok_bind (require_ok (fresh (rank, id) List.mem_cons_self) _)]
    apply ih
    · intro slot member
      exact bounded slot (List.mem_cons_of_mem _ member)
    · exact distinct.2
    · intro slot member before
      rcases List.mem_cons.mp before with same | before
      · exact distinct.1 (same ▸ member)
      · exact fresh slot (List.mem_cons_of_mem _ member) before

theorem map_eq_of_forall₂ {α β γ : Type} {f : α → γ} {g : β → γ} {left : List α} {right : List β}
    (each : List.Forall₂ (fun first second => g second = f first) left right) : right.map g = left.map f := by
  induction each with
  | nil => rfl
  | cons first _ ih => rw [List.map_cons, List.map_cons, first, ih]

theorem PlacementSound.checkTopology {sections : DeploymentSections} {intents : List ModelIntent}
    {models : List ModelPlan}
    (sound : PlacementSound sections.numNodes.val sections.numGpusPerNode.val sections.nodeCpus.val intents models)
    (names : (intents.map fun intent => intent.modelId).Nodup)
    (routes : (intents.map fun intent => intent.routeName).Nodup) :
    (sections.fields models).checkTopology = .ok () := by
  have modelIds : (models.map fun model => model.modelId) = intents.map fun intent => intent.modelId :=
    map_eq_of_forall₂ (sound.requested.imp fun _ _ facts => congrArg ModelSettings.modelId facts.1)
  have routeNames : (models.map fun model => model.routeName) = intents.map fun intent => intent.routeName :=
    map_eq_of_forall₂ (sound.requested.imp fun _ _ facts => congrArg ModelSettings.routeName facts.1)
  have slots : (sections.fields models).plannedDevices.map Prod.snd =
      (models.flatMap ModelPlan.replicas).flatMap ReplicaPlan.occupied := by
    unfold DeploymentFields.plannedDevices DeploymentFields.replicas
    rw [List.map_flatMap]
    simp only [List.map_map, Function.comp_def, Prod.mk.eta, List.map_id']
    rfl
  have ranks : ∀ replica ∈ (sections.fields models).replicas, ∀ rank ∈ replica.plannedRanks,
      rank < (sections.fields models).numNodes.val := by
    intro replica member
    obtain ⟨model, listed, inside⟩ := List.mem_flatMap.mp member
    exact sound.ranks model listed replica inside
  have devices : DeploymentFields.checkDevices (sections.fields models).numGpusPerNode.val []
      (sections.fields models).plannedDevices = .ok () := by
    apply checkDevices_of
    · intro slot member
      rw [slots] at member
      obtain ⟨replica, inside, occupied⟩ := List.mem_flatMap.mp member
      obtain ⟨model, listed, inside⟩ := List.mem_flatMap.mp inside
      exact sound.devices model listed replica inside slot occupied
    · rw [slots]
      exact sound.exclusive
    · intro slot _ before
      cases before
  have overCpu : (sections.fields models).overCpu = [] := by
    unfold DeploymentFields.overCpu
    rw [List.filter_eq_nil_iff]
    intro entry member
    obtain ⟨rank, -, rfl⟩ := List.mem_map.mp member
    rw [decide_eq_true_eq, not_lt]
    exact sound.cpus rank
  unfold DeploymentFields.checkTopology
  refine (ok_bind (require_ok rfl _) _).trans ?_
  refine (ok_bind (require_ok (modelIds ▸ names) _) _).trans ?_
  refine (ok_bind (require_ok (routeNames ▸ routes) _) _).trans ?_
  refine (ok_bind (require_ok ranks _) _).trans ?_
  refine (ok_bind devices _).trans ?_
  exact ok_bind (require_ok overCpu _) _

/-- Whatever the models and the sizes of the nodes: a resolved placement is sound, and no
    plan of these models is refused for its topology. -/
theorem resolved_placement_sound {rawModels : Option Json} {numNodes gpusPerNode cpusPerNode : Nat}
    {envelope : ScaleEnvelope} {intents : List ModelIntent} {models : List ModelPlan}
    (compiled : compileModelIntents rawModels numNodes gpusPerNode = .ok intents)
    (resolved : resolveModels numNodes intents gpusPerNode cpusPerNode envelope = .ok models) :
    PlacementSound numNodes gpusPerNode cpusPerNode intents models ∧
    ∀ sections : DeploymentSections, sections.numNodes.val = numNodes → sections.numGpusPerNode.val = gpusPerNode →
      sections.nodeCpus.val = cpusPerNode → (sections.fields models).checkTopology = .ok () := by
  have sound := placement_sound resolved
  have distinct := compileModelIntents_distinct compiled
  refine ⟨sound, ?_⟩
  rintro sections rfl rfl rfl
  exact sound.checkTopology distinct.1 distinct.2

/-- A pipelined model and one that fills what is left of two nodes. -/
def sharedNodes : Json :=
  .arr [.obj [("model_id", .str "org/deep"), ("pipeline_parallel_size", .int 2)],
    .obj [("model_id", .str "org/wide"), ("tensor_parallel_size", .int 3)]]

theorem shared_nodes_sound : ∃ intents models, compileModelIntents (some sharedNodes) 2 4 = .ok intents ∧
    resolveModels 2 intents 4 64 sampleEnvelope = .ok models ∧
    models.map ModelPlan.numReplicas = [1, 2] ∧ PlacementSound 2 4 64 intents models := by
  have found : ((compileModelIntents (some sharedNodes) 2 4).toOption.bind fun intents =>
      (resolveModels 2 intents 4 64 sampleEnvelope).toOption.map fun models =>
        models.map ModelPlan.numReplicas) = some [1, 2] := by decide +kernel
  obtain ⟨intents, first, found⟩ := Option.bind_eq_some_iff.mp found
  obtain ⟨models, resolved, counts⟩ := ok_of_toOption found
  have compiled := eq_ok_of_toOption first
  exact ⟨intents, models, compiled, resolved, counts, (resolved_placement_sound compiled resolved).1⟩

end Topology

end ExaServe.Plan
