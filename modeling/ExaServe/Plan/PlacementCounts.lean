import ExaServe.Plan.AutoPlacement

namespace ExaServe.Plan

open Lib Control

section Stacked

variable {numNodes gpusPerNode cpusPerNode : Nat} {intent : ModelIntent} {stacked : Nat → Nat} {state : Placing}

/-- How many replicas of a model of one stage a node holds. -/
def ModelIntent.perNode (intent : ModelIntent) (gpusPerNode cpusPerNode : Nat) : Nat :=
  min (gpusPerNode / intent.tensorParallelSize) (cpusPerNode / intent.numCpusPerReplica)

/-- The nodes with so many replicas of the only model on each. -/
structure Stacked (numNodes gpusPerNode cpusPerNode : Nat) (intent : ModelIntent) (stacked : Nat → Nat)
    (state : Placing) : Prop where
  distinct : ∀ rank, (state.devices rank).Nodup
  devices : ∀ rank, (state.devices rank).length + stacked rank * intent.tensorParallelSize = gpusPerNode
  cpus : ∀ rank, state.cpus rank + stacked rank * intent.numCpusPerReplica = cpusPerNode
  total : ((List.range numNodes).map stacked).sum = (state.placements 0).length

theorem stacked_start : Stacked numNodes gpusPerNode cpusPerNode intent (fun _ => 0)
    (fullPlacing gpusPerNode cpusPerNode) where
  distinct := fun _ => List.nodup_range
  devices := by
    intro rank
    simp [fullPlacing]
  cpus := by
    intro rank
    simp [fullPlacing]
  total := by simp [fullPlacing]

theorem Stacked.step (level : Stacked numNodes gpusPerNode cpusPerNode intent stacked state)
    (single : intent.pipelineParallelSize = 1) {next : Placing}
    (done : reserve numNodes state 0 intent = .ok (some next)) :
    ∃ raised, Stacked numNodes gpusPerNode cpusPerNode intent raised next := by
  rcases reserve_cases done with ⟨none, -⟩ | ⟨primary, others, replica, chosen, -, same⟩
  · cases none
  cases same
  have alone : others = [] := by
    apply List.eq_nil_of_length_eq_zero
    rw [chosen.count, single]
  subst alone
  have eligible := mem_eligiblePrimary.mp chosen.primary_eligible
  refine ⟨fun rank => if rank = primary then stacked rank + 1 else stacked rank, ?_, ?_, ?_, ?_⟩
  · intro rank
    exact (level.distinct rank).sublist (devices_shrink rank)
  · intro rank
    have before := level.devices rank
    simp only [Placing.reserved, List.mem_singleton]
    split_ifs with same
    · subst same
      have room := eligible.2.2.1
      rw [List.length_drop, Nat.add_mul, Nat.one_mul]
      omega
    · exact before
  · intro rank
    have before := level.cpus rank
    simp only [Placing.reserved, List.head?_cons, Option.some.injEq]
    split_ifs with same
    · subst same
      have room := eligible.2.2.2
      rw [Nat.add_mul, Nat.one_mul]
      omega
    · exact before
  · have more : ((List.range numNodes).map fun rank => if rank = primary then stacked rank + 1 else stacked rank).sum =
        ((List.range numNodes).map stacked).sum + 1 := by
      apply sum_range_update eligible.1
      · exact if_pos rfl
      · intro other different
        exact if_neg different
    rw [more, level.total]
    simp [Placing.reserved]

variable (positive : 1 ≤ intent.tensorParallelSize ∧ 1 ≤ intent.numCpusPerReplica)

include positive

theorem Stacked.fits_iff (level : Stacked numNodes gpusPerNode cpusPerNode intent stacked state) (rank : Nat) :
    state.Fits intent rank ↔ stacked rank < intent.perNode gpusPerNode cpusPerNode := by
  have devices := level.devices rank
  have cpus := level.cpus rank
  have more_devices : stacked rank < gpusPerNode / intent.tensorParallelSize ↔
      intent.tensorParallelSize ≤ (state.devices rank).length := by
    rw [← Nat.succ_le_iff, Nat.le_div_iff_mul_le (by omega), Nat.succ_mul]
    omega
  have more_cpus : stacked rank < cpusPerNode / intent.numCpusPerReplica ↔
      intent.numCpusPerReplica ≤ state.cpus rank := by
    rw [← Nat.succ_le_iff, Nat.le_div_iff_mul_le (by omega), Nat.succ_mul]
    omega
  unfold Placing.Fits ModelIntent.perNode
  rw [lt_min_iff, more_devices, more_cpus]

theorem Stacked.most (level : Stacked numNodes gpusPerNode cpusPerNode intent stacked state) (rank : Nat) :
    stacked rank ≤ intent.perNode gpusPerNode cpusPerNode := by
  have devices := level.devices rank
  have cpus := level.cpus rank
  unfold ModelIntent.perNode
  rw [le_min_iff, Nat.le_div_iff_mul_le (by omega), Nat.le_div_iff_mul_le (by omega)]
  omega

omit positive in
theorem sum_le_of_bounded {f : Nat → Nat} {most : Nat} (bounded : ∀ rank, f rank ≤ most) (count : Nat) :
    ((List.range count).map f).sum ≤ count * most ∧
      (((List.range count).map f).sum = count * most ↔ ∀ rank, rank < count → f rank = most) := by
  induction count with
  | zero => simp
  | succ count ih =>
    have last := bounded count
    rw [List.range_succ, List.map_append, List.sum_append, Nat.succ_mul]
    simp only [List.map_cons, List.map_nil, List.sum_cons, List.sum_nil, Nat.add_zero]
    refine ⟨by omega, ?_⟩
    constructor
    · intro total rank below
      rcases Nat.lt_succ_iff_lt_or_eq.mp below with earlier | same
      · exact ih.2.mp (by omega) rank earlier
      · rw [same]
        omega
    · intro all
      rw [ih.2.mpr fun rank below => all rank (Nat.lt_succ_of_lt below), all count (Nat.lt_succ_self count)]

/-- The replicas placed never exceed what the nodes hold, and fill them exactly when
    nothing more fits. -/
theorem Stacked.full_iff (level : Stacked numNodes gpusPerNode cpusPerNode intent stacked state) :
    (state.placements 0).length ≤ numNodes * intent.perNode gpusPerNode cpusPerNode ∧
      (state.Full numNodes intent ↔
        (state.placements 0).length = numNodes * intent.perNode gpusPerNode cpusPerNode) := by
  have bounds := sum_le_of_bounded (level.most positive) numNodes
  rw [level.total] at bounds
  refine ⟨bounds.1, ?_⟩
  rw [bounds.2]
  unfold Placing.Full
  apply forall₂_congr
  intro rank _
  have most := level.most positive rank
  rw [level.fits_iff positive rank]
  omega

theorem Stacked.reserve_iff (level : Stacked numNodes gpusPerNode cpusPerNode intent stacked state)
    (single : intent.pipelineParallelSize = 1) : ∃ found, reserve numNodes state 0 intent = .ok found ∧
      (found = none ↔ (state.placements 0).length = numNodes * intent.perNode gpusPerNode cpusPerNode) := by
  obtain ⟨found, done, absent⟩ := @reserve_total numNodes state 0 intent ⟨positive.1, by omega⟩ level.distinct
  refine ⟨found, done, ?_⟩
  rw [absent, selectRanks_none_single single]
  exact (level.full_iff positive).2

theorem Stacked.reserveAll_iff (single : intent.pipelineParallelSize = 1) {failed : Raised} {count : Nat}
    (level : Stacked numNodes gpusPerNode cpusPerNode intent stacked state) :
    (∃ after, reserveAll numNodes 0 intent failed count state = .ok after) ↔
      (state.placements 0).length + count ≤ numNodes * intent.perNode gpusPerNode cpusPerNode := by
  induction count generalizing stacked state with
  | zero =>
    have bound := (level.full_iff positive).1
    exact ⟨fun _ => bound, fun _ => ⟨state, rfl⟩⟩
  | succ count ih =>
    obtain ⟨found, done, absent⟩ := level.reserve_iff positive single
    have bound := (level.full_iff positive).1
    unfold reserveAll
    rw [ok_bind done]
    cases found with
    | none =>
      have filled := absent.mp rfl
      constructor
      · rintro ⟨_, failed⟩
        cases failed
      · intro room
        omega
    | some next =>
      obtain ⟨raised, higher⟩ := level.step single done
      have counted := (reserve_count done).1
      dsimp only
      rw [ih higher, counted]
      omega

end Stacked

section Spread

variable {numNodes gpusPerNode cpusPerNode : Nat} {intent : ModelIntent} {state : Placing}

/-- The ranks the replicas of the only model hold. -/
def Placing.usedRanks (state : Placing) : List Nat := (state.placements 0).flatMap ReplicaPlan.plannedRanks

/-- A pipelined model alone: the ranks it does not hold are as they were. -/
structure Spread (numNodes gpusPerNode cpusPerNode : Nat) (intent : ModelIntent) (state : Placing) : Prop where
  nodup : ∀ rank, (state.devices rank).Nodup
  devices : ∀ rank, rank ∉ state.usedRanks → (state.devices rank).length = gpusPerNode
  cpus : ∀ rank, rank ∉ state.usedRanks → state.cpus rank = cpusPerNode
  below : ∀ rank ∈ state.usedRanks, rank < numNodes
  distinct : state.usedRanks.Nodup
  total : state.usedRanks.length = (state.placements 0).length * intent.pipelineParallelSize

theorem spread_start : Spread numNodes gpusPerNode cpusPerNode intent (fullPlacing gpusPerNode cpusPerNode) where
  nodup := fun _ => List.nodup_range
  devices := by
    intro rank _
    simp [fullPlacing]
  cpus := fun _ _ => rfl
  below := by
    intro rank member
    cases member
  distinct := List.nodup_nil
  total := by simp [Placing.usedRanks, fullPlacing]

theorem Spread.step (spread : Spread numNodes gpusPerNode cpusPerNode intent state)
    (several : 1 < intent.pipelineParallelSize) {next : Placing}
    (done : reserve numNodes state 0 intent = .ok (some next)) :
    Spread numNodes gpusPerNode cpusPerNode intent next := by
  rcases reserve_cases done with ⟨none, -⟩ | ⟨primary, others, replica, chosen, added, same⟩
  · cases none
  cases same
  have used : (state.reserved 0 intent (primary :: others) replica).usedRanks =
      state.usedRanks ++ primary :: others := by
    simp [Placing.usedRanks, Placing.reserved, added.plannedRanks]
  have unused : ∀ rank ∈ primary :: others, rank ∉ state.usedRanks := by
    intro rank member
    have outside := (chosen.room member).2.1
    unfold ranksInUse at outside
    rwa [if_pos several] at outside
  constructor
  · intro rank
    exact (spread.nodup rank).sublist (devices_shrink rank)
  · intro rank absent
    rw [used, List.mem_append, not_or] at absent
    simp only [Placing.reserved, if_neg absent.2]
    exact spread.devices rank absent.1
  · intro rank absent
    rw [used, List.mem_append, not_or] at absent
    have apart : ¬some rank = (primary :: others).head? := by
      intro same
      exact absent.2 (Option.some.inj same ▸ List.mem_cons_self)
    simp only [Placing.reserved, if_neg apart]
    exact spread.cpus rank absent.1
  · intro rank member
    rw [used] at member
    rcases List.mem_append.mp member with earlier | new
    · exact spread.below rank earlier
    · exact (chosen.room new).1
  · rw [used, List.nodup_append]
    refine ⟨spread.distinct, chosen.distinct, ?_⟩
    rintro rank earlier _ new rfl
    exact unused rank new earlier
  · have count := chosen.count
    rw [used, List.length_append, spread.total, List.length_cons, count]
    simp only [Placing.reserved, if_true, List.length_append, List.length_singleton]
    rw [Nat.add_mul, Nat.one_mul]
    omega

theorem unused_length {count : Nat} {used : List Nat} (distinct : used.Nodup) (below : ∀ rank ∈ used, rank < count) :
    ((List.range count).filter fun rank => rank ∉ used).length + used.length = count := by
  have inside : ((List.range count).filter fun rank => rank ∈ used).Perm used := by
    rw [List.perm_ext_iff_of_nodup (List.nodup_range.filter _) distinct]
    intro rank
    rw [List.mem_filter, List.mem_range, decide_eq_true_eq]
    exact ⟨And.right, fun member => ⟨below rank member, member⟩⟩
  have parts := List.length_eq_length_filter_add (l := List.range count) fun rank => decide (rank ∈ used)
  rw [List.length_range, inside.length_eq] at parts
  simp only [decide_not]
  omega

theorem Spread.ranksInUse (several : 1 < intent.pipelineParallelSize) :
    Plan.ranksInUse state 0 intent = state.usedRanks := by
  unfold Plan.ranksInUse
  rw [if_pos several]
  rfl

theorem Spread.select_iff (spread : Spread numNodes gpusPerNode cpusPerNode intent state)
    (several : 1 < intent.pipelineParallelSize) : selectRanks numNodes state 0 intent = none ↔
      ¬((state.placements 0).length * intent.pipelineParallelSize + intent.pipelineParallelSize ≤ numNodes ∧
        intent.tensorParallelSize ≤ gpusPerNode ∧ intent.numCpusPerReplica ≤ cpusPerNode) := by
  have unused := unused_length spread.distinct spread.below
  rw [spread.total] at unused
  rw [selectRanks_none]
  constructor
  · rintro none ⟨room, devices, cpus⟩
    have some_unused : ((List.range numNodes).filter fun rank => rank ∉ state.usedRanks) ≠ [] := by
      intro empty
      rw [empty, List.length_nil] at unused
      omega
    obtain ⟨primary, member⟩ := List.exists_mem_of_ne_nil _ some_unused
    have facts := List.mem_filter.mp member
    have below := List.mem_range.mp facts.1
    have free : primary ∉ state.usedRanks := of_decide_eq_true facts.2
    have eligible : primary ∈ eligiblePrimary numNodes state 0 intent := by
      rw [mem_eligiblePrimary, Spread.ranksInUse several, spread.devices primary free, spread.cpus primary free]
      exact ⟨below, free, devices, cpus⟩
    have fewer := none primary eligible
    have others : (otherRanks numNodes state 0 intent primary).length + 1 =
        ((List.range numNodes).filter fun rank => rank ∉ state.usedRanks).length := by
      have same : (primary :: otherRanks numNodes state 0 intent primary).Perm
          ((List.range numNodes).filter fun rank => rank ∉ state.usedRanks) := by
        rw [List.perm_ext_iff_of_nodup]
        · intro rank
          rw [List.mem_cons, mem_otherRanks, Spread.ranksInUse several, List.mem_filter, List.mem_range,
            decide_eq_true_eq]
          constructor
          · rintro (rfl | ⟨inside, -, apart, -⟩)
            · exact ⟨below, free⟩
            · exact ⟨inside, apart⟩
          · rintro ⟨inside, apart⟩
            by_cases same : rank = primary
            · exact .inl same
            · exact .inr ⟨inside, same, apart, (spread.devices rank apart).symm ▸ devices⟩
        · rw [List.nodup_cons]
          exact ⟨fun again => (mem_otherRanks.mp again).2.1 rfl, nodup_otherRanks primary⟩
        · exact List.nodup_range.filter _
      exact same.length_eq
    omega
  · intro scarce primary eligible
    obtain ⟨below, apart, devices, cpus⟩ := mem_eligiblePrimary.mp eligible
    rw [Spread.ranksInUse several] at apart
    rw [spread.devices primary apart] at devices
    rw [spread.cpus primary apart] at cpus
    have few : numNodes < (state.placements 0).length * intent.pipelineParallelSize + intent.pipelineParallelSize := by
      by_contra enough
      exact scarce ⟨by omega, devices, cpus⟩
    have within : (primary :: otherRanks numNodes state 0 intent primary).length ≤
        ((List.range numNodes).filter fun rank => rank ∉ state.usedRanks).length := by
      apply List.Subperm.length_le
      apply List.subperm_of_subset
      · rw [List.nodup_cons]
        exact ⟨fun again => (mem_otherRanks.mp again).2.1 rfl, nodup_otherRanks primary⟩
      · intro rank member
        rw [List.mem_filter, List.mem_range, decide_eq_true_eq]
        rcases List.mem_cons.mp member with rfl | other
        · exact ⟨below, apart⟩
        · have facts := mem_otherRanks.mp other
          rw [Spread.ranksInUse several] at facts
          exact ⟨facts.1, facts.2.2.1⟩
    rw [List.length_cons] at within
    omega

theorem Spread.reserveAll_iff (sizes : 1 ≤ intent.tensorParallelSize) (several : 1 < intent.pipelineParallelSize)
    {failed : Raised} {count : Nat} (spread : Spread numNodes gpusPerNode cpusPerNode intent state) :
    (∃ after, reserveAll numNodes 0 intent failed count state = .ok after) ↔ count = 0 ∨
      ((state.placements 0).length + count) * intent.pipelineParallelSize ≤ numNodes ∧
        intent.tensorParallelSize ≤ gpusPerNode ∧ intent.numCpusPerReplica ≤ cpusPerNode := by
  induction count generalizing state with
  | zero => exact ⟨fun _ => .inl rfl, fun _ => ⟨state, rfl⟩⟩
  | succ count ih =>
    obtain ⟨found, done, absent⟩ := @reserve_total numNodes state 0 intent ⟨sizes, by omega⟩ spread.nodup
    rw [spread.select_iff several] at absent
    unfold reserveAll
    rw [ok_bind done]
    cases found with
    | none =>
      have scarce := absent.mp rfl
      constructor
      · rintro ⟨_, failed⟩
        cases failed
      · rintro (impossible | ⟨room, rest⟩)
        · omega
        · exfalso
          apply scarce
          refine ⟨?_, rest⟩
          rw [← Nat.succ_mul]
          exact (Nat.mul_le_mul_right _ (by omega)).trans room
    | some next =>
      have here := not_not.mp (mt absent.mpr (by simp))
      have counted := (reserve_count done).1
      dsimp only
      rw [ih (spread.step several done), counted]
      constructor
      · rintro (rfl | ⟨room, rest⟩)
        · right
          refine ⟨?_, here.2⟩
          rw [Nat.add_mul, Nat.zero_add, Nat.one_mul]
          exact here.1
        · right
          refine ⟨?_, rest⟩
          rwa [show (state.placements 0).length + (count + 1) = (state.placements 0).length + 1 + count by omega]
      · rintro (impossible | ⟨room, rest⟩)
        · omega
        · right
          refine ⟨?_, rest⟩
          rwa [show (state.placements 0).length + 1 + count = (state.placements 0).length + (count + 1) by omega]

end Spread

section Compiled

theorem positive_ok {fields : List (String × Json)} {path key : String} {default : Option Int} {count : Nat}
    (done : positive fields path key default = .ok count) : 1 ≤ count := by
  obtain ⟨value, read, done⟩ := bind_ok done
  cases done
  have least : 1 ≤ value := by
    unfold integer atLeast at read
    split at read
    · split at read
      · cases read
      · obtain ⟨_, checked, read⟩ := bind_ok read
        obtain ⟨holds, -, -⟩ := bind_ok checked
        cases read
        exact holds.down
    · obtain ⟨_, checked, read⟩ := bind_ok read
      obtain ⟨holds, -, -⟩ := bind_ok checked
      cases read
      exact holds.down
    · cases read
  omega

/-- The sizes of a compiled model are positive. -/
structure ModelIntent.Positive (intent : ModelIntent) : Prop where
  devices : 1 ≤ intent.tensorParallelSize
  stages : 1 ≤ intent.pipelineParallelSize
  cpus : 1 ≤ intent.numCpusPerReplica
  requested : intent.requestedReplicas ≠ some 0

theorem compileSettings_positive {path : String} {raw : List (String × Json)} {modelId : String} {sizes : Nat × Nat}
    {intent : ModelIntent} (done : compileSettings path raw modelId sizes = .ok intent)
    (positive : 1 ≤ sizes.1 ∧ 1 ≤ sizes.2) : intent.Positive := by
  unfold compileSettings at done
  obtain ⟨requested, read, done⟩ := bind_ok done
  obtain ⟨_, -, done⟩ := bind_ok done
  obtain ⟨_, -, done⟩ := bind_ok done
  obtain ⟨_, -, done⟩ := bind_ok done
  obtain ⟨_, -, done⟩ := bind_ok done
  obtain ⟨_, -, done⟩ := bind_ok done
  obtain ⟨_, -, done⟩ := bind_ok done
  obtain ⟨cpus, counted, done⟩ := bind_ok done
  cases done
  refine ⟨positive.1, positive.2, positive_ok counted, ?_⟩
  dsimp only
  rintro rfl
  unfold optionalPositive at read
  split at read
  · cases read
  · obtain ⟨count, counted, read⟩ := bind_ok read
    cases read
    exact absurd (positive_ok counted) (by omega)

theorem compileIntentsFrom_positive {numNodes gpusPerNode : Nat} {earlier : List ModelIntent} {items : List Json}
    {intents : List ModelIntent} (done : compileIntentsFrom numNodes gpusPerNode earlier items = .ok intents)
    (before : ∀ intent ∈ earlier, intent.Positive) : ∀ intent ∈ intents, intent.Positive := by
  induction items generalizing earlier with
  | nil =>
    cases done
    exact before
  | cons item rest ih =>
    obtain ⟨next, compiled, done⟩ := bind_ok done
    obtain ⟨_, -, compiled⟩ := bind_ok compiled
    obtain ⟨_, -, compiled⟩ := bind_ok compiled
    obtain ⟨sizes, parallel, compiled⟩ := bind_ok compiled
    obtain ⟨tp, devices, parallel⟩ := bind_ok parallel
    obtain ⟨pp, stages, parallel⟩ := bind_ok parallel
    obtain ⟨_, -, parallel⟩ := bind_ok parallel
    obtain ⟨_, -, parallel⟩ := bind_ok parallel
    cases parallel
    apply ih done
    intro intent member
    rcases List.mem_append.mp member with member | member
    · exact before intent member
    · rw [List.mem_singleton] at member
      rw [member]
      exact compileSettings_positive compiled ⟨positive_ok devices, positive_ok stages⟩

theorem compileModelIntents_positive {rawModels : Option Json} {numNodes gpusPerNode : Nat} {intents : List ModelIntent}
    (compiled : compileModelIntents rawModels numNodes gpusPerNode = .ok intents) :
    ∀ intent ∈ intents, intent.Positive := by
  unfold compileModelIntents at compiled
  split at compiled
  · exact compileIntentsFrom_positive compiled nofun
  · cases compiled

end Compiled

section Results

variable {numNodes gpusPerNode cpusPerNode maxReplicas : Nat} {intents : List ModelIntent}

/-- The models whose count is left to the loop. -/
def ModelIntent.Automatic (intent : ModelIntent) : Prop :=
  intent.requestedReplicas = none ∧ intent.pipelineParallelSize = 1

instance (intent : ModelIntent) : Decidable intent.Automatic :=
  inferInstanceAs (Decidable (intent.requestedReplicas = none ∧ intent.pipelineParallelSize = 1))

def autoTp (intents : List ModelIntent) : List (ModelIntent × Nat) :=
  intents.zipIdx.filter fun indexed =>
    indexed.1.requestedReplicas = none ∧ indexed.1.pipelineParallelSize = 1

theorem mem_autoTp {indexed : ModelIntent × Nat} :
    indexed ∈ autoTp intents ↔ indexed ∈ intents.zipIdx ∧ indexed.1.Automatic := by
  unfold autoTp
  rw [List.mem_filter, decide_eq_true_eq]
  rfl

theorem autoTp_ascending : (autoTp intents).Pairwise fun left right => left.2 < right.2 := by
  have ascending : (intents.zipIdx.map Prod.snd).Pairwise (· < ·) := by
    rw [List.zipIdx_map_snd]
    exact List.pairwise_lt_range'
  exact (List.pairwise_map.mp ascending).sublist List.filter_sublist

/-- The state the loop starts from: what is left covers its rounds, and no automatic
    model has a replica yet. -/
theorem before_loop {explicit pipelined : Placing}
    (first : intents.zipIdx.foldlM (placeRequested numNodes maxReplicas) (fullPlacing gpusPerNode cpusPerNode) =
      .ok explicit)
    (second : intents.zipIdx.foldlM (placePipelined numNodes) explicit = .ok pipelined) :
    pipelined.free numNodes ≤ numNodes * gpusPerNode ∧
      ∀ indexed ∈ autoTp intents, pipelined.placements indexed.2 = [] := by
  have kept : ∀ kept : Placing → Prop, kept (fullPlacing gpusPerNode cpusPerNode) →
      (∀ indexed ∈ intents.zipIdx, ¬indexed.1.Automatic → ∀ before after,
        reserve numNodes before indexed.2 indexed.1 = .ok (some after) → kept before → kept after) → kept pipelined := by
    intro kept start step
    have after_requested : kept explicit := by
      refine foldlM_kept ?_ first start
      intro indexed member before after stepped held
      refine placeRequested_kept ?_ stepped held
      intro requested
      apply step indexed member
      rintro ⟨automatic, -⟩
      rw [automatic] at requested
      cases requested
    refine foldlM_kept ?_ second after_requested
    intro indexed member before after stepped held
    refine placePipelined_kept ?_ stepped held
    intro _ several
    apply step indexed member
    rintro ⟨-, single⟩
    omega
  constructor
  · apply kept fun state => state.free numNodes ≤ numNodes * gpusPerNode
    · exact (sum_le_of_bounded (fun _ => List.length_range.le) numNodes).1
    · intro indexed _ _ before after reserved below
      exact (le_of_lt (free_reserve reserved)).trans below
  · intro indexed member
    obtain ⟨listed, automatic⟩ := mem_autoTp.mp member
    apply kept fun state => state.placements indexed.2 = []
    · rfl
    · intro other found manual before after reserved empty
      have different : indexed.2 ≠ other.2 := by
        intro same
        exact manual (same_intent listed found same ▸ automatic)
      rw [(reserve_count reserved).2 indexed.2 different]
      exact empty

/-- The loop over the automatic models ends, whatever the two passes before it left. -/
def LoopEnds (numNodes gpusPerNode cpusPerNode maxReplicas : Nat) (intents : List ModelIntent) : Prop :=
  ∀ explicit pipelined,
    intents.zipIdx.foldlM (placeRequested numNodes maxReplicas) (fullPlacing gpusPerNode cpusPerNode) = .ok explicit →
    intents.zipIdx.foldlM (placePipelined numNodes) explicit = .ok pipelined →
    Settles numNodes maxReplicas (autoTp intents) pipelined
      (placeModels numNodes intents gpusPerNode cpusPerNode maxReplicas)

/-- No automatic model below the maximum fits once more. -/
def WorkConserving (numNodes gpusPerNode cpusPerNode maxReplicas : Nat) (intents : List ModelIntent)
    (models : List ModelPlan) : Prop :=
  ∀ intent model, (intent, model) ∈ intents.zip models → intent.Automatic → model.replicas.length < maxReplicas →
    ∀ rank, rank < numNodes →
      gpusPerNode - usedOn rank (models.flatMap ModelPlan.replicas) < intent.tensorParallelSize ∨
        cpusPerNode - demandOf rank (models.flatMap ModelPlan.replicas) < intent.numCpusPerReplica

/-- Automatic models of one size are at most one replica apart. -/
def Even (intents : List ModelIntent) (models : List ModelPlan) : Prop :=
  ∀ first ∈ intents.zip models, ∀ second ∈ intents.zip models, first.1.Automatic → second.1.Automatic →
    first.1.tensorParallelSize = second.1.tensorParallelSize →
    first.1.numCpusPerReplica = second.1.numCpusPerReplica →
    first.2.replicas.length ≤ second.2.replicas.length + 1

theorem loop_ends : LoopEnds numNodes gpusPerNode cpusPerNode maxReplicas intents := by
  intro explicit pipelined first second
  have rounds : placeModels numNodes intents gpusPerNode cpusPerNode maxReplicas =
      placeRounds numNodes maxReplicas (autoTp intents) (numNodes * gpusPerNode + 1) pipelined := by
    unfold placeModels
    rw [ok_bind first, ok_bind second]
    rfl
  rw [rounds]
  apply placeRounds_settles
  have below := (before_loop first second).1
  omega

theorem placeModels_settled {state : Placing}
    (done : placeModels numNodes intents gpusPerNode cpusPerNode maxReplicas = .ok state) :
    ∃ pipelined, Settles numNodes maxReplicas (autoTp intents) pipelined (.ok state) ∧
      ∀ indexed ∈ autoTp intents, pipelined.placements indexed.2 = [] := by
  have ends := done
  unfold placeModels at done
  obtain ⟨explicit, first, done⟩ := bind_ok done
  obtain ⟨pipelined, second, -⟩ := bind_ok done
  exact ⟨pipelined, ends ▸ loop_ends explicit pipelined first second, (before_loop first second).2⟩

theorem even_counts {state : Placing}
    (done : placeModels numNodes intents gpusPerNode cpusPerNode maxReplicas = .ok state)
    {first second : ModelIntent × Nat}
    (one : first ∈ autoTp intents) (two : second ∈ autoTp intents)
    (devices : first.1.tensorParallelSize = second.1.tensorParallelSize)
    (cpus : first.1.numCpusPerReplica = second.1.numCpusPerReplica) :
    (state.placements first.2).length ≤ (state.placements second.2).length + 1 := by
  obtain ⟨pipelined, settles, empty⟩ := placeModels_settled done
  have ascending := @autoTp_ascending intents
  have distinct : ((autoTp intents).map Prod.snd).Nodup :=
    List.pairwise_map.mpr (ascending.imp fun less => ne_of_lt less)
  have single : ∀ indexed ∈ autoTp intents, indexed.1.pipelineParallelSize = 1 :=
    fun indexed member => (mem_autoTp.mp member).2.2
  have level : ∀ left right : ModelIntent × Nat, left ∈ autoTp intents → right ∈ autoTp intents →
      Level numNodes left.1 left.2 right.2 pipelined := by
    intro left right here there
    left
    rw [empty left here, empty right there]
  obtain ⟨before, after, split⟩ := List.append_of_mem one
  rw [split, List.mem_append, List.mem_cons] at two
  rcases two with earlier | same | later
  · obtain ⟨start, middle, rest⟩ := List.append_of_mem earlier
    have paired : Paired (autoTp intents) second first :=
      ⟨⟨start, middle, after, by rw [split, rest]; simp⟩, devices.symm, cpus.symm⟩
    have member : second ∈ autoTp intents := by
      rw [split]
      exact List.mem_append_left _ earlier
    rcases settles.level paired distinct single rfl (level second first member one) with same | ahead
    · omega
    · omega
  · rw [same]
    omega
  · obtain ⟨middle, rest, tail⟩ := List.append_of_mem later
    have paired : Paired (autoTp intents) first second := ⟨⟨before, middle, rest, by rw [split, tail]⟩, devices, cpus⟩
    have member : second ∈ autoTp intents := by
      rw [split]
      exact List.mem_append_right _ (List.mem_cons_of_mem _ later)
    rcases settles.level paired distinct single rfl (level first second one member) with same | ahead
    · omega
    · omega

theorem indexed_of_zip {models : List ModelPlan} {related : ModelIntent × Nat → ModelPlan → Prop}
    (each : List.Forall₂ related intents.zipIdx models) {intent : ModelIntent} {model : ModelPlan}
    (member : (intent, model) ∈ intents.zip models) :
    ∃ index, (intent, index) ∈ intents.zipIdx ∧ related (intent, index) model := by
  obtain ⟨position, below, found⟩ := List.getElem_of_mem member
  rw [List.length_zip] at below
  rw [List.getElem_zip] at found
  cases found
  have long : position < intents.zipIdx.length := by
    rw [List.length_zipIdx]
    omega
  have related_here := each.get long (by omega)
  simp only [List.get_eq_getElem, List.getElem_zipIdx, Nat.zero_add] at related_here
  exact ⟨position, List.mem_zipIdx_iff_getElem?.mpr (List.getElem?_eq_getElem (by omega)), related_here⟩

theorem used_of_placed {state : Placing} (booked : Booked numNodes gpusPerNode cpusPerNode intents state) (rank : Nat) :
    (state.devices rank).length +
        usedOn rank (intents.zipIdx.flatMap fun indexed => state.placements indexed.2) = gpusPerNode ∧
      state.cpus rank +
        demandOf rank (intents.zipIdx.flatMap fun indexed => state.placements indexed.2) = cpusPerNode := by
  have by_index : ∀ f : Nat → Nat, (intents.zipIdx.map fun indexed => f indexed.2).sum =
      ((List.range intents.length).map f).sum := by
    intro f
    rw [List.range_eq_range', ← List.zipIdx_map_snd 0 intents, List.map_map]
    rfl
  rw [usedOn_flatMap, demandOf_flatMap, by_index fun index => usedOn rank (state.placements index),
    by_index fun index => demandOf rank (state.placements index)]
  exact ⟨booked.used rank, booked.cpus rank⟩

theorem work_conserving {envelope : ScaleEnvelope} {models : List ModelPlan}
    (resolved : resolveModels numNodes intents gpusPerNode cpusPerNode envelope = .ok models) :
    WorkConserving numNodes gpusPerNode cpusPerNode envelope.maxReplicasPerModel.val intents models := by
  obtain ⟨state, done, placed⟩ := resolveModels_placed resolved
  obtain ⟨pipelined, settles, -⟩ := placeModels_settled done
  have booked := placeModels_booked done
  intro intent model member automatic room rank below
  obtain ⟨index, found, -, -, replicas⟩ := indexed_of_zip placed member
  rw [replicas] at room
  have full : state.Full numNodes intent := by
    rcases settles.exhausted rfl (intent, index) (mem_autoTp.mpr ⟨found, automatic⟩) with most | none
    · exact absurd most (by omega)
    · exact reserve_none_full automatic.2 none
  have left := used_of_placed booked rank
  rw [replicas_of_placed placed]
  by_contra fits
  apply full rank below
  constructor <;> omega

theorem even {envelope : ScaleEnvelope} {models : List ModelPlan}
    (resolved : resolveModels numNodes intents gpusPerNode cpusPerNode envelope = .ok models) : Even intents models := by
  obtain ⟨state, done, placed⟩ := resolveModels_placed resolved
  rintro ⟨intent, model⟩ one ⟨other, plan⟩ two automatic also devices cpus
  obtain ⟨index, found, -, -, replicas⟩ := indexed_of_zip placed one
  obtain ⟨position, listed, -, -, replicas'⟩ := indexed_of_zip placed two
  dsimp only
  rw [replicas, replicas']
  exact even_counts done (mem_autoTp.mpr ⟨found, automatic⟩) (mem_autoTp.mpr ⟨listed, also⟩) devices cpus

end Results

section Alone

variable {numNodes gpusPerNode cpusPerNode maxReplicas : Nat} {intent : ModelIntent}

theorem placeRounds_alone (positive : intent.Positive) (single : intent.pipelineParallelSize = 1) {rounds : Nat}
    {stacked : Nat → Nat} {state : Placing} (level : Stacked numNodes gpusPerNode cpusPerNode intent stacked state) :
    ∃ after, placeRounds numNodes maxReplicas [(intent, 0)] rounds state = .ok after := by
  induction rounds generalizing stacked state with
  | zero => exact ⟨state, rfl⟩
  | succ rounds ih =>
    obtain ⟨found, done, -⟩ := level.reserve_iff ⟨positive.devices, positive.cpus⟩ single
    unfold placeRounds
    rw [List.foldlM_cons]
    unfold placeOne
    dsimp only
    split_ifs
    · exact ⟨state, rfl⟩
    · rw [ok_bind done]
      cases found with
      | none => exact ⟨state, rfl⟩
      | some next =>
        obtain ⟨raised, higher⟩ := level.step single done
        exact ih higher

/-- The automatic count of a model that has the nodes to itself. -/
theorem automatic_count (positive : intent.Positive) (automatic : intent.Automatic) :
    ∃ state, placeModels numNodes [intent] gpusPerNode cpusPerNode maxReplicas = .ok state ∧
      (state.placements 0).length = min maxReplicas (numNodes * intent.perNode gpusPerNode cpusPerNode) := by
  have first : [intent].zipIdx.foldlM (placeRequested numNodes maxReplicas) (fullPlacing gpusPerNode cpusPerNode) =
      .ok (fullPlacing gpusPerNode cpusPerNode) := by
    simp [placeRequested, automatic.1]
  have second : [intent].zipIdx.foldlM (placePipelined numNodes) (fullPlacing gpusPerNode cpusPerNode) =
      .ok (fullPlacing gpusPerNode cpusPerNode) := by
    simp [placePipelined, automatic.2]
  have auto : autoTp [intent] = [(intent, 0)] := by
    simp [autoTp, automatic.1, automatic.2]
  obtain ⟨state, rounds⟩ := @placeRounds_alone numNodes gpusPerNode cpusPerNode maxReplicas intent positive automatic.2
    (numNodes * gpusPerNode + 1) _ _ stacked_start
  have done : placeModels numNodes [intent] gpusPerNode cpusPerNode maxReplicas = .ok state := by
    unfold placeModels
    rw [ok_bind first, ok_bind second]
    rw [← auto] at rounds
    exact rounds
  refine ⟨state, done, ?_⟩
  have kept : ∃ stacked, Stacked numNodes gpusPerNode cpusPerNode intent stacked state ∧
      (state.placements 0).length ≤ maxReplicas := by
    refine @placeRounds_kept _ (fun state => ∃ stacked, Stacked numNodes gpusPerNode cpusPerNode intent stacked state ∧
      (state.placements 0).length ≤ maxReplicas) _ _ ?_ _ _ _ rounds ⟨_, stacked_start, Nat.zero_le _⟩
    intro indexed member before after room reserved held
    rw [List.mem_singleton] at member
    subst member
    obtain ⟨stacked, level, -⟩ := held
    obtain ⟨raised, higher⟩ := level.step automatic.2 reserved
    exact ⟨raised, higher, by rw [(reserve_count reserved).1]; exact room⟩
  obtain ⟨stacked, level, most⟩ := kept
  obtain ⟨pipelined, settles, -⟩ := placeModels_settled done
  have bounds := level.full_iff ⟨positive.devices, positive.cpus⟩
  have last := settles.exhausted rfl (intent, 0) (by rw [auto]; exact List.mem_singleton_self _)
  rcases last with reached | none
  · have reached : maxReplicas ≤ (state.placements 0).length := reached
    omega
  · have filled := bounds.2.mp (reserve_none_full automatic.2 none)
    omega

/-- Which explicit counts a model that has the nodes to itself can have. -/
theorem explicit_placeable (positive : intent.Positive) {count : Nat} (requested : intent.requestedReplicas = some count)
    (within : count ≤ maxReplicas) :
    (∃ state, placeModels numNodes [intent] gpusPerNode cpusPerNode maxReplicas = .ok state) ↔
      if intent.pipelineParallelSize = 1 then count ≤ numNodes * intent.perNode gpusPerNode cpusPerNode
      else count * intent.pipelineParallelSize ≤ numNodes ∧ intent.tensorParallelSize ≤ gpusPerNode ∧
        intent.numCpusPerReplica ≤ cpusPerNode := by
  have auto : autoTp [intent] = [] := by
    simp [autoTp, requested]
  have passes : ∀ state : Placing, [intent].zipIdx.foldlM (placePipelined numNodes) state = .ok state := by
    intro state
    simp [placePipelined, requested]
  have reduced : (∃ state, placeModels numNodes [intent] gpusPerNode cpusPerNode maxReplicas = .ok state) ↔
      ∃ state, reserveAll numNodes 0 intent (planError
        s!"deployment.models[{0}].num_replicas={count} cannot be placed in the declared node/GPU/CPU demand")
        count (fullPlacing gpusPerNode cpusPerNode) = .ok state := by
    have explicit : [intent].zipIdx.foldlM (placeRequested numNodes maxReplicas) (fullPlacing gpusPerNode cpusPerNode) =
        reserveAll numNodes 0 intent (planError
          s!"deployment.models[{0}].num_replicas={count} cannot be placed in the declared node/GPU/CPU demand")
          count (fullPlacing gpusPerNode cpusPerNode) := by
      rw [List.zipIdx_singleton, List.foldlM_cons]
      unfold placeRequested
      dsimp only
      rw [requested]
      dsimp only
      rw [ok_bind (require_ok within _)]
      simp only [List.foldlM_nil]
      exact bind_pure _
    unfold placeModels
    rw [explicit]
    constructor
    · rintro ⟨state, done⟩
      obtain ⟨placed, reserved, -⟩ := bind_ok done
      exact ⟨placed, reserved⟩
    · rintro ⟨placed, reserved⟩
      refine ⟨placed, ?_⟩
      rw [ok_bind reserved, ok_bind (passes placed)]
      show placeRounds numNodes maxReplicas (autoTp [intent]) _ placed = _
      rw [auto]
      rfl
  rw [reduced]
  split_ifs with single
  · rw [stacked_start.reserveAll_iff ⟨positive.devices, positive.cpus⟩ single]
    simp [fullPlacing]
  · have several : 1 < intent.pipelineParallelSize := by
      have stages := positive.stages
      omega
    have some_count : count ≠ 0 := by
      rintro rfl
      exact positive.requested requested
    rw [spread_start.reserveAll_iff positive.devices several]
    simp [fullPlacing, some_count]

end Alone

/-- Automatic placement of compiled models: the loop ends, wastes no room, shares it
    evenly, and gives a model that is alone exactly what fits. -/
theorem automatic_placement {rawModels : Option Json} {numNodes gpusPerNode : Nat} {intents : List ModelIntent}
    (compiled : compileModelIntents rawModels numNodes gpusPerNode = .ok intents) (cpusPerNode : Nat)
    (envelope : ScaleEnvelope) :
    LoopEnds numNodes gpusPerNode cpusPerNode envelope.maxReplicasPerModel.val intents ∧
    (∀ models, resolveModels numNodes intents gpusPerNode cpusPerNode envelope = .ok models →
      WorkConserving numNodes gpusPerNode cpusPerNode envelope.maxReplicasPerModel.val intents models ∧
        Even intents models) ∧
    ∀ intent, intents = [intent] →
      (intent.Automatic → ∃ state,
        placeModels numNodes intents gpusPerNode cpusPerNode envelope.maxReplicasPerModel.val = .ok state ∧
          (state.placements 0).length =
            min envelope.maxReplicasPerModel.val (numNodes * intent.perNode gpusPerNode cpusPerNode)) ∧
      ∀ count, intent.requestedReplicas = some count → count ≤ envelope.maxReplicasPerModel.val →
        ((∃ state, placeModels numNodes intents gpusPerNode cpusPerNode envelope.maxReplicasPerModel.val = .ok state) ↔
          if intent.pipelineParallelSize = 1 then count ≤ numNodes * intent.perNode gpusPerNode cpusPerNode
          else count * intent.pipelineParallelSize ≤ numNodes ∧ intent.tensorParallelSize ≤ gpusPerNode ∧
            intent.numCpusPerReplica ≤ cpusPerNode) := by
  refine ⟨loop_ends, ?_, ?_⟩
  · intro models resolved
    exact ⟨work_conserving resolved, even resolved⟩
  · rintro intent rfl
    have positive := compileModelIntents_positive compiled intent List.mem_cons_self
    constructor
    · intro automatic
      exact automatic_count positive automatic
    · intro count requested within
      exact explicit_placeable positive requested within

/-- A wide model alone on two nodes. -/
def wideAlone : Json :=
  .arr [.obj [("model_id", .str "org/wide"), ("tensor_parallel_size", .int 3)]]

theorem wide_alone_placed : ∃ intent state, compileModelIntents (some wideAlone) 2 4 = .ok [intent] ∧
    placeModels 2 [intent] 4 64 sampleEnvelope.maxReplicasPerModel.val = .ok state ∧
    (state.placements 0).length =
      min sampleEnvelope.maxReplicasPerModel.val (2 * intent.perNode 4 64) := by
  have found : (compileModelIntents (some wideAlone) 2 4).toOption.map (fun intents =>
      (intents.length, intents.all fun intent => decide intent.Automatic)) = some (1, true) := by decide +kernel
  obtain ⟨intents, compiled, facts⟩ := ok_of_toOption found
  obtain ⟨one, all⟩ := Prod.mk.inj facts
  obtain ⟨intent, rfl⟩ := List.length_eq_one_iff.mp one
  have automatic : intent.Automatic := by simpa using all
  obtain ⟨-, -, alone⟩ := automatic_placement compiled 64 sampleEnvelope
  obtain ⟨state, placed, counted⟩ := (alone intent rfl).1 automatic
  exact ⟨intent, state, compiled, placed, counted⟩

end ExaServe.Plan
