import Mathlib.Algebra.BigOperators.Intervals
import ExaServe.Plan.Placement

namespace ExaServe.Plan

open Lib Control

section Slots

/-- The devices the replicas of a model hold. -/
def Placing.slots (state : Placing) (index : Nat) : List (Nat × Nat) :=
  (state.placements index).flatMap ReplicaPlan.occupied

/-- The processors its replicas take of a rank, the primary of each. -/
def demandOf (rank : Nat) (replicas : List ReplicaPlan) : Nat :=
  ((replicas.filter fun replica => replica.plannedRanks.head? = some rank).map ReplicaPlan.cpuDemand).sum

theorem demandOf_append (rank : Nat) (left right : List ReplicaPlan) :
    demandOf rank (left ++ right) = demandOf rank left + demandOf rank right := by
  simp [demandOf]

theorem demandOf_singleton (rank : Nat) (replica : ReplicaPlan) :
    demandOf rank [replica] = if replica.plannedRanks.head? = some rank then replica.cpuDemand else 0 := by
  unfold demandOf
  rw [List.filter_singleton]
  split_ifs <;> simp_all

theorem demandOf_flatMap {α : Type} (rank : Nat) (items : List α) (replicas : α → List ReplicaPlan) :
    demandOf rank (items.flatMap replicas) = (items.map fun item => demandOf rank (replicas item)).sum := by
  induction items with
  | nil => rfl
  | cons item rest ih => rw [List.flatMap_cons, demandOf_append, ih, List.map_cons, List.sum_cons]

/-- How many of the devices of a rank the replicas hold. -/
def usedOn (rank : Nat) (replicas : List ReplicaPlan) : Nat :=
  (replicas.flatMap ReplicaPlan.occupied).countP fun slot => slot.1 = rank

theorem usedOn_append (rank : Nat) (left right : List ReplicaPlan) :
    usedOn rank (left ++ right) = usedOn rank left + usedOn rank right := by
  simp [usedOn]

theorem usedOn_flatMap {α : Type} (rank : Nat) (items : List α) (replicas : α → List ReplicaPlan) :
    usedOn rank (items.flatMap replicas) = (items.map fun item => usedOn rank (replicas item)).sum := by
  induction items with
  | nil => rfl
  | cons item rest ih => rw [List.flatMap_cons, usedOn_append, ih, List.map_cons, List.sum_cons]

theorem occupied_eq {replica : ReplicaPlan} {selected : List Nat} {devices : Nat → List Nat}
    (ranks : replica.plannedRanks = selected) (groups : replica.plannedDeviceIds = selected.map devices) :
    replica.occupied = selected.flatMap fun rank => (devices rank).map fun device => (rank, device) := by
  unfold ReplicaPlan.occupied
  rw [ranks, groups]
  clear ranks groups
  induction selected with
  | nil => rfl
  | cons rank rest ih => rw [List.map_cons, List.zip_cons_cons, List.flatMap_cons, ih, List.flatMap_cons]

theorem mem_occupied {replica : ReplicaPlan} {selected : List Nat} {devices : Nat → List Nat}
    (ranks : replica.plannedRanks = selected) (groups : replica.plannedDeviceIds = selected.map devices)
    {slot : Nat × Nat} : slot ∈ replica.occupied ↔ slot.1 ∈ selected ∧ slot.2 ∈ devices slot.1 := by
  rw [occupied_eq ranks groups]
  obtain ⟨rank, device⟩ := slot
  simp

theorem countP_occupied {replica : ReplicaPlan} {selected : List Nat} {devices : Nat → List Nat}
    (ranks : replica.plannedRanks = selected) (groups : replica.plannedDeviceIds = selected.map devices)
    (distinct : selected.Nodup) (rank : Nat) : replica.occupied.countP (fun slot => slot.1 = rank) =
      if rank ∈ selected then (devices rank).length else 0 := by
  rw [occupied_eq ranks groups]
  clear ranks groups
  induction selected with
  | nil => rfl
  | cons head rest ih =>
    obtain ⟨fresh, distinct⟩ := List.nodup_cons.mp distinct
    rw [List.flatMap_cons, List.countP_append, ih distinct, List.countP_map]
    by_cases same : rank = head
    · subst same
      rw [if_neg fresh, if_pos List.mem_cons_self, Nat.add_zero, List.countP_eq_length]
      intro device _
      exact decide_eq_true rfl
    · have none : (devices head).countP
          ((fun slot : Nat × Nat => decide (slot.1 = rank)) ∘ fun device => (head, device)) = 0 := by
        rw [List.countP_eq_zero]
        intro device _
        simpa using Ne.symm same
      rw [none, Nat.zero_add]
      simp [same]

end Slots

/-- What the reservations keep: every device is free or held once, no processor is taken
    twice, and a pipelined model has no rank twice. -/
structure Booked (numNodes gpusPerNode cpusPerNode : Nat) (intents : List ModelIntent) (state : Placing) : Prop where
  devices : ∀ rank, (state.devices rank).Nodup ∧ ∀ device ∈ state.devices rank, device < gpusPerNode
  held : ∀ index, (state.slots index).Nodup
  apart : ∀ left right, left ≠ right → (state.slots left).Disjoint (state.slots right)
  taken : ∀ index, ∀ slot ∈ state.slots index, slot.2 ∉ state.devices slot.1
  bounded : ∀ index, ∀ slot ∈ state.slots index, slot.2 < gpusPerNode
  ranks : ∀ index, ∀ replica ∈ state.placements index, ∀ rank ∈ replica.plannedRanks, rank < numNodes
  used : ∀ rank, (state.devices rank).length +
    ((List.range intents.length).map fun index => usedOn rank (state.placements index)).sum = gpusPerNode
  cpus : ∀ rank, state.cpus rank +
    ((List.range intents.length).map fun index => demandOf rank (state.placements index)).sum = cpusPerNode
  pipelined : ∀ intent index, (intent, index) ∈ intents.zipIdx → 1 < intent.pipelineParallelSize →
    ((state.placements index).flatMap ReplicaPlan.plannedRanks).Nodup

section Step

variable {numNodes gpusPerNode cpusPerNode : Nat} {intents : List ModelIntent}

theorem sum_range_update {f g : Nat → Nat} {count index extra : Nat} (inside : index < count)
    (here : g index = f index + extra) (elsewhere : ∀ other, other ≠ index → g other = f other) :
    ((List.range count).map g).sum = ((List.range count).map f).sum + extra := by
  have split : ∀ h : Nat → Nat, ((List.range count).map h).sum = ∑ position ∈ Finset.range count, h position :=
    fun _ => rfl
  rw [split, split, ← Finset.add_sum_erase _ g (Finset.mem_range.mpr inside),
    ← Finset.add_sum_erase _ f (Finset.mem_range.mpr inside), here]
  have rest : ∑ position ∈ (Finset.range count).erase index, g position =
      ∑ position ∈ (Finset.range count).erase index, f position := by
    apply Finset.sum_congr rfl
    intro position member
    exact elsewhere position (Finset.ne_of_mem_erase member)
  rw [rest]
  omega

theorem booked_start : Booked numNodes gpusPerNode cpusPerNode intents (fullPlacing gpusPerNode cpusPerNode) where
  devices := fun _ => ⟨List.nodup_range, fun _ member => List.mem_range.mp member⟩
  held := fun _ => List.nodup_nil
  apart := fun _ _ _ => List.disjoint_nil_left _
  taken := by
    intro index slot member
    cases member
  bounded := by
    intro index slot member
    cases member
  ranks := by
    intro index replica member
    cases member
  used := by
    intro rank
    simp [fullPlacing, usedOn]
  cpus := by
    intro rank
    simp [fullPlacing, demandOf]
  pipelined := fun _ _ _ _ => List.nodup_nil

variable {state : Placing} {index : Nat} {intent : ModelIntent} {primary : Nat} {others : List Nat}
  {replica : ReplicaPlan}

theorem slots_reserved (other : Nat) :
    (state.reserved index intent (primary :: others) replica).slots other =
      if other = index then state.slots index ++ replica.occupied else state.slots other := by
  unfold Placing.slots Placing.reserved
  dsimp only
  split_ifs
  · rw [List.flatMap_append, List.flatMap_singleton]
  · rfl

/-- The slots of the new replica were free and are not any more. -/
theorem slot_taken (added : state.Adds index intent (primary :: others) replica)
    (distinct : ∀ rank, (state.devices rank).Nodup) {slot : Nat × Nat} (member : slot ∈ replica.occupied) :
    slot.2 ∈ state.devices slot.1 ∧
      slot.2 ∉ (state.reserved index intent (primary :: others) replica).devices slot.1 := by
  obtain ⟨chosen, within⟩ := (mem_occupied added.plannedRanks added.plannedDeviceIds).mp member
  constructor
  · exact List.mem_of_mem_take within
  · unfold Placing.reserved
    dsimp only
    rw [if_pos chosen]
    intro again
    have parts := distinct slot.1
    rw [← List.take_append_drop intent.tensorParallelSize (state.devices slot.1)] at parts
    exact (List.nodup_append.mp parts).2.2 _ within _ again rfl

theorem devices_shrink (rank : Nat) :
    ((state.reserved index intent (primary :: others) replica).devices rank).Sublist (state.devices rank) := by
  unfold Placing.reserved
  dsimp only
  split_ifs
  · exact List.drop_sublist _ _
  · exact List.Sublist.refl _

theorem occupied_nodup (added : state.Adds index intent (primary :: others) replica)
    (chosen : Selected numNodes state index intent primary others) (distinct : ∀ rank, (state.devices rank).Nodup) :
    replica.occupied.Nodup := by
  rw [occupied_eq added.plannedRanks added.plannedDeviceIds, List.nodup_flatMap]
  constructor
  · intro rank _
    apply List.Nodup.map
    · intro left right same
      exact congrArg Prod.snd same
    · exact (distinct rank).sublist (List.take_sublist _ _)
  · apply chosen.distinct.imp
    intro left right different slot here there
    obtain ⟨_, -, first⟩ := List.mem_map.mp here
    obtain ⟨_, -, second⟩ := List.mem_map.mp there
    exact different ((congrArg Prod.fst first).trans (congrArg Prod.fst second).symm)

theorem Booked.step (booked : Booked numNodes gpusPerNode cpusPerNode intents state)
    (member : (intent, index) ∈ intents.zipIdx) (chosen : Selected numNodes state index intent primary others)
    (added : state.Adds index intent (primary :: others) replica) :
    Booked numNodes gpusPerNode cpusPerNode intents (state.reserved index intent (primary :: others) replica) := by
  have distinct : ∀ rank, (state.devices rank).Nodup := fun rank => (booked.devices rank).1
  have fresh : ∀ other, ∀ slot ∈ replica.occupied, slot ∉ state.slots other := by
    intro other slot here there
    exact booked.taken other slot there (slot_taken added distinct here).1
  have inside : index < intents.length := (List.mem_zipIdx' member).1
  constructor
  · intro rank
    have shrink := @devices_shrink state index intent primary others replica rank
    constructor
    · exact (distinct rank).sublist shrink
    · intro device left
      exact (booked.devices rank).2 device (shrink.subset left)
  · intro other
    rw [slots_reserved]
    split_ifs
    · rw [List.nodup_append]
      refine ⟨booked.held index, occupied_nodup added chosen distinct, ?_⟩
      rintro slot earlier _ new rfl
      exact fresh index slot new earlier
    · exact booked.held other
  · intro left right different
    rw [slots_reserved, slots_reserved]
    split_ifs with first second second
    · exact absurd (first.trans second.symm) different
    · apply List.disjoint_append_left.mpr
      constructor
      · exact booked.apart index right (first ▸ different)
      · intro slot new earlier
        exact fresh right slot new earlier
    · apply List.disjoint_append_right.mpr
      constructor
      · exact booked.apart left index (second ▸ different)
      · intro slot earlier new
        exact fresh left slot new earlier
    · exact booked.apart left right different
  · intro other slot held
    rw [slots_reserved] at held
    have before : slot ∈ state.slots index ∨ slot ∈ state.slots other →
        slot.2 ∉ (state.reserved index intent (primary :: others) replica).devices slot.1 := by
      rintro (earlier | earlier) left
      · exact booked.taken index slot earlier ((devices_shrink slot.1).subset left)
      · exact booked.taken other slot earlier ((devices_shrink slot.1).subset left)
    split_ifs at held
    · rcases List.mem_append.mp held with earlier | new
      · exact before (.inl earlier)
      · exact (slot_taken added distinct new).2
    · exact before (.inr held)
  · intro other slot held
    rw [slots_reserved] at held
    split_ifs at held
    · rcases List.mem_append.mp held with earlier | new
      · exact booked.bounded index slot earlier
      · exact (booked.devices slot.1).2 slot.2 (slot_taken added distinct new).1
    · exact booked.bounded other slot held
  · intro other probe listed
    unfold Placing.reserved at listed
    dsimp only at listed
    split_ifs at listed
    · rcases List.mem_append.mp listed with earlier | last
      · exact booked.ranks index probe earlier
      · rw [List.mem_singleton] at last
        rw [last, added.plannedRanks]
        intro rank used
        exact (chosen.room used).1
    · exact booked.ranks other probe listed
  · intro rank
    rw [← booked.used rank]
    have counted : ((List.range intents.length).map fun other =>
        usedOn rank ((state.reserved index intent (primary :: others) replica).placements other)).sum =
          ((List.range intents.length).map fun other => usedOn rank (state.placements other)).sum +
            if rank ∈ primary :: others then ((state.devices rank).take intent.tensorParallelSize).length else 0 := by
      apply sum_range_update inside
      · simp only [Placing.reserved, if_true]
        rw [usedOn_append, ← countP_occupied added.plannedRanks added.plannedDeviceIds chosen.distinct]
        simp [usedOn]
      · intro other different
        simp only [Placing.reserved, if_neg different]
    rw [counted]
    simp only [Placing.reserved]
    split_ifs with listed
    · have enough := (chosen.room listed).2.2
      rw [List.length_take, List.length_drop]
      omega
    · rfl
  · intro rank
    rw [← booked.cpus rank]
    have counted : ((List.range intents.length).map fun other =>
        demandOf rank ((state.reserved index intent (primary :: others) replica).placements other)).sum =
          ((List.range intents.length).map fun other => demandOf rank (state.placements other)).sum +
            if primary = rank then intent.numCpusPerReplica else 0 := by
      apply sum_range_update inside
      · simp only [Placing.reserved, if_true]
        rw [demandOf_append, demandOf_singleton, added.plannedRanks, added.cpuDemand]
        simp
      · intro other different
        simp only [Placing.reserved, if_neg different]
    rw [counted]
    have enough := (mem_eligiblePrimary.mp chosen.primary_eligible).2.2.2
    simp only [Placing.reserved, List.head?_cons, Option.some.injEq]
    by_cases same : rank = primary
    · subst same
      rw [if_pos rfl, if_pos rfl]
      omega
    · rw [if_neg same, if_neg (Ne.symm same)]
      omega
  · intro given other found several
    unfold Placing.reserved
    dsimp only
    split_ifs with same
    · subst same
      have equal : given = intent := by
        rw [List.mem_zipIdx_iff_getElem?] at found member
        exact Option.some.inj (found.symm.trans member)
      subst equal
      rw [List.flatMap_append, List.flatMap_singleton, added.plannedRanks, List.nodup_append]
      refine ⟨booked.pipelined given other found several, chosen.distinct, ?_⟩
      rintro rank earlier _ new rfl
      have unused := (chosen.room new).2.1
      unfold ranksInUse at unused
      rw [if_pos several] at unused
      exact unused earlier
    · exact booked.pipelined given other found several

theorem placeModels_booked {maxReplicas : Nat}
    (done : placeModels numNodes intents gpusPerNode cpusPerNode maxReplicas = .ok state) :
    Booked numNodes gpusPerNode cpusPerNode intents state := by
  apply placeModels_kept _ done booked_start
  intro indexed member before after reserved booked
  rcases reserve_cases reserved with ⟨none, -⟩ | ⟨primary, others, replica, chosen, added, same⟩
  · cases none
  · cases same
    exact booked.step member chosen added

end Step

end ExaServe.Plan
