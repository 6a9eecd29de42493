import Mathlib.Algebra.Order.BigOperators.Group.List
import ExaServe.Plan.PlacementSound

namespace ExaServe.Plan

open Lib Control

section Reserve

variable {numNodes : Nat} {state : Placing} {index : Nat} {intent : ModelIntent}

/-- A rank can hold the primary of one more replica. -/
def Placing.Fits (state : Placing) (intent : ModelIntent) (rank : Nat) : Prop :=
  intent.tensorParallelSize ≤ (state.devices rank).length ∧ intent.numCpusPerReplica ≤ state.cpus rank

theorem selectRanks_none_single (single : intent.pipelineParallelSize = 1) :
    selectRanks numNodes state index intent = none ↔ ∀ rank, rank < numNodes → ¬state.Fits intent rank := by
  have unused : ranksInUse state index intent = [] := by
    unfold ranksInUse
    rw [if_neg (by omega)]
  rw [selectRanks_none, single]
  constructor
  · intro none rank below fits
    have eligible : rank ∈ eligiblePrimary numNodes state index intent :=
      mem_eligiblePrimary.mpr ⟨below, by rw [unused]; exact List.not_mem_nil, fits⟩
    exact absurd (none rank eligible) (by omega)
  · intro none rank eligible
    have facts := mem_eligiblePrimary.mp eligible
    exact absurd facts.2.2 (none rank facts.1)

/-- A reservation of a compiled model raises nothing. -/
theorem reserve_total (sizes : 1 ≤ intent.tensorParallelSize ∧ 1 ≤ intent.pipelineParallelSize)
    (distinct : ∀ rank, (state.devices rank).Nodup) : ∃ found, reserve numNodes state index intent = .ok found ∧
      (found = none ↔ selectRanks numNodes state index intent = none) := by
  unfold reserve
  cases chosen : selectRanks numNodes state index intent with
  | none => exact ⟨none, rfl, by simp⟩
  | some selected =>
    obtain ⟨primary, others, rfl, facts⟩ := Selected.of_selectRanks chosen
    have named : s!"{intent.routeName}/replica-{(state.placements index).length}" ≠ "" := by
      intro empty
      have characters := congrArg String.toList empty
      simp at characters
    have stages : (primary :: others).length = intent.pipelineParallelSize := by
      have count := facts.count
      have several := sizes.2
      rw [List.length_cons]
      omega
    have groups : ∀ group ∈ (primary :: others).map (fun rank => (state.devices rank).take intent.tensorParallelSize),
        group.length = intent.tensorParallelSize ∧ group.Nodup := by
      intro group belongs
      obtain ⟨rank, member, rfl⟩ := List.mem_map.mp belongs
      constructor
      · exact List.length_take_of_le (facts.room member).2.2
      · exact (distinct rank).sublist (List.take_sublist _ _)
    have demand : 1 ≤ intent.tensorParallelSize * intent.pipelineParallelSize := Nat.mul_pos sizes.1 sizes.2
    have made : ∃ replica, ReplicaPlan.make s!"{intent.routeName}/replica-{(state.placements index).length}"
        (state.placements index).length (primary :: others)
        ((primary :: others).map fun rank => (state.devices rank).take intent.tensorParallelSize)
        intent.tensorParallelSize intent.pipelineParallelSize
        (intent.tensorParallelSize * intent.pipelineParallelSize) intent.numCpusPerReplica = .ok replica := by
      unfold ReplicaPlan.make
      rw [ok_bind (require_ok named _), ok_bind (require_ok sizes.1 _), ok_bind (require_ok sizes.2 _),
        ok_bind (require_ok demand _), ok_bind (require_ok ⟨List.cons_ne_nil _ _, facts.distinct⟩ _),
        ok_bind (require_ok stages _), ok_bind (require_ok (List.length_map _) _), ok_bind (require_ok groups _),
        ok_bind (require_ok rfl _)]
      exact ⟨_, rfl⟩
    obtain ⟨replica, made⟩ := made
    exact ⟨_, ok_bind made _, by simp⟩

end Reserve

section Loop

variable {numNodes maxReplicas : Nat} {auto : List (ModelIntent × Nat)}

/-- What the loop over the automatic models does, with no bound on its rounds. -/
inductive Settles (numNodes maxReplicas : Nat) (auto : List (ModelIntent × Nat)) :
    Placing → Except Raised Placing → Prop
  | raised {before : Placing} {error : Raised}
      (turn : auto.foldlM (placeOne numNodes maxReplicas) (false, before) = .error error) :
      Settles numNodes maxReplicas auto before (.error error)
  | settled {before after : Placing}
      (turn : auto.foldlM (placeOne numNodes maxReplicas) (false, before) = .ok (false, after)) :
      Settles numNodes maxReplicas auto before (.ok after)
  | again {before next : Placing} {result : Except Raised Placing}
      (turn : auto.foldlM (placeOne numNodes maxReplicas) (false, before) = .ok (true, next))
      (rest : Settles numNodes maxReplicas auto next result) : Settles numNodes maxReplicas auto before result

/-- The devices that are left. -/
def Placing.free (state : Placing) (numNodes : Nat) : Nat :=
  ((List.range numNodes).map fun rank => (state.devices rank).length).sum

theorem free_reserve {before after : Placing} {index : Nat} {intent : ModelIntent}
    (done : reserve numNodes before index intent = .ok (some after)) :
    after.free numNodes < before.free numNodes := by
  rcases reserve_cases done with ⟨none, -⟩ | ⟨primary, others, replica, chosen, added, same⟩
  · cases none
  cases same
  have shrinks : ∀ rank, ((before.reserved index intent (primary :: others) replica).devices rank).length ≤
      (before.devices rank).length := fun rank => (devices_shrink rank).length_le
  have room := chosen.room List.mem_cons_self
  have taken : ((before.reserved index intent (primary :: others) replica).devices primary).length <
      (before.devices primary).length := by
    have size := replica.sizes.1
    rw [added.tensorParallelSize] at size
    simp only [Placing.reserved, List.mem_cons_self, if_true, List.length_drop]
    omega
  unfold Placing.free
  apply List.sum_lt_sum
  · intro rank _
    exact shrinks rank
  · exact ⟨primary, List.mem_range.mpr room.1, taken⟩

/-- A turn of the round that says it progressed has taken a device. -/
theorem placeOne_free {indexed : ModelIntent × Nat} {before after : Bool × Placing}
    (done : placeOne numNodes maxReplicas before indexed = .ok after) :
    after.2.free numNodes ≤ before.2.free numNodes ∧
      (after.1 = true → before.1 = true ∨ after.2.free numNodes < before.2.free numNodes) := by
  unfold placeOne at done
  split_ifs at done
  · cases done
    exact ⟨le_refl _, Or.inl⟩
  · obtain ⟨found, reserved, done⟩ := bind_ok done
    cases found with
    | none =>
      cases done
      exact ⟨le_refl _, Or.inl⟩
    | some next =>
      cases done
      have less := free_reserve reserved
      exact ⟨le_of_lt less, fun _ => .inr less⟩

theorem round_free {before after : Bool × Placing}
    (done : auto.foldlM (placeOne numNodes maxReplicas) before = .ok after) :
    after.2.free numNodes ≤ before.2.free numNodes ∧
      (after.1 = true → before.1 = true ∨ after.2.free numNodes < before.2.free numNodes) := by
  induction auto generalizing before with
  | nil =>
    cases done
    exact ⟨le_refl _, Or.inl⟩
  | cons head rest ih =>
    rw [List.foldlM_cons] at done
    obtain ⟨next, stepped, done⟩ := bind_ok done
    have first := placeOne_free stepped
    have later := ih done
    constructor
    · exact later.1.trans first.1
    · intro progressed
      rcases later.2 progressed with earlier | less
      · rcases first.2 earlier with start | less
        · exact .inl start
        · exact .inr (lt_of_le_of_lt later.1 less)
      · exact .inr (lt_of_lt_of_le less first.1)

/-- The loop ends: more rounds than there are devices left are never needed. -/
theorem placeRounds_settles {rounds : Nat} {before : Placing} (enough : before.free numNodes < rounds) :
    Settles numNodes maxReplicas auto before (placeRounds numNodes maxReplicas auto rounds before) := by
  induction rounds generalizing before with
  | zero => omega
  | succ rounds ih =>
    unfold placeRounds
    cases turned : auto.foldlM (placeOne numNodes maxReplicas) (false, before) with
    | error raised => exact .raised turned
    | ok result =>
      obtain ⟨progressed, next⟩ := result
      cases progressed with
      | false => exact .settled turned
      | true =>
        have less : next.free numNodes < before.free numNodes := by
          rcases (round_free turned).2 rfl with start | less
          · cases start
          · exact less
        exact .again turned (ih (by omega))

theorem placeOne_progressed {indexed : ModelIntent × Nat} {before after : Bool × Placing}
    (done : placeOne numNodes maxReplicas before indexed = .ok after) :
    (before.1 = true → after.1 = true) ∧
      (after.1 = false → after = before ∧ (maxReplicas ≤ (before.2.placements indexed.2).length ∨
        reserve numNodes before.2 indexed.2 indexed.1 = .ok none)) := by
  unfold placeOne at done
  split_ifs at done with full
  · cases done
    exact ⟨id, fun _ => ⟨rfl, .inl full⟩⟩
  · obtain ⟨found, reserved, done⟩ := bind_ok done
    cases found with
    | none =>
      cases done
      exact ⟨id, fun _ => ⟨rfl, .inr reserved⟩⟩
    | some next =>
      cases done
      exact ⟨fun _ => rfl, nofun⟩

theorem round_progressed {before after : Bool × Placing}
    (done : auto.foldlM (placeOne numNodes maxReplicas) before = .ok after) : before.1 = true → after.1 = true := by
  induction auto generalizing before with
  | nil =>
    cases done
    exact id
  | cons head rest ih =>
    rw [List.foldlM_cons] at done
    obtain ⟨next, stepped, done⟩ := bind_ok done
    intro progressed
    exact ih done ((placeOne_progressed stepped).1 progressed)

/-- A round without progress leaves everything, and could place nothing. -/
theorem round_idle {before after : Bool × Placing}
    (done : auto.foldlM (placeOne numNodes maxReplicas) before = .ok after) (idle : after.1 = false) :
    after = before ∧ ∀ indexed ∈ auto, maxReplicas ≤ (after.2.placements indexed.2).length ∨
      reserve numNodes after.2 indexed.2 indexed.1 = .ok none := by
  induction auto generalizing before with
  | nil =>
    cases done
    exact ⟨rfl, nofun⟩
  | cons head rest ih =>
    rw [List.foldlM_cons] at done
    obtain ⟨next, stepped, later⟩ := bind_ok done
    have still : next.1 = false := by
      cases progressed : next.1 with
      | false => rfl
      | true =>
        rw [round_progressed later progressed] at idle
        cases idle
    obtain ⟨same, others⟩ := ih later
    obtain ⟨none, could⟩ := (placeOne_progressed stepped).2 still
    rw [← none] at could
    rw [same]
    rw [same] at others
    exact ⟨none, List.forall_mem_cons.mpr ⟨could, others⟩⟩

theorem Settles.exhausted {before : Placing} {result : Except Raised Placing}
    (settles : Settles numNodes maxReplicas auto before result) {after : Placing} (ends : result = .ok after) :
    ∀ indexed ∈ auto, maxReplicas ≤ (after.placements indexed.2).length ∨
      reserve numNodes after indexed.2 indexed.1 = .ok none := by
  induction settles with
  | raised => cases ends
  | again _ _ ih => exact ih ends
  | settled turn =>
    cases ends
    exact (round_idle turn rfl).2

end Loop

section Fair

variable {numNodes maxReplicas : Nat}

/-- No rank has room for one more replica of the model. -/
def Placing.Full (state : Placing) (numNodes : Nat) (intent : ModelIntent) : Prop :=
  ∀ rank, rank < numNodes → ¬state.Fits intent rank

theorem Fits.before {before after : Placing} {index rank : Nat} {intent given : ModelIntent}
    (done : reserve numNodes before index intent = .ok (some after)) (fits : after.Fits given rank) :
    before.Fits given rank := by
  rcases reserve_cases done with ⟨none, -⟩ | ⟨primary, others, replica, -, -, same⟩
  · cases none
  · cases same
    constructor
    · exact fits.1.trans (devices_shrink rank).length_le
    · have fewer : (before.reserved index intent (primary :: others) replica).cpus rank ≤ before.cpus rank := by
        simp only [Placing.reserved]
        split_ifs <;> omega
      exact fits.2.trans fewer

theorem Full.after {before after : Placing} {index : Nat} {intent given : ModelIntent}
    (done : reserve numNodes before index intent = .ok (some after)) (full : before.Full numNodes given) :
    after.Full numNodes given := by
  intro rank below fits
  exact full rank below (Fits.before done fits)

/-- What a turn of another model leaves of two models with these counts. -/
structure Unturned (numNodes : Nat) (given : ModelIntent) (first second : Nat) (before after : Placing) : Prop where
  first_kept : after.placements first = before.placements first
  second_kept : after.placements second = before.placements second
  full_kept : before.Full numNodes given → after.Full numNodes given

theorem round_unturned {given : ModelIntent} {first second : Nat} {others : List (ModelIntent × Nat)}
    (apart : ∀ indexed ∈ others, indexed.2 ≠ first ∧ indexed.2 ≠ second) {before after : Bool × Placing}
    (done : others.foldlM (placeOne numNodes maxReplicas) before = .ok after) :
    Unturned numNodes given first second before.2 after.2 := by
  refine @foldlM_kept _ _ _ _ (fun progress : Bool × Placing => Unturned numNodes given first second before.2 progress.2)
    others ?_ _ _ done ⟨rfl, rfl, id⟩
  intro indexed member earlier later stepped kept
  apply placeOne_kept _ stepped kept
  intro placed next _ reserved kept
  have counted := (reserve_count reserved).2
  have different := apart indexed member
  exact ⟨(counted first different.1.symm).trans kept.first_kept,
    (counted second different.2.symm).trans kept.second_kept, fun full => Full.after reserved (kept.full_kept full)⟩

/-- Two models of one size at the start of a round, the first of which has its turn
    first: they are level, or the first is ahead and nothing fits any more. -/
def Level (numNodes : Nat) (given : ModelIntent) (first second : Nat) (state : Placing) : Prop :=
  (state.placements first).length = (state.placements second).length ∨
    (state.placements first).length = (state.placements second).length + 1 ∧ state.Full numNodes given

/-- Between their two turns. -/
def Between (numNodes maxReplicas : Nat) (given : ModelIntent) (first second : Nat) (state : Placing) : Prop :=
  (state.placements first).length = (state.placements second).length ∧
      (state.Full numNodes given ∨ maxReplicas ≤ (state.placements second).length) ∨
    (state.placements first).length = (state.placements second).length + 1 ∧
      ((state.placements second).length < maxReplicas ∨ state.Full numNodes given)

theorem Unturned.level {given : ModelIntent} {first second : Nat} {before after : Placing}
    (unturned : Unturned numNodes given first second before after) (level : Level numNodes given first second before) :
    Level numNodes given first second after := by
  unfold Level at level ⊢
  rw [unturned.first_kept, unturned.second_kept]
  exact level.imp_right fun ahead => ⟨ahead.1, unturned.full_kept ahead.2⟩

theorem Unturned.between {given : ModelIntent} {first second : Nat} {before after : Placing}
    (unturned : Unturned numNodes given first second before after)
    (between : Between numNodes maxReplicas given first second before) :
    Between numNodes maxReplicas given first second after := by
  unfold Between at between ⊢
  rw [unturned.first_kept, unturned.second_kept]
  rcases between with ⟨same, done⟩ | ⟨ahead, room⟩
  · exact .inl ⟨same, done.imp_left unturned.full_kept⟩
  · exact .inr ⟨ahead, room.imp_right unturned.full_kept⟩

theorem full_of_size {left right : ModelIntent} (devices : left.tensorParallelSize = right.tensorParallelSize)
    (cpus : left.numCpusPerReplica = right.numCpusPerReplica) (state : Placing) :
    state.Full numNodes left ↔ state.Full numNodes right := by
  unfold Placing.Full Placing.Fits
  rw [devices, cpus]

theorem reserve_none_full {state : Placing} {index : Nat} {intent : ModelIntent}
    (single : intent.pipelineParallelSize = 1) (done : reserve numNodes state index intent = .ok none) :
    state.Full numNodes intent := by
  rcases reserve_cases done with ⟨-, none⟩ | ⟨_, _, _, -, -, same⟩
  · exact (selectRanks_none_single single).mp none
  · cases same

theorem reserve_some_room {before after : Placing} {index : Nat} {intent : ModelIntent}
    (done : reserve numNodes before index intent = .ok (some after)) : ¬before.Full numNodes intent := by
  rcases reserve_cases done with ⟨none, -⟩ | ⟨primary, others, replica, chosen, -, -⟩
  · cases none
  · intro full
    have facts := mem_eligiblePrimary.mp chosen.primary_eligible
    exact full primary facts.1 facts.2.2

theorem first_turn {given : ModelIntent × Nat} (single : given.1.pipelineParallelSize = 1) {second : Nat}
    (apart : second ≠ given.2) {before after : Bool × Placing}
    (done : placeOne numNodes maxReplicas before given = .ok after)
    (level : Level numNodes given.1 given.2 second before.2) :
    Between numNodes maxReplicas given.1 given.2 second after.2 := by
  unfold placeOne at done
  split_ifs at done with most
  · cases done
    rcases level with same | ahead
    · exact .inl ⟨same, .inr (by omega)⟩
    · exact .inr ⟨ahead.1, .inr ahead.2⟩
  · obtain ⟨found, reserved, done⟩ := bind_ok done
    cases found with
    | none =>
      cases done
      have full := reserve_none_full single reserved
      rcases level with same | ahead
      · exact .inl ⟨same, .inl full⟩
      · exact .inr ⟨ahead.1, .inr full⟩
    | some next =>
      cases done
      have counted := reserve_count reserved
      rcases level with same | ahead
      · right
        dsimp only
        rw [counted.2 second apart, counted.1]
        exact ⟨by omega, .inl (by omega)⟩
      · exact absurd ahead.2 (reserve_some_room reserved)

theorem second_turn {given : ModelIntent × Nat} (single : given.1.pipelineParallelSize = 1) {first : Nat}
    (apart : first ≠ given.2) {before after : Bool × Placing}
    (done : placeOne numNodes maxReplicas before given = .ok after)
    (between : Between numNodes maxReplicas given.1 first given.2 before.2) :
    Level numNodes given.1 first given.2 after.2 := by
  unfold placeOne at done
  split_ifs at done with most
  · cases done
    rcases between with ⟨same, -⟩ | ⟨ahead, room⟩
    · exact .inl same
    · rcases room with below | full
      · omega
      · exact .inr ⟨ahead, full⟩
  · obtain ⟨found, reserved, done⟩ := bind_ok done
    cases found with
    | none =>
      cases done
      have full := reserve_none_full single reserved
      rcases between with ⟨same, -⟩ | ⟨ahead, -⟩
      · exact .inl same
      · exact .inr ⟨ahead, full⟩
    | some next =>
      cases done
      have counted := reserve_count reserved
      have room := reserve_some_room reserved
      rcases between with ⟨same, done⟩ | ⟨ahead, -⟩
      · rcases done with full | most
        · exact absurd full room
        · omega
      · left
        dsimp only
        rw [counted.2 first apart, counted.1]
        exact ahead

/-- Two models of one size, the first with its turn before the second's. -/
structure Paired (auto : List (ModelIntent × Nat)) (first second : ModelIntent × Nat) : Prop where
  split : ∃ before middle after, auto = before ++ first :: (middle ++ second :: after)
  devices : first.1.tensorParallelSize = second.1.tensorParallelSize
  cpus : first.1.numCpusPerReplica = second.1.numCpusPerReplica

theorem round_level {auto : List (ModelIntent × Nat)} {first second : ModelIntent × Nat}
    (paired : Paired auto first second) (distinct : (auto.map Prod.snd).Nodup)
    (single : ∀ indexed ∈ auto, indexed.1.pipelineParallelSize = 1) {start finish : Bool × Placing}
    (done : auto.foldlM (placeOne numNodes maxReplicas) start = .ok finish)
    (level : Level numNodes first.1 first.2 second.2 start.2) : Level numNodes first.1 first.2 second.2 finish.2 := by
  obtain ⟨before, middle, after, rfl⟩ := paired.split
  have same := @full_of_size numNodes _ _ paired.devices paired.cpus
  simp only [List.map_append, List.map_cons, List.nodup_append, List.nodup_cons, List.mem_append, List.mem_cons,
    not_or] at distinct
  obtain ⟨-, ⟨⟨middle_first, ne, after_first⟩, -, ⟨after_second, -⟩, middle_rest⟩, before_rest⟩ := distinct
  have away : ∀ {items : List (ModelIntent × Nat)} {index : Nat}, index ∉ items.map Prod.snd →
      ∀ indexed ∈ items, indexed.2 ≠ index := by
    rintro items index absent indexed member rfl
    exact absent (List.mem_map_of_mem member)
  rw [List.foldlM_append] at done
  obtain ⟨one, early, done⟩ := bind_ok done
  rw [List.foldlM_cons] at done
  obtain ⟨two, turned, done⟩ := bind_ok done
  rw [List.foldlM_append] at done
  obtain ⟨three, mid, done⟩ := bind_ok done
  rw [List.foldlM_cons] at done
  obtain ⟨four, again, late⟩ := bind_ok done
  have level_one : Level numNodes first.1 first.2 second.2 one.2 := by
    refine (round_unturned ?_ early).level level
    intro indexed member
    have listed := List.mem_map_of_mem (f := Prod.snd) member
    exact ⟨before_rest _ listed _ (.inl rfl), before_rest _ listed _ (.inr (.inr (.inl rfl)))⟩
  have between_two : Between numNodes maxReplicas first.1 first.2 second.2 two.2 :=
    first_turn (single first (by simp)) (Ne.symm ne) turned level_one
  have between_three : Between numNodes maxReplicas first.1 first.2 second.2 three.2 := by
    refine (round_unturned ?_ mid).between between_two
    intro indexed member
    have listed := List.mem_map_of_mem (f := Prod.snd) member
    exact ⟨away middle_first indexed member, middle_rest _ listed _ (.inl rfl)⟩
  have level_four : Level numNodes first.1 first.2 second.2 four.2 := by
    have turn := second_turn (single second (by simp)) ne again (by
      unfold Between at between_three ⊢
      rw [← same]
      exact between_three)
    unfold Level at turn ⊢
    rw [same]
    exact turn
  refine (round_unturned ?_ late).level level_four
  intro indexed member
  exact ⟨away after_first indexed member, away after_second indexed member⟩

theorem Settles.level {auto : List (ModelIntent × Nat)} {first second : ModelIntent × Nat}
    (paired : Paired auto first second) (distinct : (auto.map Prod.snd).Nodup)
    (single : ∀ indexed ∈ auto, indexed.1.pipelineParallelSize = 1) {before : Placing} {result : Except Raised Placing}
    (settles : Settles numNodes maxReplicas auto before result) {after : Placing} (ends : result = .ok after)
    (level : Level numNodes first.1 first.2 second.2 before) : Level numNodes first.1 first.2 second.2 after := by
  induction settles with
  | raised => cases ends
  | again turn _ ih => exact ih ends (round_level paired distinct single turn level)
  | settled turn =>
    cases ends
    exact round_level paired distinct single turn level

end Fair

end ExaServe.Plan
