import ExaServe.Control.Transport.Turns

namespace ExaServe.Control

open Lib Plan

/-- Observations of one component instance come in the order of their sequences. -/
def ComponentObservation.Precedes (first second : ComponentObservation) : Prop :=
  first.componentId = second.componentId → first.instanceId = second.instanceId →
    first.sequence < second.sequence

namespace Connection

/-- What the session's owner has of it: the last snapshot and what came after. -/
def applied (connection : Connection) : List ComponentObservation := connection.baseline ++ connection.delivered

def Covers (info : SessionInfo) (obs : ComponentObservation) : Prop :=
  info.componentInstances.get? obs.componentId = some obs.instanceId ∧
    ∃ last, info.lastComponentSeq.get? (obs.componentId, obs.instanceId) = some last ∧ obs.sequence ≤ last

/-- The session's memory covers what was applied, in order, and is bounded. -/
structure Ordered (connection : Connection) : Prop where
  increasing : connection.applied.Pairwise ComponentObservation.Precedes
  covered : ∀ obs ∈ connection.applied, ∃ info, connection.session = some info ∧ Covers info obs
  bounded : ∀ info, connection.session = some info →
    info.seenObs.size ≤ maxDedupKeys ∧ info.componentInstances.size ≤ maxComponentsPerRank

theorem Ordered.start (phase : Phase) : Ordered { phase } where
  increasing := .nil
  covered obs member := by cases member
  bounded info held := by cases held

theorem Covers.core {info later : SessionInfo} (same : later.core = info.core) {obs : ComponentObservation}
    (covers : Covers info obs) : Covers later obs := by
  have alike := SessionInfo.alike same
  unfold Covers
  rw [alike.componentInstances, alike.lastComponentSeq]
  exact covers

theorem Ordered.core {connection later : Connection} (same : later.core = connection.core)
    (ordered : connection.Ordered) : later.Ordered := by
  simp only [Connection.core, Connection.mk.injEq] at same
  obtain ⟨-, sessions, -, baselines, deliveries⟩ := same
  have applied_same : later.applied = connection.applied := by
    unfold applied
    rw [baselines, deliveries]
  refine ⟨applied_same ▸ ordered.increasing, ?_, ?_⟩
  · intro obs member
    obtain ⟨info, held, covers⟩ := ordered.covered obs (applied_same ▸ member)
    rw [held, Option.map_some, Option.map_eq_some_iff] at sessions
    obtain ⟨now, now_held, core_same⟩ := sessions
    exact ⟨now, now_held, covers.core core_same⟩
  · intro now now_held
    rw [now_held, Option.map_some] at sessions
    obtain ⟨info, held, core_same⟩ := Option.map_eq_some_iff.mp sessions.symm
    have alike := SessionInfo.alike core_same
    rw [← alike.seenObs, ← alike.componentInstances]
    exact ordered.bounded info held

/-- A session that keeps its coverage and stays within bounds. -/
theorem Ordered.kept {connection later : Connection} {info now : SessionInfo} (ordered : connection.Ordered)
    (held : connection.session = some info) (now_held : later.session = some now)
    (applied_same : later.applied = connection.applied) (covers : ∀ obs, Covers info obs → Covers now obs)
    (bounded : now.seenObs.size ≤ maxDedupKeys ∧ now.componentInstances.size ≤ maxComponentsPerRank) :
    later.Ordered where
  increasing := applied_same ▸ ordered.increasing
  covered obs member := by
    obtain ⟨before, before_held, covered⟩ := ordered.covered obs (applied_same ▸ member)
    rw [held] at before_held
    cases before_held
    exact ⟨now, now_held, covers obs covered⟩
  bounded other other_held := by
    rw [now_held] at other_held
    cases other_held
    exact bounded

theorem Ordered.setPhase {connection : Connection} (ordered : connection.Ordered) (phase : Phase) :
    ({ connection with phase } : Connection).Ordered :=
  ⟨ordered.increasing, ordered.covered, ordered.bounded⟩

theorem Ordered.keys_nodup {connection : Connection} (ordered : connection.Ordered) :
    (connection.applied.map ComponentObservation.dedupKey).Nodup := by
  refine List.pairwise_map.mpr (ordered.increasing.imp ?_)
  intro first second precedes same
  simp only [ComponentObservation.dedupKey, Prod.mk.injEq] at same
  obtain ⟨-, -, component, instance_, sequence⟩ := same
  have increased := precedes component instance_
  omega

end Connection

namespace Listener

open Connection

theorem componentSequences_get {observations : List ComponentObservation}
    (distinct : (observations.map ComponentObservation.componentId).Nodup) {obs : ComponentObservation}
    (member : obs ∈ observations) :
    (componentSequences observations).get? (obs.componentId, obs.instanceId) = some obs.sequence := by
  have keys : (observations.map fun obs => (obs.componentId, obs.instanceId)).Nodup := by
    refine List.Nodup.of_map Prod.fst ?_
    rwa [List.map_map]
  exact Dict.get?_foldl_insert_mem ComponentObservation.sequence keys Dict.empty member

theorem componentIdentities_get {observations : List ComponentObservation}
    (distinct : (observations.map ComponentObservation.componentId).Nodup) {obs : ComponentObservation}
    (member : obs ∈ observations) :
    (componentIdentities observations).get? obs.componentId = some obs.instanceId :=
  Dict.get?_foldl_insert_mem ComponentObservation.instanceId distinct Dict.empty member

theorem componentIdentities_size (observations : List ComponentObservation) :
    (componentIdentities observations).size ≤ observations.length := by
  have grown := Dict.size_foldl_insert_le observations ComponentObservation.componentId
    ComponentObservation.instanceId Dict.empty
  rwa [Dict.size_empty, Nat.zero_add] at grown

theorem ordered_replaced {connection : Connection} {info remembered later : SessionInfo}
    {snapshot : PendingSnapshot}
    (memory : rememberAll (withSnapshot info snapshot) snapshot.observations = .ok remembered)
    (sequences : later.lastComponentSeq = remembered.lastComponentSeq)
    (instances : later.componentInstances = remembered.componentInstances)
    (seen : later.seenObs = remembered.seenObs) :
    ({ connection with session := some later, baseline := snapshot.observations, delivered := [] } :
      Connection).Ordered := by
  have unseen : ∀ obs ∈ snapshot.observations, (withSnapshot info snapshot).seenObs.get? obs.dedupKey = none :=
    fun _ _ => rfl
  obtain ⟨seenObs, room, result⟩ := rememberAll_ok snapshot.distinct unseen (Nat.zero_le _)
  rw [memory] at result
  cases result
  refine ⟨?_, ?_, ?_⟩
  · unfold applied
    rw [List.append_nil]
    have apart := List.pairwise_map.mp snapshot.distinct
    exact apart.imp fun different same => absurd same different
  · intro obs member
    unfold applied at member
    rw [List.append_nil] at member
    refine ⟨later, rfl, ?_, obs.sequence, ?_, le_refl _⟩
    · rw [instances]
      exact componentIdentities_get snapshot.distinct member
    · rw [sequences]
      exact componentSequences_get snapshot.distinct member
  · intro now held
    cases held
    rw [seen, instances]
    exact ⟨room, (componentIdentities_size _).trans snapshot.bounded⟩

theorem covers_pinned {info pinned : SessionInfo} {obs : ComponentObservation}
    (checked : pinInstance info obs = .pinned pinned) {other : ComponentObservation}
    (covers : Covers info other) : Covers pinned other := by
  unfold pinInstance at checked
  split at checked
  · rename_i unknown
    split at checked
    · cases checked
    · cases checked
      refine ⟨?_, covers.2⟩
      have apart : obs.componentId ≠ other.componentId := by
        intro same
        rw [same, covers.1] at unknown
        cases unknown
      exact (Dict.get?_insert_ne _ _ apart).trans covers.1
  · split at checked
    · cases checked
    · cases checked
      exact covers

theorem bounded_pinned {info pinned : SessionInfo} {obs : ComponentObservation}
    (checked : pinInstance info obs = .pinned pinned)
    (bounded : info.seenObs.size ≤ maxDedupKeys ∧ info.componentInstances.size ≤ maxComponentsPerRank) :
    pinned.seenObs.size ≤ maxDedupKeys ∧ pinned.componentInstances.size ≤ maxComponentsPerRank := by
  unfold pinInstance at checked
  split at checked
  · split at checked
    · cases checked
    · rename_i room
      cases checked
      refine ⟨bounded.1, ?_⟩
      dsimp only
      rw [Dict.size_insert]
      split
      · exact bounded.2
      · omega
  · split at checked
    · cases checked
    · cases checked
      exact bounded

theorem ordered_delivered {connection : Connection} {info : SessionInfo} {obs : ComponentObservation}
    (ordered : connection.Ordered) (held : connection.session = some info)
    (instance_ : info.componentInstances.get? obs.componentId = some obs.instanceId)
    (ahead : lastSequence info obs < obs.sequence) :
    ({ connection with
      session := some { info with
        lastComponentSeq := info.lastComponentSeq.insert (obs.componentId, obs.instanceId) obs.sequence }
      delivered := connection.delivered ++ [obs] } : Connection).Ordered := by
  have earlier : ∀ other ∈ connection.applied, Covers info other := by
    intro other member
    obtain ⟨before, before_held, covers⟩ := ordered.covered other member
    rw [held] at before_held
    cases before_held
    exact covers
  have below : ∀ other ∈ connection.applied, other.Precedes obs := by
    intro other member component same_instance
    obtain ⟨last, found, reached⟩ := (earlier other member).2
    unfold lastSequence at ahead
    rw [← component, ← same_instance, found, Option.getD_some] at ahead
    omega
  have split_applied : ({ connection with
      session := some { info with
        lastComponentSeq := info.lastComponentSeq.insert (obs.componentId, obs.instanceId) obs.sequence }
      delivered := connection.delivered ++ [obs] } : Connection).applied = connection.applied ++ [obs] := by
    unfold applied
    exact (List.append_assoc _ _ _).symm
  refine ⟨?_, ?_, ?_⟩
  · rw [split_applied, List.pairwise_append]
    refine ⟨ordered.increasing, List.pairwise_singleton _ _, ?_⟩
    intro other member last single
    rw [List.mem_singleton.mp single]
    exact below other member
  · intro other member
    rw [split_applied, List.mem_append, List.mem_singleton] at member
    refine ⟨_, rfl, ?_⟩
    rcases member with member | rfl
    · obtain ⟨same_instance, last, found, reached⟩ := earlier other member
      refine ⟨same_instance, ?_⟩
      by_cases same : (obs.componentId, obs.instanceId) = (other.componentId, other.instanceId)
      · refine ⟨obs.sequence, ?_, ?_⟩
        · rw [same]
          exact Dict.get?_insert_self _ _ _
        · have increased := below other member (congrArg Prod.fst same).symm (congrArg Prod.snd same).symm
          omega
      · exact ⟨last, (Dict.get?_insert_ne _ _ same).trans found, reached⟩
    · exact ⟨instance_, other.sequence, Dict.get?_insert_self _ _ _, le_refl _⟩
  · intro now now_held
    cases now_held
    exact ordered.bounded info held

def AllOrdered {σ : Type} (l : Listener σ) : Prop := ∀ d, (l.connections d).Ordered

variable {σ α : Type} {config : ListenerConfig} {callbacks : Callbacks σ α} {moves : σ → σ → Prop}
  {origin : Listener σ} {timed : Time × HeadEvent α}

theorem AllOrdered.setConnection {l : Listener σ} (all : l.AllOrdered) {connection : Connection}
    (here : connection.Ordered) (c : Nat) : (l.setConnection c connection).AllOrdered := by
  intro d
  by_cases same : d = c
  · subst same
    rw [setConnection_self]
    exact here
  · rw [setConnection_ne _ _ same]
    exact all d

theorem ordered_effect (l l' : Listener σ) (effect : Effect config callbacks moves origin timed l l')
    (all : l.AllOrdered) : l'.AllOrdered := by
  cases effect with
  | quiet same => exact fun d => (all d).core (same.connections d)
  | moved c phase live => exact all.setConnection ((all c).setPhase phase) c
  | entered c env live free allowed =>
    refine AllOrdered.setConnection all ?_ c
    refine ⟨List.Pairwise.nil, ?_, ?_⟩
    · intro obs member
      exact absurd member List.not_mem_nil
    · intro info held
      cases held
      exact ⟨Nat.zero_le _, Nat.zero_le _⟩
  | withdrawn held waiting =>
    have before := (all _).bounded _ held
    refine AllOrdered.setConnection all ?_ _
    exact (all _).kept held rfl rfl (fun _ covers => covers) before
  | replaced snapshot held memory =>
    refine AllOrdered.setConnection all ?_ _
    exact ordered_replaced memory rfl rfl rfl
  | issued rank body novel => exact all
  | commanded writer seq named asked same => exact all
  | pinned obs held checked =>
    refine AllOrdered.setConnection all ?_ _
    exact (all _).kept held rfl rfl (fun _ covers => covers_pinned checked covers)
      (bounded_pinned checked ((all _).bounded _ held))
  | remembered obs held kept =>
    obtain ⟨instances, sequences, room⟩ := remember_kept kept
    have before := (all _).bounded _ held
    refine AllOrdered.setConnection all ?_ _
    refine (all _).kept held rfl rfl ?_ ⟨room before.1, instances ▸ before.2⟩
    intro other covers
    unfold Covers
    rw [instances, sequences]
    exact covers
  | delivered obs held instance_ ahead =>
    exact all.setConnection (ordered_delivered (all _) held instance_ ahead) _
  | stored since arrived kind held registered sender parsed asked agrees opened single => exact all
  | acknowledged held registered named answer =>
    have before := (all _).bounded _ held
    refine AllOrdered.setConnection all ?_ _
    exact (all _).kept held rfl rfl (fun _ covers => covers) before
  | revoked expected held registered =>
    have before := (all _).bounded _ held
    refine AllOrdered.setConnection all ?_ _
    exact (all _).kept held rfl rfl (fun _ covers => covers) before
  | closed c idle => exact all.setConnection ((all c).setPhase .closed) c

variable (config callbacks)

/-- Whatever happens to a listener, on each of its connections the observations
    handed to the sink follow the accepted snapshot in the order of their sequences,
    none twice, each of the one instance recorded for its component, and the
    session's memory stays bounded. -/
theorem observations_delivered_in_order (owner : σ) (events : List (Time × HeadEvent α)) (c : Nat) :
    let connection := (run (step config callbacks) { owner } events).connections c
    connection.delivered.Pairwise ComponentObservation.Precedes ∧
      (∀ base ∈ connection.baseline, ∀ obs ∈ connection.delivered, base.Precedes obs) ∧
      ((connection.baseline ++ connection.delivered).map ComponentObservation.dedupKey).Nodup ∧
      (∀ obs ∈ connection.delivered, ∃ info, connection.session = some info ∧
        info.componentInstances.get? obs.componentId = some obs.instanceId) ∧
      ∀ info, connection.session = some info →
        info.seenObs.size ≤ 4096 ∧ info.componentInstances.size ≤ 64 := by
  intro connection
  have within : callbacks.Within fun _ _ => True := by constructor <;> intros <;> trivial
  have all : (run (step config callbacks) { owner } events).AllOrdered :=
    run_turns within (fun _ _ => ordered_effect) (fun _ => Ordered.start .unopened) events
  have ordered : connection.Ordered := all c
  have pairs := List.pairwise_append.mp ordered.increasing
  refine ⟨pairs.2.1, pairs.2.2, ordered.keys_nodup, ?_, ordered.bounded⟩
  intro obs member
  obtain ⟨info, held, covers⟩ := ordered.covered obs (List.mem_append_right _ member)
  exact ⟨info, held, covers.1⟩

end Listener

end ExaServe.Control
