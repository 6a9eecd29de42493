import ExaServe.Telemetry.Snapshots
import Mathlib.Data.List.Chain

namespace ExaServe.Telemetry

open Lib Plan

/-- How a telemetry store takes a report, and what it reads of one. -/
structure Collector (σ ρ : Type) where
  report : σ → Value → σ × Except Failure Bool
  reading : σ → Value → Option ρ

/-- A store with what was read of the reports it accepted, in order. -/
structure Logged (σ ρ : Type) where
  store : σ
  accepted : List ρ := []

section Collector

variable {σ ρ : Type} (collector : Collector σ ρ)

def Collector.step (before : Logged σ ρ) (raw : Value) : Logged σ ρ :=
  let answer := collector.report before.store raw
  match answer.2 with
  | .ok true => ⟨answer.1, before.accepted ++ (collector.reading before.store raw).toList⟩
  | _ => { before with store := answer.1 }

/-- A report that raises leaves a store that differs from the one before in its counter only. -/
def Collector.Harmless (counted : σ → Nat → σ) (before : Logged σ ρ) (raw : Value) : Prop :=
  ∀ failure, (collector.report before.store raw).2 = .error failure →
    ∃ rejected, (collector.report before.store raw).1 = counted before.store rejected

variable {collector}

theorem Collector.step_accepted {before : Logged σ ρ} {raw : Value} {after : σ} {reading : ρ}
    (answered : collector.report before.store raw = (after, .ok true))
    (read : collector.reading before.store raw = some reading) :
    collector.step before raw = ⟨after, before.accepted ++ [reading]⟩ := by
  simp only [Collector.step, answered, read, Option.toList]

theorem Collector.step_other {before : Logged σ ρ} {raw : Value} {after : σ} {answer : Except Failure Bool}
    (answered : collector.report before.store raw = (after, answer)) (refused : answer ≠ .ok true) :
    collector.step before raw = { before with store := after } := by
  unfold Collector.step
  rw [answered]
  cases answer with
  | error failure => rfl
  | ok fresh =>
    cases fresh with
    | false => rfl
    | true => exact absurd rfl refused

end Collector

section Serving

variable {isAddress : String → Bool}

namespace ServingStatsStore

def counted (store : ServingStatsStore isAddress) (rejected : Nat) : ServingStatsStore isAddress :=
  { store with rejected }

/-- A report is refused, ignored as a repetition, or stored as the newest of its replica. -/
theorem report_cases (store : ServingStatsStore isAddress) (raw : Value) :
    (∃ failure rejected, store.report raw = (store.counted rejected, .error failure)) ∨
    (∃ reading previous, validateServingEnvelope isAddress raw = .ok reading ∧
      store.latest.get? reading.replicaId = some previous ∧ Value.pyEq raw previous.raw = true ∧
      store.report raw = ({ store with duplicates := store.duplicates + 1 }, .ok false)) ∨
    ∃ envelope : ServingEnvelope isAddress, envelope.raw = raw ∧ store.report raw = (store.put envelope, .ok true) ∧
      envelope.reading.identity = store.identity ∧
      (∀ previous, store.latest.get? envelope.reading.replicaId = some previous →
        previous.reading.sequence < envelope.reading.sequence) ∧
      (store.latest.get? envelope.reading.replicaId = none → store.latest.size < store.expectedReplicas.val) := by
  unfold report
  cases taken : store.accept raw with
  | error failure => exact .inl ⟨failure, _, rfl⟩
  | ok answer =>
    refine .inr ?_
    unfold accept at taken
    split at taken
    case h_2 => cases taken
    case h_1 reading valid =>
    obtain ⟨⟨⟩, own, taken⟩ := bind_ok taken
    have owned := require_ok own
    split at taken
    · rename_i previous held
      obtain ⟨⟨⟩, newer, taken⟩ := bind_ok taken
      have ordered := require_ok newer
      split_ifs at taken with same
      · obtain ⟨⟨⟩, equal, taken⟩ := bind_ok taken
        cases taken
        exact .inl ⟨reading, previous, valid, held, require_ok equal, rfl⟩
      · cases taken
        refine .inr ⟨⟨raw, reading, valid⟩, rfl, rfl, owned, ?_, ?_⟩
        · intro other found
          cases held.symm.trans found
          exact lt_of_le_of_ne ordered fun equal => same equal.symm
        · intro absent
          cases held.symm.trans absent
    · rename_i absent
      obtain ⟨⟨⟩, room, taken⟩ := bind_ok taken
      cases taken
      refine .inr ⟨⟨raw, reading, valid⟩, rfl, rfl, owned, ?_, fun _ => require_ok room⟩
      intro previous found
      cases absent.symm.trans found

def collector (isAddress : String → Bool) : Collector (ServingStatsStore isAddress) ServingReading where
  report := report
  reading _ raw := (validateServingEnvelope isAddress raw).toOption

end ServingStatsStore

/-- What was accepted of one replica. -/
def ofReplica (accepted : List ServingReading) (replicaId : String) : List ServingReading :=
  accepted.filter fun reading => reading.replicaId = replicaId

theorem ofReplica_concat (accepted : List ServingReading) (reading : ServingReading) (replicaId : String) :
    ofReplica (accepted ++ [reading]) replicaId =
      ofReplica accepted replicaId ++ if reading.replicaId = replicaId then [reading] else [] := by
  unfold ofReplica
  rw [List.filter_append]
  by_cases same : reading.replicaId = replicaId
  · simp only [List.filter_cons, List.filter_nil, same, decide_true, if_true]
  · simp only [List.filter_cons, List.filter_nil, same, decide_false, if_false, Bool.false_eq_true]

/-- The store holds what it accepted last of every replica, and accepted it in order. -/
structure ServingHistory (logged : Logged (ServingStatsStore isAddress) ServingReading) : Prop where
  sound : logged.store.Sound
  newest : ∀ replicaId, (ofReplica logged.accepted replicaId).getLast? =
    (logged.store.latest.get? replicaId).map (·.reading)
  increasing : ∀ replicaId, (ofReplica logged.accepted replicaId).Pairwise (·.sequence < ·.sequence)

theorem pairwise_concat {α : Type} {before : α → α → Prop} (transitive : ∀ a b c, before a b → before b c → before a c)
    {items : List α} {item : α} (ordered : items.Pairwise before) (newer : ∀ last ∈ items.getLast?, before last item) :
    (items ++ [item]).Pairwise before := by
  have : IsTrans α before := ⟨transitive⟩
  rw [← List.isChain_iff_pairwise] at ordered ⊢
  refine List.isChain_append.mpr ⟨ordered, List.isChain_singleton item, ?_⟩
  rintro last final _ ⟨⟩
  exact newer last final

theorem serving_history_step {logged : Logged (ServingStatsStore isAddress) ServingReading}
    (history : ServingHistory logged) (raw : Value) :
    ServingHistory ((ServingStatsStore.collector isAddress).step logged raw) := by
  rcases logged.store.report_cases raw with ⟨failure, rejected, refused⟩ | ⟨-, -, -, -, -, ignored⟩ |
    ⟨envelope, rfl, stored, owned, newer, room⟩
  · rw [Collector.step_other refused (by simp)]
    exact ⟨⟨history.sound.named, history.sound.within⟩, history.newest, history.increasing⟩
  · rw [Collector.step_other ignored (by simp)]
    exact ⟨⟨history.sound.named, history.sound.within⟩, history.newest, history.increasing⟩
  · rw [Collector.step_accepted stored (congrArg Except.toOption envelope.valid)]
    refine ⟨⟨?_, ?_⟩, ?_, ?_⟩
    · intro replicaId held found
      rw [ServingStatsStore.put, Dict.get?_insert] at found
      split_ifs at found with same
      · cases found
        exact ⟨owned, same⟩
      · exact history.sound.named replicaId held found
    · show (logged.store.latest.insert envelope.reading.replicaId envelope).size ≤ logged.store.expectedReplicas.val
      rw [Dict.size_insert]
      split_ifs with known
      · exact history.sound.within
      · exact room (Option.not_isSome_iff_eq_none.mp known)
    · intro replicaId
      show _ = ((logged.store.latest.insert envelope.reading.replicaId envelope).get? replicaId).map (·.reading)
      rw [ofReplica_concat, Dict.get?_insert]
      split_ifs with same
      · rw [List.getLast?_concat]
        rfl
      · rw [List.append_nil]
        exact history.newest replicaId
    · intro replicaId
      rw [ofReplica_concat]
      split_ifs with same
      · refine @pairwise_concat ServingReading (·.sequence < ·.sequence) (fun _ _ _ => lt_trans) _ _ (history.increasing replicaId) ?_
        intro last final
        rw [history.newest, Option.mem_def, Option.map_eq_some_iff] at final
        obtain ⟨previous, found, rfl⟩ := final
        exact newer previous (same ▸ found)
      · rw [List.append_nil]
        exact history.increasing replicaId

end Serving

section Init

namespace ReplicaInitStatsStore

def counted (store : ReplicaInitStatsStore) (rejected : Nat) : ReplicaInitStatsStore := { store with rejected }

def collector : Collector ReplicaInitStatsStore InitReading where
  report := report
  reading store raw := (validateInitEnvelope store.identity raw).toOption

/-- The envelope of a replica that the store has room for has a fingerprint. -/
def Hashable (store : ReplicaInitStatsStore) (raw : Value) : Prop :=
  ∀ reading, validateInitEnvelope store.identity raw = .ok reading → store.replicas.get? reading.replicaId = none →
    store.replicas.size < store.expectedReplicas.val → ∃ payload, Value.canonical "$" raw = .ok payload

theorem init_read {own : TelemetryIdentity} {raw : Value} {reading : InitReading}
    (valid : validateInitEnvelope own raw = .ok reading) :
    reading.replicaId ≠ "" ∧ isDict reading.payload = true ∧ ∀ subject, requireEncodable reading.payload subject = .ok () := by
  unfold validateInitEnvelope at valid
  obtain ⟨fields, -, valid⟩ := bind_ok valid
  obtain ⟨-, -, valid⟩ := bind_ok valid
  obtain ⟨identity, -, valid⟩ := bind_ok valid
  obtain ⟨-, -, valid⟩ := bind_ok valid
  obtain ⟨replicaId, bounded, valid⟩ := bind_ok valid
  obtain ⟨-, -, valid⟩ := bind_ok valid
  obtain ⟨⟨⟩, object, valid⟩ := bind_ok valid
  obtain ⟨⟨⟩, encodable, valid⟩ := bind_ok valid
  cases valid
  refine ⟨(expect_ok bounded).2.1, require_ok object, fun subject => ?_⟩
  obtain ⟨printed, written, encodable⟩ := bind_ok encodable
  exact (ok_bind (expect_relabel written _) _).trans (require_of (require_ok encodable) _)

theorem repeated_kept (store : ReplicaInitStatsStore) (raw : Value) (replicaId : String) :
    (∃ failure rejected, store.repeated raw replicaId = (store.counted rejected, .error failure)) ∨
    store.repeated raw replicaId = ({ store with duplicates := store.duplicates + 1 }, .ok false) := by
  unfold repeated
  split
  · exact .inl ⟨_, _, rfl⟩
  · split
    · exact .inl ⟨_, _, rfl⟩
    · split_ifs
      · exact .inr rfl
      · exact .inl ⟨_, _, rfl⟩

/-- A report is refused, ignored as a repetition, or kept; it is kept also where its
    fingerprint then fails. -/
theorem report_cases (store : ReplicaInitStatsStore) (raw : Value) :
    (∃ failure rejected, store.report raw = (store.counted rejected, .error failure)) ∨
    store.report raw = ({ store with duplicates := store.duplicates + 1 }, .ok false) ∨
    ∃ reading, validateInitEnvelope store.identity raw = .ok reading ∧
      store.replicas.get? reading.replicaId = none ∧ store.replicas.size < store.expectedReplicas.val ∧
      ((∃ failure rejected, fingerprint raw = .error failure ∧ store.report raw =
          ({ store with replicas := store.replicas.insert reading.replicaId reading.payload, rejected }, .error failure)) ∨
        ∃ digest, fingerprint raw = .ok digest ∧ store.report raw =
          ({ store with replicas := store.replicas.insert reading.replicaId reading.payload,
                        fingerprints := store.fingerprints.insert reading.replicaId digest }, .ok true)) := by
  unfold report
  split
  · exact .inl ⟨_, _, rfl⟩
  · rename_i reading valid
    split_ifs with known full
    · rcases store.repeated_kept raw reading.replicaId with refused | ignored
      · exact .inl refused
      · exact .inr (.inl ignored)
    · exact .inl ⟨_, _, rfl⟩
    · refine .inr (.inr ⟨reading, valid, Option.not_isSome_iff_eq_none.mp known, Nat.lt_of_not_le full, ?_⟩)
      cases fingerprint raw with
      | error failure => exact .inl ⟨failure, _, rfl, rfl⟩
      | ok digest => exact .inr ⟨digest, rfl, rfl⟩

theorem sound_insert {store : ReplicaInitStatsStore} (sound : store.Sound) {raw : Value} {reading : InitReading}
    (valid : validateInitEnvelope store.identity raw = .ok reading) (room : store.replicas.size < store.expectedReplicas.val)
    (fingerprints : Dict String String) (rejected : Nat) :
    ReplicaInitStatsStore.Sound { store with replicas := store.replicas.insert reading.replicaId reading.payload,
                                             fingerprints, rejected } := by
  constructor
  · intro replicaId payload found
    rw [Dict.get?_insert] at found
    split_ifs at found with same
    · cases found
      exact same ▸ init_read valid
    · exact sound.encodable replicaId payload found
  · show (store.replicas.insert reading.replicaId reading.payload).size ≤ store.expectedReplicas.val
    rw [Dict.size_insert]
    split_ifs
    · exact sound.within
    · exact room

/-- Whatever is reported, a sound store stays sound. -/
theorem report_sound {store : ReplicaInitStatsStore} (sound : store.Sound) (raw : Value) : (store.report raw).1.Sound := by
  rcases store.report_cases raw with ⟨failure, rejected, answered⟩ | answered |
    ⟨reading, valid, -, room, ⟨failure, rejected, -, answered⟩ | ⟨digest, -, answered⟩⟩ <;> rw [answered]
  · exact ⟨sound.encodable, sound.within⟩
  · exact ⟨sound.encodable, sound.within⟩
  · exact sound_insert sound valid room _ _
  · exact sound_insert sound valid room _ _

theorem insert_ne {dict : Dict String Value} {name : String} (absent : dict.get? name = none) (value : Value) :
    dict.insert name value ≠ dict := by
  intro same
  have found := Dict.get?_insert_self dict name value
  rw [same, absent] at found
  cases found

/-- A replica that the store has room for is kept before its fingerprint fails. -/
theorem report_unhashable {store : ReplicaInitStatsStore} {raw : Value} {reading : InitReading} {failure : Failure}
    (valid : validateInitEnvelope store.identity raw = .ok reading) (absent : store.replicas.get? reading.replicaId = none)
    (room : store.replicas.size < store.expectedReplicas.val) (unprinted : fingerprint raw = .error failure) :
    ∃ rejected, store.report raw =
      ({ store with replicas := store.replicas.insert reading.replicaId reading.payload, rejected }, .error failure) := by
  unfold report
  rw [valid]
  dsimp only
  rw [absent, if_neg (by simp), if_neg (Nat.not_le_of_lt room), unprinted]
  exact ⟨_, rfl⟩

theorem fingerprint_ok_iff (raw : Value) :
    (∃ digest, fingerprint raw = .ok digest) ↔ ∃ payload, Value.canonical "$" raw = .ok payload := by
  unfold fingerprint
  cases Value.canonical "$" raw <;> simp

/-- A report that raises changes only the counter, exactly when its envelope is hashable. -/
theorem harmless_iff (before : Logged ReplicaInitStatsStore InitReading) (raw : Value) :
    collector.Harmless counted before raw ↔ before.store.Hashable raw := by
  constructor
  · intro harmless reading valid absent room
    rw [← fingerprint_ok_iff]
    cases printed : fingerprint raw with
    | ok digest => exact ⟨digest, rfl⟩
    | error failure =>
      obtain ⟨rejected, answered⟩ := report_unhashable valid absent room printed
      obtain ⟨count, same⟩ := harmless failure (congrArg Prod.snd answered)
      have kept := congrArg (·.replicas) ((congrArg Prod.fst answered).symm.trans same)
      exact absurd kept (insert_ne absent reading.payload)
  · intro hashable failure raised
    rcases before.store.report_cases raw with ⟨other, rejected, answered⟩ | answered |
      ⟨reading, valid, absent, room, ⟨other, rejected, unprinted, -⟩ | ⟨digest, -, answered⟩⟩
    · exact ⟨rejected, congrArg Prod.fst answered⟩
    · cases raised.symm.trans (congrArg Prod.snd answered)
    · obtain ⟨digest, printed⟩ := (fingerprint_ok_iff raw).mpr (hashable reading valid absent room)
      cases unprinted.symm.trans printed
    · cases raised.symm.trans (congrArg Prod.snd answered)

end ReplicaInitStatsStore

end Init

section Lifecycle

namespace ReplicaLifecycleStore

def counted (store : ReplicaLifecycleStore) (rejected : Nat) : ReplicaLifecycleStore := { store with rejected }

def collector : Collector ReplicaLifecycleStore LifecycleReading where
  report := report
  reading store raw := (checkReport store.identity store.expectedComponents raw).toOption

def replace (store : ReplicaLifecycleStore) (componentId : String) : ReplicaLifecycleStore :=
  { store with
    replacements := store.replacements.insert componentId ((store.replacements.get? componentId).getD 0 + 1) }

/-- A report is refused, ignored as a repetition, starts a component, starts it again after it
    has ended, or ends the instance that is active. -/
theorem report_cases (store : ReplicaLifecycleStore) (raw : Value) :
    (∃ failure rejected, store.report raw = (store.counted rejected, .error failure)) ∨
    store.report raw = ({ store with duplicates := store.duplicates + 1 }, .ok false) ∨
    ∃ held : LifecycleReport store.identity store.expectedComponents, held.raw = raw ∧
      ((store.report raw = (store.put held, .ok true) ∧ held.reading.event = .started ∧
          store.current.get? held.reading.componentId = none) ∨
        ∃ previous, store.current.get? held.reading.componentId = some previous ∧
          ((store.report raw = ((store.put held).replace held.reading.componentId, .ok true) ∧
              held.reading.event = .started ∧ previous.reading.event ≠ .started) ∨
            (store.report raw = (store.put held, .ok true) ∧ held.reading.event ≠ .started ∧
              previous.reading.event = .started ∧ held.reading.instanceId = previous.reading.instanceId))) := by
  unfold report
  cases taken : store.accept raw with
  | error failure => exact .inl ⟨failure, _, rfl⟩
  | ok answer =>
    refine .inr ?_
    unfold accept at taken
    split at taken
    case h_2 => cases taken
    case h_1 reading valid =>
    let held : LifecycleReport store.identity store.expectedComponents := ⟨raw, reading, valid⟩
    unfold admitHeld at taken
    dsimp only at taken
    split at taken
    · rename_i started absent
      cases taken
      exact .inr ⟨held, rfl, .inl ⟨rfl, started, absent⟩⟩
    · rename_i previous started found
      split_ifs at taken with active same
      · obtain ⟨⟨⟩, -, taken⟩ := bind_ok taken
        cases taken
        exact .inl rfl
      · cases taken
        exact .inr ⟨held, rfl, .inr ⟨previous, found, .inl ⟨rfl, started, active⟩⟩⟩
    · cases taken
    · rename_i previous found ended
      obtain ⟨⟨⟩, active, taken⟩ := bind_ok taken
      obtain ⟨⟨⟩, same, taken⟩ := bind_ok taken
      cases taken
      exact .inr ⟨held, rfl, .inr ⟨previous, found, .inr ⟨rfl, ended, require_ok active, (require_ok same).symm⟩⟩⟩

end ReplicaLifecycleStore

/-- What was accepted of one component. -/
def ofComponent (accepted : List LifecycleReading) (componentId : String) : List LifecycleReading :=
  accepted.filter fun reading => reading.componentId = componentId

/-- A started instance ends, and what has ended may only be started again. -/
def Follows (earlier later : LifecycleReading) : Prop :=
  (earlier.event = .started → later.event ≠ .started ∧ later.instanceId = earlier.instanceId) ∧
    (earlier.event ≠ .started → later.event = .started)

/-- The events of a component begin with a start and alternate with the ends of what was started. -/
def Alternates (events : List LifecycleReading) : Prop :=
  (∀ first ∈ events.head?, first.event = .started) ∧ events.IsChain Follows

def starts (events : List LifecycleReading) : Nat := events.countP fun reading => reading.event = .started

theorem ofComponent_concat (accepted : List LifecycleReading) (reading : LifecycleReading) (componentId : String) :
    ofComponent (accepted ++ [reading]) componentId =
      ofComponent accepted componentId ++ if reading.componentId = componentId then [reading] else [] := by
  unfold ofComponent
  rw [List.filter_append]
  by_cases same : reading.componentId = componentId
  · simp only [List.filter_cons, List.filter_nil, same, decide_true, if_true]
  · simp only [List.filter_cons, List.filter_nil, same, decide_false, if_false, Bool.false_eq_true]

theorem alternates_first {reading : LifecycleReading} (started : reading.event = .started) : Alternates [reading] := by
  refine ⟨?_, List.isChain_singleton reading⟩
  rintro first ⟨⟩
  exact started

theorem alternates_concat {events : List LifecycleReading} {last reading : LifecycleReading} (before : Alternates events)
    (final : events.getLast? = some last) (follows : Follows last reading) : Alternates (events ++ [reading]) := by
  constructor
  · intro first head
    rw [List.head?_append] at head
    cases events with
    | nil => cases final
    | cons earliest rest => exact before.1 first head
  · refine List.isChain_append.mpr ⟨before.2, List.isChain_singleton reading, ?_⟩
    rintro other found next ⟨⟩
    cases final.symm.trans found
    exact follows

theorem starts_pos {events : List LifecycleReading} (alternates : Alternates events) (present : events ≠ []) :
    0 < starts events := by
  obtain ⟨first, rest, rfl⟩ := List.exists_cons_of_ne_nil present
  have started := alternates.1 first rfl
  exact List.countP_pos_iff.mpr ⟨first, List.mem_cons_self, decide_eq_true started⟩

theorem starts_concat (events : List LifecycleReading) (reading : LifecycleReading) :
    starts (events ++ [reading]) = starts events + if reading.event = .started then 1 else 0 := by
  unfold starts
  rw [List.countP_append, List.countP_singleton]
  simp only [decide_eq_true_eq]

/-- How often a component was started again, where it was. -/
def again (events : List LifecycleReading) : Option Nat :=
  if 1 < starts events then some (starts events - 1) else none

theorem again_ended (events : List LifecycleReading) {reading : LifecycleReading} (ending : reading.event ≠ .started) :
    again (events ++ [reading]) = again events := by
  unfold again
  rw [starts_concat, if_neg ending, Nat.add_zero]

theorem again_first {reading : LifecycleReading} : again [reading] = none := by
  have few : starts [reading] ≤ 1 := List.countP_le_length
  exact if_neg (Nat.not_lt_of_le few)

theorem again_started {events : List LifecycleReading} {reading : LifecycleReading} (some_start : 0 < starts events)
    (started : reading.event = .started) : again (events ++ [reading]) = some ((again events).getD 0 + 1) := by
  unfold again
  rw [starts_concat, if_pos started, if_pos (Nat.lt_add_of_pos_left some_start), Nat.add_sub_cancel]
  split_ifs with often
  · exact congrArg some (Nat.sub_add_cancel some_start).symm
  · exact congrArg some (show starts events = 0 + 1 by omega)

/-- The store holds the last accepted event of every component, and counts how often it was started again. -/
structure LifecycleHistory (logged : Logged ReplicaLifecycleStore LifecycleReading) : Prop where
  last : ∀ componentId, (ofComponent logged.accepted componentId).getLast? =
    (logged.store.current.get? componentId).map (·.reading)
  alternates : ∀ componentId, Alternates (ofComponent logged.accepted componentId)
  replaced : ∀ componentId, logged.store.replacements.get? componentId =
    again (ofComponent logged.accepted componentId)

variable {logged : Logged ReplicaLifecycleStore LifecycleReading}

theorem LifecycleHistory.named (history : LifecycleHistory logged) {componentId : String}
    {held : LifecycleReport logged.store.identity logged.store.expectedComponents}
    (found : logged.store.current.get? componentId = some held) : held.reading.componentId = componentId := by
  have final := history.last componentId
  rw [found] at final
  have listed : held.reading ∈ ofComponent logged.accepted componentId := List.mem_of_getLast? final
  exact of_decide_eq_true (List.mem_filter.mp listed).2

theorem LifecycleHistory.sound (history : LifecycleHistory logged) : logged.store.Sound where
  named _ _ found := history.named found
  counted componentId count replaced := by
    rw [history.replaced, again] at replaced
    split_ifs at replaced with often
    cases replaced
    refine ⟨?_, Nat.sub_pos_of_lt often⟩
    have present : ofComponent logged.accepted componentId ≠ [] := by
      intro empty
      rw [empty] at often
      cases often
    have final := history.last componentId
    rw [List.getLast?_eq_some_getLast present] at final
    obtain ⟨held, found, -⟩ := Option.map_eq_some_iff.mp final.symm
    exact history.named found ▸ lifecycle_planned held.valid

/-- An accepted event is appended to its component, and to no other. -/
theorem LifecycleHistory.put_step (history : LifecycleHistory logged)
    (held : LifecycleReport logged.store.identity logged.store.expectedComponents)
    (alternates : Alternates (ofComponent logged.accepted held.reading.componentId ++ [held.reading]))
    {replacements : Dict String Nat}
    (own : replacements.get? held.reading.componentId =
      again (ofComponent logged.accepted held.reading.componentId ++ [held.reading]))
    (others : ∀ componentId, held.reading.componentId ≠ componentId →
      replacements.get? componentId = logged.store.replacements.get? componentId) :
    LifecycleHistory ⟨{ logged.store.put held with replacements }, logged.accepted ++ [held.reading]⟩ where
  last componentId := by
    show _ = ((logged.store.current.insert held.reading.componentId held).get? componentId).map (·.reading)
    rw [ofComponent_concat, Dict.get?_insert]
    split_ifs with same
    · rw [List.getLast?_concat]
      rfl
    · rw [List.append_nil]
      exact history.last componentId
  alternates componentId := by
    rw [ofComponent_concat]
    split_ifs with same
    · exact same ▸ alternates
    · rw [List.append_nil]
      exact history.alternates componentId
  replaced componentId := by
    show replacements.get? componentId = _
    rw [ofComponent_concat]
    split_ifs with same
    · exact same ▸ own
    · rw [List.append_nil, others componentId same]
      exact history.replaced componentId

theorem lifecycle_history_step (history : LifecycleHistory logged) (raw : Value) :
    LifecycleHistory (ReplicaLifecycleStore.collector.step logged raw) := by
  rcases logged.store.report_cases raw with ⟨failure, rejected, refused⟩ | ignored | ⟨held, rfl, accepted⟩
  · rw [Collector.step_other refused (by simp)]
    exact ⟨history.last, history.alternates, history.replaced⟩
  · rw [Collector.step_other ignored (by simp)]
    exact ⟨history.last, history.alternates, history.replaced⟩
  have final := history.last held.reading.componentId
  have before := history.alternates held.reading.componentId
  rcases accepted with ⟨stored, started, absent⟩ | ⟨previous, found, ⟨stored, started, ended⟩ | ⟨stored, ending, active, same⟩⟩
  · rw [Collector.step_accepted stored (congrArg Except.toOption held.valid)]
    rw [absent] at final
    have empty : ofComponent logged.accepted held.reading.componentId = [] := List.getLast?_eq_none_iff.mp final
    refine history.put_step held ?_ ?_ fun _ _ => rfl
    · rw [empty]
      exact alternates_first started
    · rw [history.replaced, empty]
      exact again_first.symm
  · rw [Collector.step_accepted stored (congrArg Except.toOption held.valid)]
    rw [found, Option.map_some] at final
    refine history.put_step held ?_ ?_ ?_
    · exact alternates_concat before final ⟨fun other => absurd other ended, fun _ => started⟩
    · rw [Dict.get?_insert_self, show (logged.store.put held).replacements = logged.store.replacements from rfl,
        history.replaced]
      refine (again_started (starts_pos before ?_) started).symm
      intro empty
      rw [empty] at final
      cases final
    · exact fun componentId other => Dict.get?_insert_ne _ _ other
  · rw [Collector.step_accepted stored (congrArg Except.toOption held.valid)]
    rw [found, Option.map_some] at final
    refine history.put_step held ?_ ?_ fun _ _ => rfl
    · exact alternates_concat before final ⟨fun _ => ⟨ending, same⟩, fun other => absurd active other⟩
    · rw [history.replaced]
      exact (again_ended _ ending).symm

theorem mem_standing {store : ReplicaLifecycleStore} {event : LifecycleEvent} :
    store.standing event = [] ↔ ∀ componentId held, store.current.get? componentId = some held →
      held.reading.event ≠ event := by
  unfold ReplicaLifecycleStore.standing
  rw [List.eq_nil_iff_length_eq_zero, List.length_insertionSort, List.length_map, List.length_eq_zero_iff,
    List.filter_eq_nil_iff]
  constructor
  · intro none componentId held found same
    exact none (componentId, held) ((Dict.get?_eq_some_iff _ _ _).mp found) (decide_eq_true same)
  · intro none entry listed same
    exact none entry.1 entry.2 ((Dict.get?_eq_some_iff _ _ _).mpr listed) (of_decide_eq_true same)

theorem missing_eq_nil {store : ReplicaLifecycleStore} :
    store.missing = [] ↔ ∀ componentId ∈ store.expectedComponents, (store.current.get? componentId).isSome := by
  unfold ReplicaLifecycleStore.missing
  rw [← List.toFinset_eq_empty_iff, Finset.sort_toFinset, Finset.sdiff_eq_empty_iff_subset]
  simp only [Finset.subset_iff, List.mem_toFinset, Dict.isSome_get?_iff]

/-- A store is clean exactly when every expected component ended with a stop. -/
theorem LifecycleHistory.clean_iff (history : LifecycleHistory logged) :
    logged.store.clean = true ↔ ∀ componentId ∈ logged.store.expectedComponents,
      (ofComponent logged.accepted componentId).getLast?.map (·.event) = some .stopped := by
  unfold ReplicaLifecycleStore.clean ReplicaLifecycleStore.complete
  simp only [Bool.and_eq_true, List.isEmpty_iff, mem_standing, missing_eq_nil]
  constructor
  · rintro ⟨⟨present, idle⟩, sound⟩ componentId planned
    obtain ⟨held, found⟩ := Option.isSome_iff_exists.mp (present componentId planned)
    rw [history.last, found]
    have running := idle componentId held found
    have failing := sound componentId held found
    cases shown : held.reading.event with
    | started => exact absurd shown running
    | failed => exact absurd shown failing
    | stopped => exact congrArg some shown
  · intro stopped
    have ended : ∀ componentId held, logged.store.current.get? componentId = some held →
        held.reading.event = .stopped := by
      intro componentId held found
      have planned := lifecycle_planned held.valid
      rw [history.named found] at planned
      have final := stopped componentId planned
      rw [history.last, found] at final
      exact Option.some.inj final
    refine ⟨⟨?_, ?_⟩, ?_⟩
    · intro componentId planned
      have final := stopped componentId planned
      rw [history.last] at final
      cases found : logged.store.current.get? componentId with
      | some held => rfl
      | none =>
        rw [found] at final
        cases final
    · intro componentId held found
      rw [ended componentId held found]
      decide
    · intro componentId held found
      rw [ended componentId held found]
      decide

end Lifecycle

section Published

/-- The snapshot is that of the store's generation and size, which it never outgrows. -/
structure ServingKept {isAddress : String → Bool} (identity : TelemetryIdentity) (size : Count)
    (logged : Logged (ServingStatsStore isAddress) ServingReading) : Prop where
  published : validateServingSnapshot isAddress logged.store.snapshot (some identity) (some size.val) =
    .ok logged.store.snapshot
  bounded : logged.store.latest.size ≤ size.val
  increasing : ∀ replicaId, (ofReplica logged.accepted replicaId).Pairwise (·.sequence < ·.sequence)

structure InitKept (identity : TelemetryIdentity) (size : Count) (logged : Logged ReplicaInitStatsStore InitReading) :
    Prop where
  published : validateReplicaInitSnapshot logged.store.snapshot (some identity) (some size.val) =
    .ok logged.store.snapshot
  bounded : logged.store.replicas.size ≤ size.val

structure LifecycleKept (identity : TelemetryIdentity) (components : Finset String)
    (logged : Logged ReplicaLifecycleStore LifecycleReading) : Prop where
  published : validateLifecycleSnapshot logged.store.snapshot (some identity) = .ok logged.store.snapshot
  alternates : ∀ componentId, Alternates (ofComponent logged.accepted componentId)
  replaced : ∀ componentId, logged.store.replacements.get? componentId =
    again (ofComponent logged.accepted componentId)
  clean : logged.store.clean = true ↔ ∀ componentId ∈ components,
    (ofComponent logged.accepted componentId).getLast?.map (·.event) = some .stopped

def servingStart (isAddress : String → Bool) (identity : TelemetryIdentity) (size : Count) :
    Logged (ServingStatsStore isAddress) ServingReading :=
  ⟨{ identity, expectedReplicas := size }, []⟩

def initStart (identity : TelemetryIdentity) (size : Count) : Logged ReplicaInitStatsStore InitReading :=
  ⟨{ identity, expectedReplicas := size }, []⟩

def lifecycleStart (identity : TelemetryIdentity) {components : Finset String}
    (planned : components.Nonempty ∧ "" ∉ components) : Logged ReplicaLifecycleStore LifecycleReading :=
  ⟨{ identity, expectedComponents := components, planned }, []⟩

/-- Whatever the stores are told, their snapshots are accepted and say what was accepted, and a
    report that raises changes nothing but a counter. -/
structure Published (isAddress : String → Bool) (identity : TelemetryIdentity) (size : Count) {components : Finset String}
    (planned : components.Nonempty ∧ "" ∉ components) (serving init lifecycle : List Value) : Prop where
  serving_kept : Throughout (ServingStatsStore.collector isAddress).step (ServingKept identity size)
    (servingStart isAddress identity size) serving
  serving_harmless : Along (ServingStatsStore.collector isAddress).step
    ((ServingStatsStore.collector isAddress).Harmless ServingStatsStore.counted) (servingStart isAddress identity size) serving
  init_kept : Throughout ReplicaInitStatsStore.collector.step (InitKept identity size) (initStart identity size) init
  init_harmless : Along ReplicaInitStatsStore.collector.step
    (ReplicaInitStatsStore.collector.Harmless ReplicaInitStatsStore.counted) (initStart identity size) init
  lifecycle_kept : Throughout ReplicaLifecycleStore.collector.step (LifecycleKept identity components)
    (lifecycleStart identity planned) lifecycle
  lifecycle_harmless : Along ReplicaLifecycleStore.collector.step
    (ReplicaLifecycleStore.collector.Harmless ReplicaLifecycleStore.counted) (lifecycleStart identity planned) lifecycle

variable {isAddress : String → Bool} {identity : TelemetryIdentity} {size : Count} {components : Finset String}
  {planned : components.Nonempty ∧ "" ∉ components}

theorem serving_kept (serving : List Value) : Throughout (ServingStatsStore.collector isAddress).step
    (ServingKept identity size) (servingStart isAddress identity size) serving := by
  refine @throughout_of_invariant _ _ _ (fun logged => ServingHistory logged ∧ logged.store.identity = identity ∧
    logged.store.expectedReplicas = size) _ ?_ ?_ _ ⟨⟨⟨?_, ?_⟩, ?_, ?_⟩, rfl, rfl⟩ serving
  · rintro logged raw ⟨history, owned, sized⟩
    refine ⟨serving_history_step history raw, ?_⟩
    rcases logged.store.report_cases raw with ⟨failure, rejected, refused⟩ | ⟨-, -, -, -, -, ignored⟩ |
      ⟨envelope, rfl, stored, -⟩
    · rw [Collector.step_other refused (by simp)]
      exact ⟨owned, sized⟩
    · rw [Collector.step_other ignored (by simp)]
      exact ⟨owned, sized⟩
    · rw [Collector.step_accepted stored (congrArg Except.toOption envelope.valid)]
      exact ⟨owned, sized⟩
  · rintro logged ⟨history, rfl, rfl⟩
    exact ⟨serving_snapshot_accepted history.sound, history.sound.within, history.increasing⟩
  · intro replicaId envelope found
    cases found
  · exact Nat.zero_le _
  · exact fun _ => rfl
  · exact fun _ => List.Pairwise.nil

theorem serving_harmless (logged : Logged (ServingStatsStore isAddress) ServingReading) (raw : Value) :
    (ServingStatsStore.collector isAddress).Harmless ServingStatsStore.counted logged raw := by
  intro failure raised
  rcases logged.store.report_cases raw with ⟨other, rejected, answered⟩ | ⟨-, -, -, -, -, answered⟩ |
    ⟨envelope, -, answered, -⟩
  · exact ⟨rejected, congrArg Prod.fst answered⟩
  · cases raised.symm.trans (congrArg Prod.snd answered)
  · cases raised.symm.trans (congrArg Prod.snd answered)

theorem init_step_store (logged : Logged ReplicaInitStatsStore InitReading) (raw : Value) :
    (ReplicaInitStatsStore.collector.step logged raw).store = (logged.store.report raw).1 := by
  show (match (logged.store.report raw).2 with | .ok true => _ | _ => _ : Logged _ _).store = _
  split <;> rfl

theorem init_kept (init : List Value) : Throughout ReplicaInitStatsStore.collector.step (InitKept identity size)
    (initStart identity size) init := by
  refine @throughout_of_invariant _ _ _ (fun logged => logged.store.Sound ∧ logged.store.identity = identity ∧
    logged.store.expectedReplicas = size) _ ?_ ?_ _ ⟨⟨?_, ?_⟩, rfl, rfl⟩ init
  · rintro logged raw ⟨sound, owned, sized⟩
    rw [init_step_store]
    refine ⟨ReplicaInitStatsStore.report_sound sound raw, ?_⟩
    rcases logged.store.report_cases raw with ⟨failure, rejected, answered⟩ | answered |
      ⟨reading, -, -, -, ⟨failure, rejected, -, answered⟩ | ⟨digest, -, answered⟩⟩ <;> rw [answered]
    all_goals exact ⟨owned, sized⟩
  · rintro logged ⟨sound, rfl, rfl⟩
    exact ⟨init_snapshot_accepted sound, sound.within⟩
  · intro replicaId payload found
    cases found
  · exact Nat.zero_le _

theorem lifecycle_kept (lifecycle : List Value) : Throughout ReplicaLifecycleStore.collector.step
    (LifecycleKept identity components) (lifecycleStart identity planned) lifecycle := by
  refine @throughout_of_invariant _ _ _ (fun logged => LifecycleHistory logged ∧ logged.store.identity = identity ∧
    logged.store.expectedComponents = components) _ ?_ ?_ _ ⟨⟨?_, ?_, ?_⟩, rfl, rfl⟩ lifecycle
  · rintro logged raw ⟨history, owned, expected⟩
    refine ⟨lifecycle_history_step history raw, ?_⟩
    rcases logged.store.report_cases raw with ⟨failure, rejected, answered⟩ | answered |
      ⟨held, rfl, ⟨answered, -⟩ | ⟨previous, -, ⟨answered, -⟩ | ⟨answered, -⟩⟩⟩
    · rw [Collector.step_other answered (by simp)]
      exact ⟨owned, expected⟩
    · rw [Collector.step_other answered (by simp)]
      exact ⟨owned, expected⟩
    all_goals
      rw [Collector.step_accepted answered (congrArg Except.toOption held.valid)]
      exact ⟨owned, expected⟩
  · rintro logged ⟨history, rfl, rfl⟩
    exact ⟨lifecycle_snapshot_accepted history.sound, history.alternates, history.replaced, history.clean_iff⟩
  · exact fun _ => rfl
  · intro componentId
    refine ⟨?_, List.isChain_nil⟩
    rintro first ⟨⟩
  · exact fun _ => rfl

theorem lifecycle_harmless (logged : Logged ReplicaLifecycleStore LifecycleReading) (raw : Value) :
    ReplicaLifecycleStore.collector.Harmless ReplicaLifecycleStore.counted logged raw := by
  intro failure raised
  rcases logged.store.report_cases raw with ⟨other, rejected, answered⟩ | answered |
    ⟨held, -, ⟨answered, -⟩ | ⟨previous, -, ⟨answered, -⟩ | ⟨answered, -⟩⟩⟩
  · exact ⟨rejected, congrArg Prod.fst answered⟩
  all_goals cases raised.symm.trans (congrArg Prod.snd answered)

/-- The stores keep their promises exactly when every init envelope they have room for is hashable. -/
theorem published_iff_hashable (isAddress : String → Bool) (identity : TelemetryIdentity) (size : Count)
    {components : Finset String} (planned : components.Nonempty ∧ "" ∉ components) (serving init lifecycle : List Value) :
    Published isAddress identity size planned serving init lifecycle ↔
      Along ReplicaInitStatsStore.collector.step (fun before raw => before.store.Hashable raw) (initStart identity size)
        init := by
  constructor
  · intro published
    exact (along_congr ReplicaInitStatsStore.harmless_iff _ _).mp published.init_harmless
  · intro hashable
    exact
      { serving_kept := serving_kept serving
        serving_harmless := along_of_forall serving_harmless _ _
        init_kept := init_kept init
        init_harmless := (along_congr ReplicaInitStatsStore.harmless_iff _ _).mpr hashable
        lifecycle_kept := lifecycle_kept lifecycle
        lifecycle_harmless := along_of_forall lifecycle_harmless _ _ }

section Sample

def sampleDigest : Digest := ⟨String.ofList (List.replicate 64 'a'), by decide +kernel⟩

def sampleIdentity : TelemetryIdentity := ⟨⟨"deployment", by decide⟩, 1, sampleDigest, sampleDigest⟩

def sampleInit (key : Value) : Value :=
  .ofFields ([("schema_version", Value.int schemaVersion)] ++ sampleIdentity.toDict ++
    [("replica_id", Value.str "replica"), ("observed_at", .int 1), ("payload", .dict [(key, .str "x")])])

theorem sampleInit_read : (validateInitEnvelope sampleIdentity (sampleInit (.int 1))).toOption.isSome = true ∧
    (Value.canonical "$" (sampleInit (.int 1))).toOption.isSome = false ∧
    (Value.canonical "$" (sampleInit (.str "1"))).toOption.isSome = true := by
  decide +kernel

def sampleSize : Count := ⟨1, one_counts⟩

theorem samplePlanned : ({"component"} : Finset String).Nonempty ∧ "" ∉ ({"component"} : Finset String) :=
  ⟨Finset.singleton_nonempty _, by decide⟩

/-- A payload that JSON can write under a key that is no text is kept, and the report raises. -/
theorem unhashable_report_changes_store :
    ¬ Published (fun _ => true) sampleIdentity sampleSize samplePlanned [] [sampleInit (.int 1)] [] := by
  intro published
  have hashable := (ReplicaInitStatsStore.harmless_iff _ _).mp published.init_harmless.1
  obtain ⟨reading, valid⟩ := Option.isSome_iff_exists.mp sampleInit_read.1
  obtain ⟨payload, printed⟩ := hashable reading (eq_ok_of_toOption valid) rfl (by decide)
  have refused := sampleInit_read.2.1
  rw [printed] at refused
  cases refused

theorem published_when_hashable :
    Published (fun _ => true) sampleIdentity sampleSize samplePlanned [] [sampleInit (.str "1")] [] := by
  refine (published_iff_hashable _ _ _ _ _ _ _).mpr ⟨fun _ _ _ _ => ?_, trivial⟩
  obtain ⟨payload, printed⟩ := Option.isSome_iff_exists.mp sampleInit_read.2.2
  exact ⟨payload, eq_ok_of_toOption printed⟩

end Sample

end Published

end ExaServe.Telemetry
