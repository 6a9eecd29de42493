import ExaServe.Telemetry.Runs
import Mathlib.Data.Fintype.Card

namespace ExaServe.Telemetry

open Lib Plan

/-- What a replica says in one push, apart from its own key and sequence. -/
structure Content where
  observedAt : FloatText
  modelId : String
  nodeIp : String
  pid : Int
  summary : Value
  sample : Value

/-- The push loop of one replica. -/
structure Sender where
  replicaId : String
  sequence : Nat := 0

def Sender.envelope (sender : Sender) (identity : TelemetryIdentity) (content : Content) : Value :=
  servingEnvelope identity sender.replicaId sender.sequence content.observedAt content.modelId content.nodeIp content.pid
    content.summary content.sample

def Sender.next (sender : Sender) : Sender := { sender with sequence := sender.sequence + 1 }

/-- A store with the push loops of the planned replicas. -/
structure PushState (isAddress : String → Bool) (size : Count) where
  store : ServingStatsStore isAddress
  senders : Fin size.val → Sender

/-- A push is applied or not, and if applied acknowledged or not; an actor is replaced. -/
inductive PushEvent (size : Count) where
  | push (slot : Fin size.val) (content : Content) (applied acknowledged : Bool)
  | restart (slot : Fin size.val) (replicaId : String)

section Envelope

variable {isAddress : String → Bool}

def servingEnvelopeFields (identity : TelemetryIdentity) (replicaId : String) (sequence : Nat) (observedAt : FloatText)
    (payload : Value) : List (String × Value) :=
  [("schema_version", .int schemaVersion)] ++ identity.toDict ++
    [("replica_id", .str replicaId), ("sequence", .int sequence), ("observed_at", .float observedAt), ("payload", payload)]

theorem fields_identity (identity : TelemetryIdentity) (replicaId : String) (sequence : Nat) (observedAt : FloatText)
    (payload : Value) :
    makeIdentity (servingEnvelopeFields identity replicaId sequence observedAt payload) = .ok identity := by
  refine makeIdentity_of identity fun name listed => ?_
  simp only [identityFields, List.mem_cons, List.not_mem_nil, or_false] at listed
  rcases listed with rfl | rfl | rfl | rfl <;> rfl

/-- What is read of an envelope is what its sender put there. -/
theorem envelope_reading {sender : Sender} {identity : TelemetryIdentity} {content : Content} {reading : ServingReading}
    (valid : validateServingEnvelope isAddress (sender.envelope identity content) = .ok reading) :
    reading = ⟨identity, sender.replicaId, sender.sequence⟩ := by
  unfold validateServingEnvelope at valid
  obtain ⟨fields, shape, valid⟩ := bind_ok valid
  have shown := (shaped_ok shape).symm.trans
    (@Value.shaped?_ofFields (servingEnvelopeFields identity sender.replicaId sender.sequence content.observedAt _)
      servingFields (Value.sameNames_self _))
  cases shown
  obtain ⟨⟨⟩, -, valid⟩ := bind_ok valid
  obtain ⟨read, identified, valid⟩ := bind_ok valid
  obtain ⟨replicaId, named, valid⟩ := bind_ok valid
  obtain ⟨sequence, numbered, valid⟩ := bind_ok valid
  obtain ⟨⟨⟩, -, valid⟩ := bind_ok valid
  obtain ⟨⟨⟩, -, valid⟩ := bind_ok valid
  obtain ⟨printed, -, valid⟩ := bind_ok valid
  obtain ⟨⟨⟩, -, valid⟩ := bind_ok valid
  cases valid
  have same : read = identity := Except.ok.inj (identified.symm.trans (fields_identity _ _ _ _ _))
  have name : some sender.replicaId = some replicaId := (expect_ok named).1
  have number : some sender.sequence = some sequence := (expect_ok numbered).1
  rw [same, Option.some.inj name, Option.some.inj number]

/-- A valid envelope of the store's generation is stored where it is newer, or new and there is room. -/
theorem report_of_valid {store : ServingStatsStore isAddress} {raw : Value} {reading : ServingReading}
    (valid : validateServingEnvelope isAddress raw = .ok reading) (owned : reading.identity = store.identity)
    (newer : ∀ previous, store.latest.get? reading.replicaId = some previous →
      previous.reading.sequence < reading.sequence)
    (room : store.latest.get? reading.replicaId = none → store.latest.size < store.expectedReplicas.val) :
    store.report raw = (store.put ⟨raw, reading, valid⟩, .ok true) := by
  have accepted : store.accept raw = .ok (store.put ⟨raw, reading, valid⟩, true) := by
    unfold ServingStatsStore.accept
    split
    case h_2 failure refused => cases valid.symm.trans refused
    case h_1 other read =>
    cases valid.symm.trans read
    refine (ok_bind (require_of owned _) _).trans ?_
    cases found : store.latest.get? reading.replicaId with
    | some previous =>
      have later := newer previous found
      refine (ok_bind (require_of (Nat.le_of_lt later) _) _).trans ?_
      exact if_neg (Nat.ne_of_gt later)
    | none => exact ok_bind (require_of (room found) _) _
  unfold ServingStatsStore.report
  rw [accepted]

end Envelope

section Pushes

variable {isAddress : String → Bool} {size : Count}

namespace PushState

def envelope (state : PushState isAddress size) (slot : Fin size.val) (content : Content) : Value :=
  (state.senders slot).envelope state.store.identity content

def answer (state : PushState isAddress size) (slot : Fin size.val) (content : Content) :
    ServingStatsStore isAddress × Except Failure Bool :=
  state.store.report (state.envelope slot content)

/-- The sender counts a push that was answered without an exception. -/
def step (state : PushState isAddress size) : PushEvent size → PushState isAddress size
  | .push slot content applied acknowledged =>
    if applied then
      let (store, answer) := state.answer slot content
      if acknowledged && answer.toBool then
        { store, senders := Function.update state.senders slot (state.senders slot).next }
      else { state with store }
    else state
  | .restart slot replicaId => { state with senders := Function.update state.senders slot { replicaId } }

/-- The envelope passes the checks of the store: the address of its node was read, and what it
    tells is finite and bounded. -/
def Valid (state : PushState isAddress size) (slot : Fin size.val) (content : Content) : Prop :=
  ∃ reading, validateServingEnvelope isAddress (state.envelope slot content) = .ok reading

/-- An actor that replaces another has a key that nothing else has. -/
def Fresh (state : PushState isAddress size) : PushEvent size → Prop
  | .push _ _ _ _ => True
  | .restart _ replicaId =>
    state.store.latest.get? replicaId = none ∧ ∀ slot, (state.senders slot).replicaId ≠ replicaId

/-- A push that is applied is acknowledged exactly if it is valid, and only an actor that the
    store has not heard of is replaced. -/
def Undisturbed (state : PushState isAddress size) : PushEvent size → Prop
  | .push slot content applied acknowledged => applied = true → (acknowledged = true ↔ state.Valid slot content)
  | .restart slot _ => state.store.latest.get? (state.senders slot).replicaId = none

/-- A push that is delivered and acknowledged leaves its envelope in the store. -/
def Landed (state : PushState isAddress size) : PushEvent size → Prop
  | .push slot content true true =>
    (((state.step (.push slot content true true)).store.latest.get? (state.senders slot).replicaId).map (·.raw)) =
      some (state.envelope slot content)
  | _ => True

/-- The store takes the next valid push of every live replica. -/
def Open (state : PushState isAddress size) : Prop :=
  ∀ slot content, state.Valid slot content → (state.answer slot content).2 = .ok true

/-- Every key in the store is that of a live replica, which has counted the push. -/
structure Ready (state : PushState isAddress size) : Prop where
  recorded : ∀ replicaId envelope, state.store.latest.get? replicaId = some envelope →
    ∃ slot, (state.senders slot).replicaId = replicaId ∧ envelope.reading.sequence < (state.senders slot).sequence
  distinct : Function.Injective fun slot => (state.senders slot).replicaId
  sized : state.store.expectedReplicas = size

variable {state : PushState isAddress size}

theorem Ready.room (ready : state.Ready) {slot : Fin size.val}
    (absent : state.store.latest.get? (state.senders slot).replicaId = none) :
    state.store.latest.size < state.store.expectedReplicas.val := by
  have within : state.store.latest.keys.toFinset ⊆
      (Finset.univ.image fun slot => (state.senders slot).replicaId).erase (state.senders slot).replicaId := by
    intro replicaId listed
    have known := (Dict.isSome_get?_iff _ _).mpr (List.mem_toFinset.mp listed)
    obtain ⟨envelope, found⟩ := Option.isSome_iff_exists.mp known
    obtain ⟨other, rfl, -⟩ := ready.recorded replicaId envelope found
    refine Finset.mem_erase.mpr ⟨?_, Finset.mem_image_of_mem _ (Finset.mem_univ other)⟩
    intro same
    rw [same, absent] at found
    cases found
  have counted := Finset.card_le_card within
  rw [List.toFinset_card_of_nodup (show state.store.latest.keys.Nodup from state.store.latest.nodup), Finset.card_erase_of_mem
    (Finset.mem_image_of_mem _ (Finset.mem_univ slot)), Finset.card_image_of_injective _ ready.distinct,
    Finset.card_univ, Fintype.card_fin] at counted
  rw [Dict.size_eq_keys_length, ready.sized]
  have positive := size.property
  omega

/-- A valid push of a live replica is stored. -/
theorem Ready.answer_eq (ready : state.Ready) {slot : Fin size.val} {content : Content} {reading : ServingReading}
    (valid : validateServingEnvelope isAddress (state.envelope slot content) = .ok reading) :
    state.answer slot content = (state.store.put ⟨state.envelope slot content, reading, valid⟩, .ok true) := by
  have read := envelope_reading valid
  refine report_of_valid valid ?_ ?_ ?_
  · rw [read]
  · intro previous found
    rw [read] at found ⊢
    obtain ⟨other, named, counted⟩ := ready.recorded _ previous found
    rw [ready.distinct named] at counted
    exact counted
  · intro absent
    rw [read] at absent
    exact ready.room absent

theorem Ready.isOpen (ready : state.Ready) : state.Open := by
  rintro slot content ⟨reading, valid⟩
  rw [ready.answer_eq valid]

/-- A push whose envelope fails its checks only counts a rejection. -/
theorem answer_of_invalid {slot : Fin size.val} {content : Content} (invalid : ¬ state.Valid slot content) :
    ∃ failure rejected, state.answer slot content = (state.store.counted rejected, .error failure) := by
  unfold answer ServingStatsStore.report
  have refused : ∃ failure, state.store.accept (state.envelope slot content) = .error failure := by
    unfold ServingStatsStore.accept
    split
    · rename_i reading valid
      exact absurd ⟨reading, valid⟩ invalid
    · exact ⟨_, rfl⟩
  obtain ⟨failure, refused⟩ := refused
  rw [refused]
  exact ⟨failure, _, rfl⟩

theorem Ready.step_push (ready : state.Ready) {slot : Fin size.val} {content : Content} {reading : ServingReading}
    (valid : validateServingEnvelope isAddress (state.envelope slot content) = .ok reading) :
    state.step (.push slot content true true) =
      { store := state.store.put ⟨state.envelope slot content, reading, valid⟩
        senders := Function.update state.senders slot (state.senders slot).next } := by
  simp only [step, ready.answer_eq valid, Except.toBool, Bool.and_self, if_true]

theorem step_refused {slot : Fin size.val} {content : Content} {acknowledged : Bool}
    (invalid : ¬ state.Valid slot content) :
    ∃ rejected, state.step (.push slot content true acknowledged) =
      { state with store := state.store.counted rejected } := by
  obtain ⟨failure, rejected, refused⟩ := answer_of_invalid invalid
  refine ⟨rejected, ?_⟩
  simp only [step, refused, Except.toBool, Bool.and_false, Bool.false_eq_true, if_true, if_false]

theorem Ready.landed (ready : state.Ready) {event : PushEvent size} (undisturbed : state.Undisturbed event) :
    state.Landed event := by
  cases event with
  | restart slot replicaId => trivial
  | push slot content applied acknowledged =>
    cases applied <;> cases acknowledged <;> try trivial
    obtain ⟨reading, valid⟩ := (undisturbed rfl).mp rfl
    show ((state.step (.push slot content true true)).store.latest.get? _).map (·.raw) = some _
    rw [ready.step_push valid]
    have key : reading.replicaId = (state.senders slot).replicaId := by rw [envelope_reading valid]
    rw [← key]
    exact congrArg _ (Dict.get?_insert_self _ _ _)

theorem Ready.after_push (ready : state.Ready) {slot : Fin size.val} {content : Content} {reading : ServingReading}
    (valid : validateServingEnvelope isAddress (state.envelope slot content) = .ok reading) :
    (state.step (.push slot content true true)).Ready := by
  have read := envelope_reading valid
  rw [ready.step_push valid]
  have names : ∀ other, (Function.update state.senders slot (state.senders slot).next other).replicaId =
      (state.senders other).replicaId := by
    intro other
    by_cases same : other = slot
    · rw [same, Function.update_self]
      rfl
    · rw [Function.update_of_ne same]
  refine ⟨?_, ?_, ready.sized⟩
  · intro replicaId envelope found
    replace found : (state.store.latest.insert reading.replicaId _).get? replicaId = some envelope := found
    rw [Dict.get?_insert] at found
    split_ifs at found with same
    · cases found
      refine ⟨slot, ?_, ?_⟩
      · rw [names, ← same, read]
      · show reading.sequence < (Function.update state.senders slot (state.senders slot).next slot).sequence
        rw [Function.update_self, read]
        exact Nat.lt_succ_self _
    · obtain ⟨other, rfl, counted⟩ := ready.recorded replicaId envelope found
      refine ⟨other, names other, ?_⟩
      show _ < (Function.update state.senders slot _ other).sequence
      by_cases self : other = slot
      · rw [self] at counted ⊢
        rw [Function.update_self]
        exact Nat.lt_succ_of_lt counted
      · rw [Function.update_of_ne self]
        exact counted
  · intro left right same
    refine ready.distinct ?_
    simpa only [names] using same

theorem Ready.step (ready : state.Ready) {event : PushEvent size} (fresh : state.Fresh event)
    (undisturbed : state.Undisturbed event) : (state.step event).Ready := by
  cases event with
  | push slot content applied acknowledged =>
    cases applied with
    | false => exact ready
    | true =>
      by_cases valid : state.Valid slot content
      · obtain ⟨reading, valid⟩ := valid
        rw [(undisturbed rfl).mpr ⟨reading, valid⟩]
        exact ready.after_push valid
      · obtain ⟨rejected, stepped⟩ := @step_refused _ _ state slot content acknowledged valid
        rw [stepped]
        exact ⟨ready.recorded, ready.distinct, ready.sized⟩
  | restart slot replicaId =>
    refine ⟨?_, ?_, ready.sized⟩
    · intro other envelope found
      obtain ⟨holder, named, counted⟩ := ready.recorded other envelope found
      have apart : holder ≠ slot := by
        rintro rfl
        replace undisturbed : state.store.latest.get? (state.senders holder).replicaId = none := undisturbed
        rw [named] at undisturbed
        cases found.symm.trans undisturbed
      refine ⟨holder, ?_, ?_⟩
      · show (Function.update state.senders slot _ holder).replicaId = other
        rw [Function.update_of_ne apart]
        exact named
      · show _ < (Function.update state.senders slot _ holder).sequence
        rw [Function.update_of_ne apart]
        exact counted
    · intro left right same
      replace same : (Function.update state.senders slot { replicaId } left).replicaId =
        (Function.update state.senders slot { replicaId } right).replicaId := same
      by_cases atLeft : left = slot <;> by_cases atRight : right = slot
      · rw [atLeft, atRight]
      · rw [atLeft, Function.update_self, Function.update_of_ne atRight] at same
        exact absurd same.symm (fresh.2 right)
      · rw [atRight, Function.update_self, Function.update_of_ne atLeft] at same
        exact absurd same (fresh.2 left)
      · rw [Function.update_of_ne atLeft, Function.update_of_ne atRight] at same
        exact ready.distinct same

/-- A replica whose newest push is recorded but not counted has every other push of that sequence refused. -/
theorem push_refused_behind {slot : Fin size.val} {held : ServingEnvelope isAddress}
    (found : state.store.latest.get? (state.senders slot).replicaId = some held)
    (behind : (state.senders slot).sequence ≤ held.reading.sequence) {content : Content}
    (differs : Value.pyEq (state.envelope slot content) held.raw = false) :
    ∃ failure rejected, state.answer slot content = (state.store.counted rejected, .error failure) := by
  rcases state.store.report_cases (state.envelope slot content) with refused |
    ⟨reading, previous, valid, latest, equal, -⟩ | ⟨envelope, raw, -, -, newer, -⟩
  · exact refused
  · rw [envelope_reading valid] at latest
    cases latest.symm.trans found
    rw [differs] at equal
    cases equal
  · have read := envelope_reading (raw ▸ envelope.valid : validateServingEnvelope isAddress
      ((state.senders slot).envelope state.store.identity content) = _)
    rw [read] at newer
    exact absurd behind (Nat.not_le_of_lt (newer held found))

end PushState

/-- The store of a generation before any replica has reported, with the actors of its slots. -/
def pushStart (isAddress : String → Bool) (identity : TelemetryIdentity) {size : Count} (keys : Fin size.val → String) :
    PushState isAddress size :=
  { store := { identity, expectedReplicas := size }, senders := fun slot => { replicaId := keys slot } }

theorem pushStart_ready (isAddress : String → Bool) (identity : TelemetryIdentity) {keys : Fin size.val → String}
    (distinct : Function.Injective keys) : (pushStart isAddress identity keys).Ready where
  recorded replicaId envelope found := by cases found
  distinct := distinct
  sized := rfl

/-- Whatever pushes are lost and whatever actors are replaced, a push that is delivered and
    acknowledged lands, and the store stays open to every live replica. -/
theorem pushes_land (isAddress : String → Bool) (identity : TelemetryIdentity) {keys : Fin size.val → String}
    (distinct : Function.Injective keys) (events : List (PushEvent size))
    (fresh : Along PushState.step PushState.Fresh (pushStart isAddress identity keys) events)
    (undisturbed : Along PushState.step PushState.Undisturbed (pushStart isAddress identity keys) events) :
    Along PushState.step PushState.Landed (pushStart isAddress identity keys) events ∧
      Throughout PushState.step PushState.Open (pushStart isAddress identity keys) events := by
  have ready := pushStart_ready isAddress identity distinct
  revert ready fresh undisturbed
  generalize pushStart isAddress identity keys = start
  intro fresh undisturbed ready
  induction events generalizing start with
  | nil => exact ⟨trivial, throughout_nil.mpr ready.isOpen⟩
  | cons event rest ih =>
    obtain ⟨landed, opened⟩ := ih _ fresh.2 undisturbed.2 (ready.step fresh.1 undisturbed.1)
    exact ⟨⟨ready.landed undisturbed.1, landed⟩, throughout_cons.mpr ⟨ready.isOpen, opened⟩⟩

section Sample

def emptyDistribution : Value := .ofFields [("n", .int 0)]

def sampleSummary : Value :=
  .ofFields ([("total_requests", Value.int 0)] ++ distributions.map (·, emptyDistribution) ++
    [("mean_batch_size", Value.int 0), ("max_batch_size", .int 0), ("kv_cache_peak", .int 0)])

def sampleContent (observedAt : FloatText) : Content :=
  { observedAt, modelId := "model", nodeIp := "10.0.0.1", pid := 1, summary := sampleSummary, sample := .list [] }

def firstTime : FloatText := ⟨"1.0".toList, by decide⟩

def secondTime : FloatText := ⟨"2.0".toList, by decide⟩

def sampleStart : PushState (fun _ => true) sampleSize := pushStart _ sampleIdentity fun _ => "replica"

def sampleSlot : Fin sampleSize.val := ⟨0, Nat.one_pos⟩

theorem sample_distinct : Function.Injective fun _ : Fin sampleSize.val => "replica" :=
  fun left right _ => (Fin.subsingleton_one).elim left right

/-- A push that is applied while its acknowledgement is lost. -/
def lostPush : List (PushEvent sampleSize) := [.push sampleSlot (sampleContent firstTime) true false]

def madePush : List (PushEvent sampleSize) := [.push sampleSlot (sampleContent firstTime) true true]

theorem sample_evaluated :
    (validateServingEnvelope (fun _ => true) (sampleStart.envelope sampleSlot (sampleContent firstTime))).toOption.isSome =
        true ∧
      (validateServingEnvelope (fun _ => true)
        ((run PushState.step sampleStart lostPush).envelope sampleSlot (sampleContent secondTime))).toOption.isSome = true ∧
      ((run PushState.step sampleStart lostPush).answer sampleSlot (sampleContent secondTime)).2.toOption = none := by
  decide +kernel

theorem valid_of_isSome {state : PushState (fun _ => true) sampleSize} {slot : Fin sampleSize.val} {content : Content}
    (read : (validateServingEnvelope (fun _ => true) (state.envelope slot content)).toOption.isSome = true) :
    state.Valid slot content := by
  obtain ⟨reading, found⟩ := Option.isSome_iff_exists.mp read
  exact ⟨reading, eq_ok_of_toOption found⟩

/-- After one lost acknowledgement the store refuses the replica. -/
theorem lost_acknowledgement_wedges :
    ¬ ∀ events, Along PushState.step PushState.Fresh sampleStart events →
      Along PushState.step PushState.Landed sampleStart events ∧ Throughout PushState.step PushState.Open sampleStart events := by
  intro always
  have opened := (always lostPush ⟨trivial, trivial⟩).2.last
  have answered := opened sampleSlot (sampleContent secondTime) (valid_of_isSome sample_evaluated.2.1)
  have refused := sample_evaluated.2.2
  rw [answered] at refused
  cases refused

theorem made_push_lands :
    Along PushState.step PushState.Landed sampleStart madePush ∧ Throughout PushState.step PushState.Open sampleStart madePush := by
  refine pushes_land _ _ sample_distinct madePush ⟨trivial, trivial⟩ ⟨?_, trivial⟩
  intro _
  exact iff_of_true rfl (valid_of_isSome sample_evaluated.1)

end Sample

end Pushes

end ExaServe.Telemetry
