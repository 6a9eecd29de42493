import ExaServe.State.BindingEvents

namespace ExaServe.State

open Lib Plan Control Compat ComponentInstanceBinding

/-- The events number on without a gap, from the given one. -/
def Contiguous (first : Nat) (events : List ComponentInstanceBinding) : Prop :=
  events.map bindingSequence = List.range' first events.length

theorem contiguous_nil (first : Nat) : Contiguous first [] := rfl

theorem contiguous_cons {first : Nat} {event : ComponentInstanceBinding} {rest : List ComponentInstanceBinding} :
    Contiguous first (event :: rest) ↔ event.bindingSequence = first ∧ Contiguous (first + 1) rest := by
  simp only [Contiguous, List.map_cons, List.length_cons, List.range'_succ, List.cons.injEq]

theorem contiguous_append {first : Nat} {left right : List ComponentInstanceBinding} :
    Contiguous first (left ++ right) ↔ Contiguous first left ∧ Contiguous (first + left.length) right := by
  induction left generalizing first with
  | nil => simp [Contiguous]
  | cons event rest ih =>
    rw [List.cons_append, contiguous_cons, contiguous_cons, ih, and_assoc, List.length_cons]
    have shift : first + 1 + rest.length = first + (rest.length + 1) := by omega
    rw [shift]

namespace StoreConfig

variable {config : StoreConfig} {first : Nat} {events : List ComponentInstanceBinding}

theorem sequenceAt_head (contiguous : Contiguous first events) (nonempty : events ≠ []) :
    sequenceAt events.head? = first := by
  cases events with
  | nil => exact absurd rfl nonempty
  | cons event rest => exact (contiguous_cons.mp contiguous).1

theorem sequenceAt_last (contiguous : Contiguous first events) (nonempty : events ≠ []) :
    sequenceAt events.getLast? = first + events.length - 1 := by
  obtain ⟨front, last, rfl⟩ := List.eq_nil_or_concat' events |>.resolve_left nonempty
  have final := (contiguous_cons.mp (contiguous_append.mp contiguous).2).1
  simp only [List.getLast?_concat, sequenceAt, Option.map_some, Option.getD_some, final, List.length_append,
    List.length_singleton]
  omega

theorem decodeBatch_stored (path : String) (nonempty : events ≠ []) (contiguous : Contiguous first events)
    (sealed : ∀ event ∈ events, Sealed config event) :
    config.decodeBatch (config.storedBatch events) path = .ok events := by
  have head := sequenceAt_head contiguous nonempty
  have last := sequenceAt_last contiguous nonempty
  have length_pos : 0 < events.length := List.length_pos_iff.mpr nonempty
  have names : Json.sameNames (config.storedBatch events) batchFields = true := by
    have same : Json.sameNames (config.batchPayload events) batchFields = true := by
      rw [Json.sameNames, batchPayload_names]
      decide
    rw [← same]
    apply Json.sameNames_congr
    have sorted := Json.fieldNames_sortFields (Json.canonicalFields (config.batchPayload events))
    rwa [Json.fieldNames_canonicalFields] at sorted
  have value (name : String) (found : Json) (there : Json.lookup name (config.batchPayload events) = some found) :
      (Json.lookup name (config.storedBatch events)).getD .null = Json.canonical found := by
    rw [lookup_storedBatch, there]
    rfl
  have schema := value "schema_version" (.int 3) rfl
  have hash := value "batch_hash" (.str (config.batchHash events)) rfl
  have start := value "start_sequence" (.int (sequenceAt events.head?)) rfl
  have finish := value "end_sequence" (.int (sequenceAt events.getLast?)) rfl
  have bodies := value "events" (.arr (events.map fun event => .obj event.asdict)) rfl
  have same_identity : (config.identity.toDict.any fun entry =>
      !Json.pyEq ((Json.lookup entry.1 (config.storedBatch events)).getD .null) entry.2) = false := by
    have deployment := value "deployment_id" (.str config.identity.deploymentId) rfl
    have generation := value "generation" (.int config.identity.generation) rfl
    have plan := value "deployment_plan_hash" (.str config.identity.deploymentPlanHash) rfl
    have site := value "site_profile_hash" (.str config.identity.siteProfileHash) rfl
    have allocation := value "allocation_binding_hash" (.str config.identity.allocationBindingHash) rfl
    simp [BindingIdentity.toDict, deployment, generation, plan, site, allocation, Json.canonical, Json.pyEq,
      Json.number?]
  have items : Json.canonical (.arr (events.map fun event => .obj event.asdict)) =
      .arr (events.map fun event => .obj event.stored) := by
    simp only [Json.canonical, Json.canonicalItems_eq_map, List.map_map, Function.comp_def, stored]
  have range : events.map bindingSequence = List.range' first (first + events.length - 1 + 1 - first) := by
    have count : first + events.length - 1 + 1 - first = events.length := by omega
    rw [count]
    exact contiguous
  have decoded := decodeEvents_stored path sealed
  unfold decodeBatch
  simp only [names, schema, same_identity, hash, storedBatch_hash, bodies, items, start, finish]
  cases events with
  | nil => exact absurd rfl nonempty
  | cons event rest =>
    have first_event : sequenceAt (some event) = first := head
    simp only [List.map_cons, List.length_cons] at decoded range last ⊢
    simp only [decoded, bind, Except.bind, List.head?_cons, List.map_cons, first_event, last, range]
    simp [Json.canonical, Json.pyEq, Json.number?]

theorem decodeFile_batch (path : String) (nonempty : events ≠ []) (contiguous : Contiguous first events)
    (sealed : ∀ event ∈ events, Sealed config event) :
    config.decodeFile path (config.batchFile events).2 = .ok events := by
  have kind : Json.lookup "kind" (config.storedBatch events) = some (.str "component_binding_batch") := by
    rw [lookup_storedBatch]
    rfl
  rw [batchFile_eq]
  simp only [decodeFile, kind, decodeBatch_stored path nonempty contiguous sealed]

theorem applyRecovered_ok (path : String) {store : BindingStore} (contiguous : Contiguous (store.sequence + 1) events)
    (sealed : ∀ event ∈ events, Sealed config event) :
    config.applyRecovered path store events = .ok { store with
      current := events.foldl applyEvent store.current, sequence := store.sequence + events.length } := by
  induction events generalizing store with
  | nil => rfl
  | cons event rest ih =>
    obtain ⟨here, later⟩ := contiguous_cons.mp contiguous
    have own : config.verifyIdentity event = .ok () := by
      simp [verifyIdentity, (sealed event List.mem_cons_self).identity]
    have shift : store.sequence + 1 + rest.length = store.sequence + (rest.length + 1) := by omega
    rw [applyRecovered, ok_bind own, if_neg (not_not.mpr here), here,
      ih later
        fun other member => sealed other (List.mem_cons_of_mem _ member)]
    simp only [List.foldl_cons, List.length_cons, shift]

theorem batchName_json (config : StoreConfig) (events : List ComponentInstanceBinding) :
    ".json".toList.isSuffixOf (config.batchName events).toList = true := by
  rw [List.isSuffixOf_iff_suffix, batchName, String.toList_ofList]
  exact ⟨padded 12 (sequenceAt events.head?) ++ '-' :: (padded 12 (sequenceAt events.getLast?) ++
    '-' :: ((config.batchHash events).toList ++ ".batch".toList)), by simp⟩

/-- Replaying the files of a contiguous series of batches applies all their events. -/
theorem recoverFiles_batches {batches : List (List ComponentInstanceBinding)} {store : BindingStore}
    (nonempty : ∀ batch ∈ batches, batch ≠ []) (contiguous : Contiguous (store.sequence + 1) batches.flatten)
    (sealed : ∀ event ∈ batches.flatten, Sealed config event) :
    config.recoverFiles store (batches.map config.batchFile) = .ok { store with
      current := batches.flatten.foldl applyEvent store.current
      sequence := store.sequence + batches.flatten.length } := by
  induction batches generalizing store with
  | nil => rfl
  | cons batch rest ih =>
    rw [List.flatten_cons, contiguous_append] at contiguous
    have batch_sealed : ∀ event ∈ batch, Sealed config event :=
      fun event member => sealed event (List.mem_append_left _ member)
    have rest_sealed : ∀ event ∈ rest.flatten, Sealed config event :=
      fun event member => sealed event (List.mem_append_right _ member)
    have shift : store.sequence + 1 + batch.length = store.sequence + batch.length + 1 := by omega
    have later := contiguous.2
    rw [shift] at later
    have decoded := decodeFile_batch (config.path (config.batchFile batch).1) (nonempty batch List.mem_cons_self)
      contiguous.1 batch_sealed
    have applied := applyRecovered_ok (config.path (config.batchFile batch).1) contiguous.1 batch_sealed
    have named : ".json".toList.isSuffixOf (config.batchFile batch).1.toList = true := batchName_json config batch
    rw [List.map_cons, recoverFiles, if_neg (by rw [named]; decide), ok_bind decoded, ok_bind applied,
      ih (fun other member => nonempty other (List.mem_cons_of_mem _ member)) later rest_sealed]
    simp only [List.flatten_cons, List.foldl_append, List.length_append, Nat.add_assoc]

theorem batchName_lt {left right : List ComponentInstanceBinding}
    (less : sequenceAt left.head? < sequenceAt right.head?) (few : sequenceAt right.head? < 10 ^ 12) :
    config.batchName left < config.batchName right := by
  have lengths : (padded 12 (sequenceAt left.head?)).length = (padded 12 (sequenceAt right.head?)).length := by
    rw [padded_length (by decide) (less.trans few), padded_length (by decide) few]
  have ordered := append_lt_append lengths (padded_lt (by decide) less few)
  simp only [String.lt_iff_toList_lt, batchName, String.toList_ofList]
  apply ordered

theorem sequenceAt_of_batchName {left right : List ComponentInstanceBinding}
    (same : config.batchName left = config.batchName right) : sequenceAt left.head? = sequenceAt right.head? := by
  have texts := congrArg String.toList same
  simp only [batchName, String.toList_ofList] at texts
  exact padded_cons_inj (by decide) texts

/-- The names of the batches are in the order of their events. -/
theorem names_increasing {batches : List (List ComponentInstanceBinding)} {first : Nat}
    (nonempty : ∀ batch ∈ batches, batch ≠ []) (contiguous : Contiguous first batches.flatten)
    (few : first + batches.flatten.length ≤ 10 ^ 12) :
    (batches.map config.batchFile).Pairwise fun left right => left.1 < right.1 := by
  induction batches generalizing first with
  | nil => exact .nil
  | cons batch rest ih =>
    have rest_nonempty : ∀ other ∈ rest, other ≠ [] := fun other member => nonempty other (List.mem_cons_of_mem _ member)
    rw [List.flatten_cons, contiguous_append] at contiguous
    rw [List.flatten_cons, List.length_append] at few
    have here := sequenceAt_head contiguous.1 (nonempty batch List.mem_cons_self)
    have length_pos : 0 < batch.length := List.length_pos_iff.mpr (nonempty batch List.mem_cons_self)
    rw [List.map_cons, List.pairwise_cons]
    refine ⟨?_, ih rest_nonempty contiguous.2 (by omega)⟩
    intro file member
    obtain ⟨other, inside, rfl⟩ := List.mem_map.mp member
    -- a later batch starts within the events that follow this one
    obtain ⟨front, back, rfl⟩ := List.append_of_mem inside
    rw [List.flatten_append, contiguous_append, List.flatten_cons, contiguous_append] at contiguous
    have there := sequenceAt_head contiguous.2.2.1 (rest_nonempty other inside)
    have other_pos : 0 < other.length := List.length_pos_iff.mpr (rest_nonempty other inside)
    rw [List.flatten_append, List.flatten_cons, List.length_append, List.length_append] at few
    exact batchName_lt (by omega) (by omega)

end StoreConfig

/-- The bindings after a series of events. -/
def replay (events : List ComponentInstanceBinding) : Dict String ComponentInstanceBinding :=
  events.foldl applyEvent Dict.empty

/-- The batches one or several processes have published, without gap or overlap. -/
structure Journal (config : StoreConfig) where
  batches : List (List ComponentInstanceBinding)
  nonempty : ∀ batch ∈ batches, batch ≠ []
  contiguous : Contiguous 1 batches.flatten
  sealed : ∀ event ∈ batches.flatten, Sealed config event
  few : batches.flatten.length < 10 ^ 12

namespace Journal

variable {config : StoreConfig}

theorem no_batches_few : ([] : List (List ComponentInstanceBinding)).flatten.length < 10 ^ 12 := by simp

def empty (config : StoreConfig) : Journal config where
  batches := []
  nonempty := by simp
  contiguous := contiguous_nil 1
  sealed := by simp
  few := no_batches_few

def events (journal : Journal config) : List ComponentInstanceBinding := journal.batches.flatten

def files (journal : Journal config) : List (String × Json) := journal.batches.map config.batchFile

/-- The memory of a store that is opened on the journal. -/
def store (journal : Journal config) : BindingStore where
  current := replay journal.events
  sequence := journal.events.length
  publishedSequence := journal.events.length

theorem names_sorted (journal : Journal config) :
    (journal.files.map Prod.fst).Pairwise (· < ·) := by
  have few := journal.few
  exact List.pairwise_map.mpr (StoreConfig.names_increasing journal.nonempty journal.contiguous (by omega))

/-- Opening a store on the journal succeeds and replays every event. -/
theorem recover_files (journal : Journal config) : config.recover journal.files = .ok journal.store := by
  have sorted : Json.sortFields journal.files = journal.files := by
    have increasing := List.pairwise_map.mp journal.names_sorted
    exact (increasing.imp le_of_lt).insertionSort_eq
  have replayed : config.recoverFiles {} (journal.batches.map config.batchFile) = _ :=
    StoreConfig.recoverFiles_batches journal.nonempty journal.contiguous journal.sealed
  unfold StoreConfig.recover
  rw [sorted, files, replayed]
  simp only [Except.map, Nat.zero_add]
  rfl

/-- A store and its directory, as a process finds them. -/
def opened (journal : Journal config) : Writer where
  store := journal.store
  files := journal.files
  currentFile := some (config.currentPayload journal.store)

end Journal

namespace Writer

variable {config : StoreConfig} {writer after : Writer}

/-- What one step of a writer does to its memory and its directory, unless it loses
    the link of a batch. -/
inductive Effect (config : StoreConfig) (writer after : Writer) : Prop where
  | quiet (files : after.files = writer.files) (current : after.store.current = writer.store.current)
    (sequence : after.store.sequence = writer.store.sequence)
    (pending : after.store.pending = writer.store.pending)
  | appended (entry : ComponentInstanceBinding) (closed : Sealed config entry)
    (next : entry.bindingSequence = writer.store.sequence + 1) (files : after.files = writer.files)
    (current : after.store.current = applyEvent writer.store.current entry)
    (sequence : after.store.sequence = writer.store.sequence + 1)
    (pending : after.store.pending = writer.store.pending ++ [entry])
  | published (some_pending : writer.store.pending ≠ [])
    (files : after.files = writer.files ++ [config.batchFile writer.store.pending])
    (current : after.store.current = writer.store.current)
    (sequence : after.store.sequence = writer.store.sequence) (pending : after.store.pending = [])

/-- The batch is in the directory and its events are pending still. -/
structure Linked (config : StoreConfig) (writer after : Writer) : Prop where
  some_pending : writer.store.pending ≠ []
  files : after.files = writer.files ++ [config.batchFile writer.store.pending]
  current : after.store.current = writer.store.current
  sequence : after.store.sequence = writer.store.sequence
  pending : after.store.pending = writer.store.pending

/-- The step publishes events and fails after their link. -/
def LostLink (config : StoreConfig) (writer : Writer) (event : WriterEvent) : Prop :=
  event = .advance .failedAfter ∧ writer.todo.head? = some .publishEvents ∧ writer.store.pending ≠ [] ∧
    (config.batchFile writer.store.pending).1 ∉ writer.files.map Prod.fst

theorem Effect.raised (failure : Raised) : Effect config writer (writer.raise failure) := .quiet rfl rfl rfl rfl

theorem append_effect {entry : ComponentInstanceBinding} (valid : entry.Valid)
    (next : entry.bindingSequence = writer.store.sequence + 1) :
    Effect config writer (writer.append config entry.finalize) := by
  unfold append
  split
  · exact .raised _
  · rename_i own
    have identity : entry.identity = config.identity := by
      unfold StoreConfig.verifyIdentity at own
      split_ifs at own with same
      exact same
    split_ifs with open_
    · exact .raised _
    · have closed : Sealed config entry.finalize :=
        { identity
          valid := { valid with own_digest := .inr (isSha256Hex_canonicalHash _) }
          finalized := not_not.mp open_ }
      exact .appended entry.finalize closed next rfl rfl next rfl

theorem appendBuilt_effect {entry : ComponentInstanceBinding}
    (next : entry.bindingSequence = writer.store.sequence + 1) :
    Effect config writer (writer.appendBuilt config entry.rebuilt) := by
  cases built : entry.rebuilt with
  | error failure => exact .raised failure
  | ok result =>
    obtain ⟨rfl, valid⟩ := rebuilt_eq_ok_iff.mp built
    exact append_effect valid next

theorem publishEvents_effect (outcome : IoOutcome) :
    Effect config writer (writer.publishEvents config outcome) ∨
      (outcome = .failedAfter ∧ (config.batchFile writer.store.pending).1 ∉ writer.files.map Prod.fst ∧
        Linked config writer (writer.publishEvents config outcome)) := by
  unfold publishEvents
  by_cases none_pending : writer.store.pending = []
  · rw [if_pos none_pending]
    exact .inl (.quiet rfl rfl rfl rfl)
  · rw [if_neg none_pending]
    cases outcome with
    | failedBefore => exact .inl (.raised _)
    | succeeded =>
      simp only [reduceCtorEq, if_false]
      split_ifs
      · exact .inl (.raised _)
      · exact .inl (.published none_pending rfl rfl rfl rfl)
    | failedAfter =>
      simp only
      split_ifs with taken
      · exact .inl (.raised _)
      · exact .inr ⟨trivial, taken, none_pending, rfl, rfl, rfl, rfl⟩

theorem publishCurrent_effect (outcome : IoOutcome) :
    Effect config writer (writer.publishCurrent config outcome) := by
  unfold publishCurrent
  split_ifs
  · exact .quiet rfl rfl rfl rfl
  · cases outcome <;> exact .quiet rfl rfl rfl rfl

theorem perform_effect (outcome : IoOutcome) {task : StoreTask} (other : task ≠ .publishEvents) :
    Effect config writer (writer.perform config outcome task) := by
  cases task with
  | retire slot state =>
    simp only [perform]
    split
    · exact appendBuilt_effect rfl
    · exact .quiet rfl rfl rfl rfl
  | activate request now supersedes => exact appendBuilt_effect rfl
  | acquireLease =>
    simp only [perform]
    split_ifs
    · exact .quiet rfl rfl rfl rfl
    · exact .raised _
  | publishEvents => exact absurd rfl other
  | publishCurrent => exact publishCurrent_effect outcome

/-- The store and the directory are all an effect looks at. -/
theorem Effect.of_same {before : Writer} (store : before.store = writer.store)
    (files : before.files = writer.files) (effect : Effect config before after) :
    Effect config writer after := by
  cases effect with
  | quiet a b c d => exact .quiet (a.trans files) (store ▸ b) (store ▸ c) (store ▸ d)
  | appended entry closed next a b c d =>
    exact .appended entry closed (store ▸ next) (a.trans files) (store ▸ b) (store ▸ c) (store ▸ d)
  | published some_pending a b c d =>
    exact .published (store ▸ some_pending) (by rw [a, files, store]) (store ▸ b) (store ▸ c) d

theorem step_cases (config : StoreConfig) (writer : Writer) (event : WriterEvent) :
    Effect config writer (writer.step config event) ∨
      (LostLink config writer event ∧ Linked config writer (writer.step config event)) := by
  cases event with
  | call call =>
    simp only [step]
    split <;> exact .inl (.quiet rfl rfl rfl rfl)
  | advance outcome =>
    simp only [step]
    split
    · exact .inl (.quiet rfl rfl rfl rfl)
    · rename_i task rest due
      have store : ({ writer with todo := rest } : Writer).store = writer.store := rfl
      by_cases publishing : task = .publishEvents
      · subst publishing
        have published : Effect config { writer with todo := rest } _ ∨ _ := publishEvents_effect outcome
        rcases published with effect | ⟨rfl, free, linked⟩
        · exact .inl (Effect.of_same store rfl effect)
        · have lost : LostLink config writer (.advance .failedAfter) :=
            ⟨rfl, by rw [due]; rfl, linked.some_pending, free⟩
          exact .inr ⟨lost, linked.some_pending, linked.files, linked.current, linked.sequence, linked.pending⟩
      · exact .inl (Effect.of_same store rfl (perform_effect outcome publishing))

theorem step_effect {event : WriterEvent} (kept : ¬LostLink config writer event) :
    Effect config writer (writer.step config event) := by
  rcases step_cases config writer event with effect | ⟨lost, -⟩
  · exact effect
  · exact absurd lost kept

/-- A valid event of the store's identity is appended. -/
theorem appendBuilt_valid {entry : ComponentInstanceBinding} (valid : entry.Valid)
    (own : entry.identity = config.identity) :
    writer.appendBuilt config entry.rebuilt =
      { writer with
        store := appended writer.store entry.finalize
        todo := dueTasks config (appended writer.store entry.finalize) ++ writer.todo } := by
  have built : entry.rebuilt = .ok entry := rebuilt_eq_ok_iff.mpr ⟨rfl, valid⟩
  have identity : config.verifyIdentity entry.finalize = .ok () := if_pos own
  have closed : entry.finalize.componentInstanceBindingHash = entry.finalize.computeHash := rfl
  rw [built, appendBuilt, append, identity]
  simp only [closed, ne_eq, not_true_eq_false, if_false]

/-- All events of a writer: the published ones and the pending ones. -/
def log (writer : Writer) (batches : List (List ComponentInstanceBinding)) : List ComponentInstanceBinding :=
  batches.flatten ++ writer.store.pending

/-- The directory holds exactly the given batches, and memory is the replay of the log. -/
structure Tracks (config : StoreConfig) (writer : Writer) (batches : List (List ComponentInstanceBinding)) :
    Prop where
  files : writer.files = batches.map config.batchFile
  nonempty : ∀ batch ∈ batches, batch ≠ []
  contiguous : Contiguous 1 (writer.log batches)
  sealed : ∀ event ∈ writer.log batches, Sealed config event
  current : writer.store.current = replay (writer.log batches)
  sequence : writer.store.sequence = (writer.log batches).length

theorem tracks_opened (journal : Journal config) : Tracks config journal.opened journal.batches where
  files := rfl
  nonempty := journal.nonempty
  contiguous := by simpa [log, Journal.opened, Journal.store] using journal.contiguous
  sealed := by simpa [log, Journal.opened, Journal.store] using journal.sealed
  current := by simp [log, Journal.opened, Journal.store, Journal.events]
  sequence := by simp [log, Journal.opened, Journal.store, Journal.events]

/-- A step that is not a lost link keeps the log and the directory in step; it adds
    at most one event to the log and at most one batch to the directory. -/
theorem Tracks.step {batches : List (List ComponentInstanceBinding)} (tracks : Tracks config writer batches)
    (effect : Effect config writer after) :
    ∃ later, Tracks config after later ∧ batches <+: later ∧
      (after.log later = writer.log batches ∨ ∃ entry, after.log later = writer.log batches ++ [entry]) := by
  cases effect with
  | quiet files current sequence pending =>
    have same : after.log batches = writer.log batches := by rw [log, log, pending]
    refine ⟨batches, ?_, List.prefix_refl _, .inl same⟩
    exact ⟨files.trans tracks.files, tracks.nonempty, same ▸ tracks.contiguous, same ▸ tracks.sealed,
      (current.trans tracks.current).trans (by rw [same]), (sequence.trans tracks.sequence).trans (by rw [same])⟩
  | appended entry closed next files current sequence pending =>
    have grown : after.log batches = writer.log batches ++ [entry] := by
      rw [log, log, pending, List.append_assoc]
    refine ⟨batches, ⟨files.trans tracks.files, tracks.nonempty, ?_, ?_, ?_, ?_⟩, List.prefix_refl _,
      .inr ⟨entry, grown⟩⟩
    · rw [grown, contiguous_append]
      refine ⟨tracks.contiguous, contiguous_cons.mpr ⟨?_, contiguous_nil _⟩⟩
      rw [next, tracks.sequence]
      omega
    · intro other member
      rw [grown] at member
      rcases List.mem_append.mp member with earlier | last
      · exact tracks.sealed other earlier
      · rw [List.mem_singleton.mp last]
        exact closed
    · rw [current, tracks.current, grown, replay, replay, List.foldl_append]
      rfl
    · rw [sequence, tracks.sequence, grown, List.length_append]
      rfl
  | published some_pending files current sequence pending =>
    have same : after.log (batches ++ [writer.store.pending]) = writer.log batches := by
      rw [log, log, pending, List.flatten_append, List.append_nil]
      simp
    refine ⟨batches ++ [writer.store.pending], ?_, List.prefix_append _ _, .inl same⟩
    refine ⟨by rw [files, tracks.files, List.map_append]; rfl, ?_, same ▸ tracks.contiguous,
      same ▸ tracks.sealed, (current.trans tracks.current).trans (by rw [same]),
      (sequence.trans tracks.sequence).trans (by rw [same])⟩
    intro batch member
    rcases List.mem_append.mp member with earlier | last
    · exact tracks.nonempty batch earlier
    · rw [List.mem_singleton.mp last]
      exact some_pending

/-- After any orderly run memory and directory are in step, and the run has passed
    through the state after every event of its log. -/
theorem tracked_run (journal : Journal config) (events : List WriterEvent)
    (orderly : Along (step config) (fun writer event => ¬LostLink config writer event) journal.opened events) :
    ∃ batches, Tracks config (run (step config) journal.opened events) batches ∧ journal.batches <+: batches ∧
      ∀ count, journal.events.length ≤ count →
        count ≤ ((run (step config) journal.opened events).log batches).length →
        ∃ taken, taken <+: events ∧ (run (step config) journal.opened taken).store.sequence = count ∧
          (run (step config) journal.opened taken).store.current =
            replay (((run (step config) journal.opened events).log batches).take count) := by
  induction events using List.reverseRecOn with
  | nil =>
    have tracks := tracks_opened journal
    refine ⟨journal.batches, tracks, List.prefix_refl _, ?_⟩
    intro count low high
    have whole : count = (journal.opened.log journal.batches).length := by
      have length : (journal.opened.log journal.batches).length = journal.events.length := tracks.sequence.symm
      rw [run_nil] at high
      omega
    refine ⟨[], List.prefix_refl _, ?_, ?_⟩
    · rw [run_nil, whole]
      exact tracks.sequence
    · rw [run_nil, whole, List.take_length]
      exact tracks.current
  | append_singleton events event ih =>
    obtain ⟨earlier_steps, last_step⟩ := along_concat.mp orderly
    obtain ⟨batches, tracks, extends_journal, passed⟩ := ih earlier_steps
    obtain ⟨later, after_tracks, longer, grown⟩ := tracks.step (step_effect last_step)
    rw [run_concat]
    refine ⟨later, after_tracks, extends_journal.trans longer, ?_⟩
    intro count low high
    by_cases earlier : count ≤ ((run (step config) journal.opened events).log batches).length
    · obtain ⟨taken, within, sequence, current⟩ := passed count low earlier
      refine ⟨taken, within.trans (List.prefix_append _ _), sequence, current.trans ?_⟩
      rcases grown with same | ⟨entry, longer_log⟩
      · rw [same]
      · rw [longer_log, List.take_append_of_le_length earlier]
    · have whole : count = (((run (step config) journal.opened events).step config event).log later).length := by
        rcases grown with same | ⟨entry, longer_log⟩
        · rw [same] at high
          exact absurd high earlier
        · rw [longer_log, List.length_append, List.length_singleton] at high ⊢
          omega
      refine ⟨events ++ [event], List.prefix_refl _, ?_, ?_⟩
      · rw [run_concat, whole]
        exact after_tracks.sequence
      · rw [run_concat, whole, List.take_length]
        exact after_tracks.current

/-- The events of the files, as they decode. -/
def publishedEvents (config : StoreConfig) (files : List (String × Json)) : List ComponentInstanceBinding :=
  files.flatMap fun file => ((config.decodeFile (config.path file.1) file.2).toOption).getD []

theorem publishedEvents_batches {batches : List (List ComponentInstanceBinding)} {first : Nat}
    (nonempty : ∀ batch ∈ batches, batch ≠ []) (contiguous : Contiguous first batches.flatten)
    (sealed : ∀ event ∈ batches.flatten, Sealed config event) :
    publishedEvents config (batches.map config.batchFile) = batches.flatten := by
  induction batches generalizing first with
  | nil => rfl
  | cons batch rest ih =>
    rw [List.flatten_cons, contiguous_append] at contiguous
    have decoded := StoreConfig.decodeFile_batch (config.path (config.batchFile batch).1)
      (nonempty batch List.mem_cons_self) contiguous.1
      fun event member => sealed event (List.mem_append_left _ member)
    have later := ih (fun other member => nonempty other (List.mem_cons_of_mem _ member)) contiguous.2
      fun event member => sealed event (List.mem_append_right _ member)
    unfold publishedEvents at later ⊢
    rw [List.map_cons, List.flatMap_cons, decoded, later]
    rfl

/-- The batches of a tracked writer as a journal. -/
def Tracks.journal {batches : List (List ComponentInstanceBinding)} (tracks : Tracks config writer batches)
    (few : writer.store.sequence < 10 ^ 12) : Journal config where
  batches := batches
  nonempty := tracks.nonempty
  contiguous := (contiguous_append.mp tracks.contiguous).1
  sealed := fun event member => tracks.sealed event (List.mem_append_left _ member)
  few := by
    have sequence := tracks.sequence
    rw [log, List.length_append] at sequence
    omega

theorem Tracks.recover {batches : List (List ComponentInstanceBinding)} (tracks : Tracks config writer batches)
    (few : writer.store.sequence < 10 ^ 12) :
    config.recover writer.files = .ok (tracks.journal few).store := by
  rw [tracks.files]
  exact (tracks.journal few).recover_files

theorem Tracks.published {batches : List (List ComponentInstanceBinding)} (tracks : Tracks config writer batches) :
    publishedEvents config writer.files = batches.flatten := by
  rw [tracks.files]
  exact publishedEvents_batches tracks.nonempty (contiguous_append.mp tracks.contiguous).1
    fun event member => tracks.sealed event (List.mem_append_left _ member)

/-- The name the pending events will be published under is free. -/
theorem Tracks.name_free {batches : List (List ComponentInstanceBinding)} (tracks : Tracks config writer batches)
    (some_pending : writer.store.pending ≠ []) :
    (config.batchFile writer.store.pending).1 ∉ writer.files.map Prod.fst := by
  intro taken
  rw [tracks.files, List.map_map] at taken
  obtain ⟨batch, member, same⟩ := List.mem_map.mp taken
  have sequences : StoreConfig.sequenceAt batch.head? = StoreConfig.sequenceAt writer.store.pending.head? :=
    StoreConfig.sequenceAt_of_batchName same
  -- the batch starts within the published events, the pending ones follow them all
  obtain ⟨published, pending⟩ := contiguous_append.mp tracks.contiguous
  obtain ⟨front, back, rfl⟩ := List.append_of_mem member
  rw [List.flatten_append, contiguous_append, List.flatten_cons, contiguous_append] at published
  have there := StoreConfig.sequenceAt_head published.2.1 (tracks.nonempty batch member)
  have here := StoreConfig.sequenceAt_head pending some_pending
  have length_pos : 0 < batch.length := List.length_pos_iff.mpr (tracks.nonempty batch member)
  rw [List.flatten_append, List.flatten_cons, List.length_append, List.length_append] at here
  omega

/-- A flush whose I/O succeeds. -/
def flushSteps : List WriterEvent :=
  [.call .flush, .advance .succeeded, .advance .succeeded, .advance .succeeded]

/-- I/O that never fails after a link loses none. -/
theorem along_undisturbed (config : StoreConfig) (writer : Writer) {events : List WriterEvent}
    (undisturbed : ∀ event ∈ events, event ≠ .advance .failedAfter) :
    Along (step config) (fun writer event => ¬LostLink config writer event) writer events := by
  induction events generalizing writer with
  | nil => trivial
  | cons event rest ih =>
    have first : event ≠ .advance .failedAfter := undisturbed event List.mem_cons_self
    exact ⟨fun lost => first lost.1, ih _ fun other member => undisturbed other (List.mem_cons_of_mem _ member)⟩

theorem Tracks.run {batches : List (List ComponentInstanceBinding)} (tracks : Tracks config writer batches)
    {events : List WriterEvent}
    (orderly : Along (Writer.step config) (fun writer event => ¬LostLink config writer event) writer events) :
    ∃ later, Tracks config (Lib.run (Writer.step config) writer events) later ∧
      writer.log batches <+: (Lib.run (Writer.step config) writer events).log later := by
  induction events generalizing writer batches with
  | nil => exact ⟨batches, tracks, List.prefix_refl _⟩
  | cons event rest ih =>
    obtain ⟨middle, middle_tracks, -, grown⟩ := tracks.step (step_effect orderly.1)
    obtain ⟨later, later_tracks, longer⟩ := ih middle_tracks orderly.2
    refine ⟨later, later_tracks, List.IsPrefix.trans ?_ longer⟩
    rcases grown with same | ⟨entry, one_more⟩
    · rw [same]
    · rw [one_more]
      exact List.prefix_append _ _

theorem Tracks.flush {batches : List (List ComponentInstanceBinding)} (tracks : Tracks config writer batches) :
    ∃ later, Tracks config (Lib.run (Writer.step config) writer flushSteps) later ∧
      writer.log batches <+: (Lib.run (Writer.step config) writer flushSteps).log later :=
  tracks.run (along_undisturbed config writer (by simp [flushSteps]))

/-- Between calls, a flush that finds the name of its batch free completes. -/
theorem flush_completes (idle : writer.todo = [])
    (free : writer.store.pending ≠ [] → (config.batchFile writer.store.pending).1 ∉ writer.files.map Prod.fst) :
    let flushed := run (step config) writer flushSteps
    flushed.raised = none ∧ flushed.todo = [] ∧ flushed.store.pending = [] ∧
      flushed.store.current = writer.store.current ∧ flushed.store.sequence = writer.store.sequence := by
  by_cases none_pending : writer.store.pending = []
  · by_cases current : writer.store.publishedSequence = writer.store.sequence <;>
      simp [flushSteps, step, idle, tasks, barrier, perform, publishEvents, publishCurrent, none_pending, current]
  · have name_free := free none_pending
    by_cases current : writer.store.publishedSequence = writer.store.sequence <;>
      simp [flushSteps, step, idle, tasks, barrier, perform, publishEvents, publishCurrent, none_pending, current,
        name_free]

/-- Wherever an orderly run stops, opening a store on the directory succeeds and gives
    the bindings the run had right after the last event it published; the events number
    on from one and the names of the files are in their order. A flush between calls
    completes, and then nothing is lost. -/
theorem recover_after_crash (journal : Journal config) (events : List WriterEvent)
    (undisturbed : ∀ event ∈ events, event ≠ .advance .failedAfter)
    (few : (run (step config) journal.opened events).store.sequence < 10 ^ 12) :
    let stopped := run (step config) journal.opened events
    let published := publishedEvents config stopped.files
    ∃ recovered, config.recover stopped.files = .ok recovered ∧
      published.map bindingSequence = List.range' 1 published.length ∧
      recovered.sequence = published.length ∧
      (∃ taken, taken <+: events ∧ (run (step config) journal.opened taken).store.sequence = recovered.sequence ∧
        (run (step config) journal.opened taken).store.current = recovered.current) ∧
      (stopped.files.map Prod.fst).Pairwise (· < ·) ∧
      (stopped.todo = [] →
        let flushed := run (step config) stopped flushSteps
        flushed.raised = none ∧ flushed.store.current = stopped.store.current ∧
          ∃ whole, config.recover flushed.files = .ok whole ∧ whole.current = stopped.store.current ∧
            whole.sequence = stopped.store.sequence) := by
  intro stopped published
  have orderly := along_undisturbed config journal.opened undisturbed
  obtain ⟨batches, tracks, extends_journal, passed⟩ := tracked_run journal events orderly
  have all : published = batches.flatten := tracks.published
  have inside : journal.events.length ≤ batches.flatten.length := by
    obtain ⟨more, rfl⟩ := extends_journal
    rw [List.flatten_append, List.length_append]
    exact Nat.le_add_right _ _
  have bounded : batches.flatten.length ≤ (stopped.log batches).length := by
    rw [log, List.length_append]
    exact Nat.le_add_right _ _
  refine ⟨(tracks.journal few).store, tracks.recover few, ?_, ?_, ?_, ?_, ?_⟩
  · rw [all]
    exact (contiguous_append.mp tracks.contiguous).1
  · rw [all]
    rfl
  · obtain ⟨taken, within, sequence, current⟩ := passed batches.flatten.length inside bounded
    refine ⟨taken, within, sequence, current.trans ?_⟩
    rw [log, List.take_left]
    rfl
  · have sorted := (tracks.journal few).names_sorted
    rw [show stopped.files = (tracks.journal few).files from tracks.files]
    exact sorted
  · intro idle flushed
    have free := tracks.name_free
    obtain ⟨clean, done, drained, same_current, same_sequence⟩ := flush_completes idle free
    refine ⟨clean, same_current, ?_⟩
    obtain ⟨final, final_tracks, -⟩ := tracks.flush
    have still_few : flushed.store.sequence < 10 ^ 12 := same_sequence ▸ few
    have log_flat : flushed.log final = final.flatten := by rw [log, drained, List.append_nil]
    refine ⟨(final_tracks.journal still_few).store, final_tracks.recover still_few, ?_, ?_⟩
    · rw [← same_current, final_tracks.current]
      exact congrArg replay log_flat.symm
    · rw [← same_sequence, final_tracks.sequence]
      exact congrArg List.length log_flat.symm

/-- Every step adds at most one event. -/
theorem sequence_le (config : StoreConfig) (writer : Writer) (events : List WriterEvent) :
    (run (step config) writer events).store.sequence ≤ writer.store.sequence + events.length := by
  induction events using List.reverseRecOn with
  | nil => simp
  | append_singleton events event ih =>
    rw [run_concat, List.length_append, List.length_singleton]
    have cases_of_step := step_cases config (run (step config) writer events) event
    have grown : ((run (step config) writer events).step config event).store.sequence ≤
        (run (step config) writer events).store.sequence + 1 := by
      rcases cases_of_step with effect | ⟨-, linked⟩
      · cases effect with
        | quiet _ _ sequence _ => omega
        | appended _ _ _ _ _ sequence _ => omega
        | published _ _ _ sequence _ => omega
      · have sequence := linked.sequence
        omega
    omega

/-- A store that publishes every event at once. -/
def soloConfig : StoreConfig where
  identity :=
    { deploymentId := "d", generation := 1
      deploymentPlanHash := "0000000000000000000000000000000000000000000000000000000000000000"
      siteProfileHash := "0000000000000000000000000000000000000000000000000000000000000000"
      allocationBindingHash := "0000000000000000000000000000000000000000000000000000000000000000" }
  eventsDir := "run/component_bindings/events"
  currentPublishBatchSize := 1
  eventPublishBatchSize := 1
  named := by decide
  nonneg := by decide
  plan_digest := by decide +kernel
  site_digest := by decide +kernel
  binding_digest := by decide +kernel
  sizes_positive := by decide

def soloRequest : BindRequest where
  receiptRequirementId := "rank0/node_supervisor"
  componentId := "node_supervisor"
  instanceId := "a"
  ownerScope := .rank
  ownerRank := some 0
  nodeId := "n0"

/-- A binding is appended and published; the process stops before the projection. -/
def soloCrash : List WriterEvent :=
  [.call (.bindReceipt soloRequest (.int 7)), .advance .succeeded, .advance .succeeded, .advance .succeeded]

theorem solo_crash_recovered :
    ∃ recovered, soloConfig.recover (run (step soloConfig) (Journal.empty soloConfig).opened soloCrash).files =
        .ok recovered ∧
      recovered.sequence = (publishedEvents soloConfig
        (run (step soloConfig) (Journal.empty soloConfig).opened soloCrash).files).length := by
  have few := sequence_le soloConfig (Journal.empty soloConfig).opened soloCrash
  have start : (Journal.empty soloConfig).opened.store.sequence = 0 := rfl
  have steps : soloCrash.length = 4 := rfl
  obtain ⟨recovered, opened, -, sequence, -⟩ :=
    recover_after_crash (Journal.empty soloConfig) soloCrash (by simp [soloCrash]) (by omega)
  exact ⟨recovered, opened, sequence⟩

end Writer

end ExaServe.State
