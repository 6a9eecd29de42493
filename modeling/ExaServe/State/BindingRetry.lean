import ExaServe.State.BindingReplay

namespace ExaServe.State

open Lib Plan Control Compat ComponentInstanceBinding

namespace StoreConfig

variable {config : StoreConfig}

theorem applyRecovered_contiguous {path : String} {store later : BindingStore} {events : List ComponentInstanceBinding}
    (applied : config.applyRecovered path store events = .ok later) :
    Contiguous (store.sequence + 1) events ∧ later.sequence = store.sequence + events.length := by
  induction events generalizing store with
  | nil =>
    cases applied
    exact ⟨contiguous_nil _, rfl⟩
  | cons event rest ih =>
    obtain ⟨_, _, applied⟩ := bind_ok applied
    split_ifs at applied with gap
    have here := not_not.mp gap
    obtain ⟨following, length⟩ := ih applied
    rw [here] at following length
    have shift : store.sequence + 1 + rest.length = store.sequence + (rest.length + 1) := by omega
    exact ⟨contiguous_cons.mpr ⟨here, following⟩, length.trans shift⟩

/-- Files that are recovered hold events without gap or overlap. -/
theorem recoverFiles_contiguous {files : List (String × Json)} {store later : BindingStore}
    (named : ∀ file ∈ files, ".json".toList.isSuffixOf file.1.toList = true)
    (recovered : config.recoverFiles store files = .ok later) :
    Contiguous (store.sequence + 1) (Writer.publishedEvents config files) := by
  induction files generalizing store with
  | nil => exact contiguous_nil _
  | cons file rest ih =>
    have json := named file List.mem_cons_self
    rw [recoverFiles, if_neg (by rw [json]; decide)] at recovered
    obtain ⟨events, decoded, recovered⟩ := bind_ok recovered
    obtain ⟨middle, applied, recovered⟩ := bind_ok recovered
    obtain ⟨first, length⟩ := applyRecovered_contiguous applied
    have following := ih (fun other member => named other (List.mem_cons_of_mem _ member)) recovered
    have split : Writer.publishedEvents config (file :: rest) = events ++ Writer.publishedEvents config rest := by
      simp only [Writer.publishedEvents, List.flatMap_cons, decoded]
      rfl
    have shift : store.sequence + events.length + 1 = store.sequence + 1 + events.length := by omega
    rw [length, shift] at following
    rw [split]
    exact contiguous_append.mpr ⟨first, following⟩

/-- A directory that is recovered holds no event twice. -/
theorem recover_nodup {files : List (String × Json)} {store : BindingStore}
    (named : ∀ file ∈ files, ".json".toList.isSuffixOf file.1.toList = true)
    (recovered : config.recover files = .ok store) :
    ((Writer.publishedEvents config files).map bindingSequence).Nodup := by
  have sorted := Json.sortFields_perm files
  unfold recover at recovered
  cases replayed : config.recoverFiles {} (Json.sortFields files) with
  | error failure =>
    rw [replayed] at recovered
    cases recovered
  | ok later =>
    have contiguous := recoverFiles_contiguous (fun file member => named file (sorted.mem_iff.mp member)) replayed
    have same : (Writer.publishedEvents config (Json.sortFields files)).Perm (Writer.publishedEvents config files) :=
      sorted.flatMap_right _
    rw [← (same.map bindingSequence).nodup_iff, contiguous]
    exact List.nodup_range'

end StoreConfig

namespace Writer

variable {config : StoreConfig} {writer after : Writer} {batches : List (List ComponentInstanceBinding)}

/-- The directory holds the files of batches, whatever their order or overlap. -/
structure Holds (config : StoreConfig) (writer : Writer) (batches : List (List ComponentInstanceBinding)) :
    Prop where
  files : writer.files = batches.map config.batchFile
  nonempty : ∀ batch ∈ batches, batch ≠ []
  contiguous : ∀ batch ∈ batches, ∃ first, Contiguous first batch
  sealed : ∀ event ∈ batches.flatten, Sealed config event
  pending_contiguous : Contiguous (writer.store.sequence + 1 - writer.store.pending.length) writer.store.pending
  pending_length : writer.store.pending.length ≤ writer.store.sequence
  pending_sealed : ∀ event ∈ writer.store.pending, Sealed config event

theorem holds_opened (journal : Journal config) : Holds config journal.opened journal.batches where
  files := rfl
  nonempty := journal.nonempty
  contiguous := by
    intro batch member
    obtain ⟨front, back, split⟩ := List.append_of_mem member
    have all := journal.contiguous
    rw [split, List.flatten_append, List.flatten_cons, contiguous_append, contiguous_append] at all
    exact ⟨_, all.2.1⟩
  sealed := journal.sealed
  pending_contiguous := contiguous_nil _
  pending_length := Nat.zero_le _
  pending_sealed := by simp [Journal.opened, Journal.store]

/-- The batches after a step: the pending events are added where they are linked. -/
theorem Holds.step (holds : Holds config writer batches) (event : WriterEvent) :
    ∃ later, Holds config (writer.step config event) later ∧
      ((later = batches ∧ writer.store.pending <+: (writer.step config event).store.pending) ∨
        (later = batches ++ [writer.store.pending] ∧ (writer.step config event).store.pending = []) ∨
        (later = batches ++ [writer.store.pending] ∧ writer.store.pending ≠ [] ∧
          (writer.step config event).store.pending = writer.store.pending)) := by
  have extended (some_pending : writer.store.pending ≠ []) :
      (∀ batch ∈ batches ++ [writer.store.pending], batch ≠ []) ∧
        (∀ batch ∈ batches ++ [writer.store.pending], ∃ first, Contiguous first batch) ∧
        ∀ event ∈ (batches ++ [writer.store.pending]).flatten, Sealed config event := by
    refine ⟨?_, ?_, ?_⟩
    · intro batch member
      rcases List.mem_append.mp member with earlier | last
      · exact holds.nonempty batch earlier
      · rw [List.mem_singleton.mp last]
        exact some_pending
    · intro batch member
      rcases List.mem_append.mp member with earlier | last
      · exact holds.contiguous batch earlier
      · rw [List.mem_singleton.mp last]
        exact ⟨_, holds.pending_contiguous⟩
    · intro event member
      rw [List.flatten_append, List.mem_append] at member
      rcases member with earlier | last
      · exact holds.sealed event earlier
      · exact holds.pending_sealed event (by simpa using last)
  rcases step_cases config writer event with effect | ⟨-, linked⟩
  · cases effect with
    | quiet files current sequence pending =>
      refine ⟨batches, ?_, .inl ⟨rfl, by rw [pending]⟩⟩
      exact ⟨files.trans holds.files, holds.nonempty, holds.contiguous, holds.sealed,
        by rw [pending, sequence]; exact holds.pending_contiguous,
        by rw [pending, sequence]; exact holds.pending_length, by rw [pending]; exact holds.pending_sealed⟩
    | appended entry closed next files current sequence pending =>
      have bound := holds.pending_length
      refine ⟨batches, ⟨files.trans holds.files, holds.nonempty, holds.contiguous, holds.sealed, ?_, ?_, ?_⟩,
        .inl ⟨rfl, by rw [pending]; exact List.prefix_append _ _⟩⟩
      · have shift : writer.store.sequence + 1 + 1 - (writer.store.pending.length + 1) =
            writer.store.sequence + 1 - writer.store.pending.length := by omega
        rw [pending, sequence, List.length_append, List.length_singleton, shift, contiguous_append]
        refine ⟨holds.pending_contiguous, contiguous_cons.mpr ⟨?_, contiguous_nil _⟩⟩
        omega
      · rw [pending, sequence, List.length_append, List.length_singleton]
        omega
      · intro other member
        rw [pending] at member
        rcases List.mem_append.mp member with earlier | last
        · exact holds.pending_sealed other earlier
        · rw [List.mem_singleton.mp last]
          exact closed
    | published some_pending files current sequence pending =>
      obtain ⟨nonempty, contiguous, sealed⟩ := extended some_pending
      refine ⟨batches ++ [writer.store.pending], ⟨by rw [files, holds.files, List.map_append]; rfl, nonempty,
        contiguous, sealed, ?_, ?_, ?_⟩, .inr (.inl ⟨rfl, pending⟩)⟩
      · rw [pending]
        exact contiguous_nil _
      · rw [pending]
        exact Nat.zero_le _
      · rw [pending]
        simp
  · obtain ⟨nonempty, contiguous, sealed⟩ := extended linked.some_pending
    refine ⟨batches ++ [writer.store.pending], ⟨by rw [linked.files, holds.files, List.map_append]; rfl, nonempty,
      contiguous, sealed, ?_, ?_, ?_⟩, .inr (.inr ⟨rfl, linked.some_pending, linked.pending⟩)⟩
    · rw [linked.pending, linked.sequence]
      exact holds.pending_contiguous
    · rw [linked.pending, linked.sequence]
      exact holds.pending_length
    · rw [linked.pending]
      exact holds.pending_sealed

theorem Holds.published (holds : Holds config writer batches) :
    publishedEvents config writer.files = batches.flatten := by
  have decoded : ∀ batch ∈ batches,
      ((config.decodeFile (config.path (config.batchFile batch).1) (config.batchFile batch).2).toOption).getD [] =
        batch := by
    intro batch member
    obtain ⟨first, contiguous⟩ := holds.contiguous batch member
    have inside : ∀ event ∈ batch, Sealed config event :=
      fun event there => holds.sealed event (List.mem_flatten.mpr ⟨batch, member, there⟩)
    rw [StoreConfig.decodeFile_batch _ (holds.nonempty batch member) contiguous inside]
    rfl
  rw [publishedEvents, holds.files, List.flatMap_map, List.flatMap_def, List.map_congr_left decoded, List.map_id']

/-- Some event is in the directory twice, or in the directory and pending. -/
def Doubled (writer : Writer) (batches : List (List ComponentInstanceBinding)) : Prop :=
  ¬(batches.flatten.map bindingSequence).Nodup ∨
    ∃ batch ∈ batches, ∃ event, batch.head? = some event ∧ writer.store.pending.head? = some event

theorem not_nodup_append {left right : List (List ComponentInstanceBinding)} {event : ComponentInstanceBinding}
    (inLeft : event ∈ left.flatten) (inRight : event ∈ right.flatten) :
    ¬((left ++ right).flatten.map bindingSequence).Nodup := by
  intro nodup
  rw [List.flatten_append, List.map_append, List.nodup_append] at nodup
  exact nodup.2.2 _ (List.mem_map_of_mem inLeft) _ (List.mem_map_of_mem inRight) rfl

theorem mem_of_head? {events : List ComponentInstanceBinding} {event : ComponentInstanceBinding}
    (head : events.head? = some event) : event ∈ events := List.mem_of_mem_head? head

/-- Once doubled, nothing mends it. -/
theorem Doubled.step (doubled : Doubled writer batches) (holds : Holds config writer batches)
    (event : WriterEvent) :
    ∃ later, Holds config (writer.step config event) later ∧ Doubled (writer.step config event) later := by
  obtain ⟨later, after_holds, change⟩ := holds.step event
  refine ⟨later, after_holds, ?_⟩
  rcases doubled with repeated | ⟨batch, member, first, head, pending_head⟩
  · left
    intro nodup
    rcases change with ⟨rfl, -⟩ | ⟨rfl, -⟩ | ⟨rfl, -⟩
    · exact repeated nodup
    · rw [List.flatten_append, List.map_append, List.nodup_append] at nodup
      exact repeated nodup.1
    · rw [List.flatten_append, List.map_append, List.nodup_append] at nodup
      exact repeated nodup.1
  · have published : first ∈ batches.flatten := List.mem_flatten.mpr ⟨batch, member, mem_of_head? head⟩
    have waiting : first ∈ [writer.store.pending].flatten := by simpa using mem_of_head? pending_head
    rcases change with ⟨rfl, more, grown⟩ | ⟨rfl, -⟩ | ⟨rfl, -⟩
    · right
      refine ⟨batch, member, first, head, ?_⟩
      rw [← grown, List.head?_append, pending_head]
      rfl
    · left
      exact not_nodup_append published waiting
    · left
      exact not_nodup_append published waiting

theorem Doubled.run {events : List WriterEvent} (doubled : Doubled writer batches)
    (holds : Holds config writer batches) :
    ∃ later, Holds config (Lib.run (Writer.step config) writer events) later ∧
      Doubled (Lib.run (Writer.step config) writer events) later := by
  induction events generalizing writer batches with
  | nil => exact ⟨batches, holds, doubled⟩
  | cons event rest ih =>
    obtain ⟨later, after_holds, after_doubled⟩ := doubled.step holds event
    exact ih after_doubled after_holds

/-- A lost link leaves its events in the directory and pending. -/
theorem Holds.lost {event : WriterEvent} (holds : Holds config writer batches)
    (lost : LostLink config writer event) :
    ∃ later, Holds config (writer.step config event) later ∧ Doubled (writer.step config event) later := by
  obtain ⟨later, after_holds, change⟩ := holds.step event
  obtain ⟨rfl, due, some_pending, free⟩ := lost
  have result : (writer.step config (.advance .failedAfter)).store.pending = writer.store.pending ∧
      (writer.step config (.advance .failedAfter)).files =
        writer.files ++ [config.batchFile writer.store.pending] := by
    obtain ⟨rest, todo⟩ : ∃ rest, writer.todo = .publishEvents :: rest := by
      cases todo : writer.todo with
      | nil => simp [todo] at due
      | cons task rest =>
        rw [todo] at due
        cases due
        exact ⟨rest, rfl⟩
    simp [Writer.step, todo, perform, publishEvents, some_pending, free, raise]
  refine ⟨later, after_holds, ?_⟩
  obtain ⟨first, front⟩ : ∃ first, writer.store.pending.head? = some first :=
    Option.isSome_iff_exists.mp (by simpa [List.isSome_head?] using some_pending)
  rcases change with ⟨rfl, -⟩ | ⟨rfl, drained⟩ | ⟨rfl, -, kept⟩
  · have lengths := congrArg List.length (after_holds.files.symm.trans result.2)
    rw [← holds.files, List.length_append, List.length_singleton] at lengths
    omega
  · rw [drained] at result
    exact absurd result.1.symm some_pending
  · right
    exact ⟨writer.store.pending, by simp, first, front, by rw [kept]; exact front⟩

/-- A flush whose I/O succeeds completes, every event that was pending is then in the
    directory exactly once, and a new store opens with the same bindings. -/
def Retries (config : StoreConfig) (writer : Writer) : Prop :=
  let flushed := Lib.run (step config) writer flushSteps
  flushed.raised = none ∧
    (∀ event ∈ writer.store.pending, (publishedEvents config flushed.files).count event = 1) ∧
    ∃ recovered, config.recover flushed.files = .ok recovered ∧ recovered.current = writer.store.current

theorem flush_blocked (idle : writer.todo = []) (some_pending : writer.store.pending ≠ [])
    (taken : (config.batchFile writer.store.pending).1 ∈ writer.files.map Prod.fst) :
    (Lib.run (step config) writer flushSteps).raised ≠ none := by
  simp [flushSteps, step, idle, tasks, barrier, perform, publishEvents, some_pending, List.mem_map.mp taken, raise]

theorem Doubled.not_retries (idle : writer.todo = []) (doubled : Doubled writer batches)
    (holds : Holds config writer batches) : ¬Retries config writer := by
  intro ⟨clean, _, recovered, opened, _⟩
  obtain ⟨later, after_holds, after_doubled⟩ := doubled.run holds
  have named : ∀ file ∈ (Lib.run (Writer.step config) writer flushSteps).files,
      ".json".toList.isSuffixOf file.1.toList = true := by
    intro file member
    rw [after_holds.files] at member
    obtain ⟨batch, -, rfl⟩ := List.mem_map.mp member
    exact StoreConfig.batchName_json config batch
  have nodup := StoreConfig.recover_nodup named opened
  rw [after_holds.published] at nodup
  have drained : (Lib.run (Writer.step config) writer flushSteps).store.pending = [] := by
    by_cases free : writer.store.pending ≠ [] →
        (config.batchFile writer.store.pending).1 ∉ writer.files.map Prod.fst
    · exact (flush_completes idle free).2.2.1
    · push Not at free
      exact absurd clean (flush_blocked idle free.1 free.2)
  rcases after_doubled with repeated | ⟨_, _, first, _, pending_head⟩
  · exact repeated nodup
  · rw [drained] at pending_head
    cases pending_head

theorem Tracks.retries (tracks : Tracks config writer batches) (idle : writer.todo = [])
    (few : writer.store.sequence < 10 ^ 12) : Retries config writer := by
  obtain ⟨clean, -, drained, same_current, same_sequence⟩ := flush_completes idle tracks.name_free
  obtain ⟨final, final_tracks, longer⟩ := tracks.flush
  have still_few : (Lib.run (Writer.step config) writer flushSteps).store.sequence < 10 ^ 12 :=
    same_sequence ▸ few
  have flat : (Lib.run (Writer.step config) writer flushSteps).log final = final.flatten := by
    rw [log, drained, List.append_nil]
  refine ⟨clean, ?_, (final_tracks.journal still_few).store, final_tracks.recover still_few, ?_⟩
  · intro event member
    have in_log : event ∈ final.flatten := by
      rw [← flat]
      exact longer.subset (List.mem_append_right _ member)
    have nodup : (final.flatten.map bindingSequence).Nodup := by
      rw [(contiguous_append.mp final_tracks.contiguous).1]
      exact List.nodup_range'
    rw [final_tracks.published]
    exact List.count_eq_one_of_mem nodup.of_map in_log
  · rw [← same_current, final_tracks.current]
    exact congrArg replay flat.symm

theorem holds_run (journal : Journal config) (events : List WriterEvent) :
    ∃ batches, Holds config (Lib.run (step config) journal.opened events) batches := by
  induction events using List.reverseRecOn with
  | nil => exact ⟨journal.batches, holds_opened journal⟩
  | append_singleton events event ih =>
    obtain ⟨batches, holds⟩ := ih
    obtain ⟨later, after_holds, -⟩ := holds.step event
    rw [run_concat]
    exact ⟨later, after_holds⟩

/-- A run that loses a link ends doubled. -/
theorem doubled_of_lost (journal : Journal config) (events : List WriterEvent)
    (disorderly : ¬Along (step config) (fun writer event => ¬LostLink config writer event) journal.opened events) :
    ∃ batches, Holds config (Lib.run (step config) journal.opened events) batches ∧
      Doubled (Lib.run (step config) journal.opened events) batches := by
  induction events using List.reverseRecOn with
  | nil => exact absurd trivial disorderly
  | append_singleton events event ih =>
    rw [along_concat] at disorderly
    rw [run_concat]
    by_cases earlier : Along (step config) (fun writer event => ¬LostLink config writer event) journal.opened events
    · have lost : LostLink config (Lib.run (step config) journal.opened events) event := by
        by_contra kept
        exact disorderly ⟨earlier, kept⟩
      obtain ⟨batches, holds⟩ := holds_run journal events
      exact holds.lost lost
    · obtain ⟨batches, holds, doubled⟩ := ih earlier
      exact doubled.step holds event

/-- Between calls the pending events can be published by a retry exactly if no step of
    the run has linked a batch and then failed. -/
theorem retries_iff_no_lost_link (journal : Journal config) (events : List WriterEvent)
    (idle : (Lib.run (step config) journal.opened events).todo = [])
    (few : (Lib.run (step config) journal.opened events).store.sequence < 10 ^ 12) :
    Retries config (Lib.run (step config) journal.opened events) ↔
      Along (step config) (fun writer event => ¬LostLink config writer event) journal.opened events := by
  constructor
  · intro retries
    by_contra disorderly
    obtain ⟨batches, holds, doubled⟩ := doubled_of_lost journal events disorderly
    exact doubled.not_retries idle holds retries
  · intro orderly
    obtain ⟨batches, tracks, -⟩ := tracked_run journal events orderly
    exact tracks.retries idle few

/-- The event of the first binding of the solo store. -/
def soloEntry : ComponentInstanceBinding := activated soloConfig {} soloRequest (.int 7) none

theorem soloEntry_valid : soloEntry.Valid where
  deployment := by decide
  slot := by decide
  component := by decide
  instance_named := by decide
  node := by decide
  plan_digest := soloConfig.plan_digest
  site_digest := soloConfig.site_digest
  binding_digest := soloConfig.binding_digest
  own_digest := .inl rfl
  generation := by decide
  bound_at := by simp only [soloEntry, activated, numberInRange]; decide +kernel
  owner := ⟨0, rfl, le_refl 0⟩
  supersedes := by simp [soloEntry, activated]

/-- The solo store has appended its first event and is about to publish it. -/
theorem solo_appended :
    run (step soloConfig) (Journal.empty soloConfig).opened
        [.call (.bindReceipt soloRequest (.int 7)), .advance .succeeded] =
      { (Journal.empty soloConfig).opened with
        store := appended {} soloEntry.finalize, todo := [.acquireLease, .publishEvents, .publishCurrent] } := by
  have own : soloEntry.identity = soloConfig.identity := rfl
  have called : step soloConfig (Journal.empty soloConfig).opened (.call (.bindReceipt soloRequest (.int 7))) =
      { (Journal.empty soloConfig).opened with todo := [.activate soloRequest (.int 7) none] } := rfl
  have due : dueTasks soloConfig (appended {} soloEntry.finalize) = [.acquireLease, .publishEvents, .publishCurrent] :=
    rfl
  have advanced : step soloConfig { (Journal.empty soloConfig).opened with
      todo := [.activate soloRequest (.int 7) none] } (.advance .succeeded) =
      ({ (Journal.empty soloConfig).opened with store := {}, todo := [] } : Writer).appendBuilt soloConfig
        soloEntry.rebuilt := rfl
  rw [run_cons, run_cons, run_nil, called, advanced, appendBuilt_valid soloEntry_valid own, due]
  rfl

/-- The writer's lease is not free when the first event is to be published. -/
def soloRefused : List WriterEvent :=
  [WriterEvent.call (.bindReceipt soloRequest (.int 7)), .advance .succeeded] ++ [WriterEvent.advance .failedBefore]

theorem solo_refused_retries :
    (run (step soloConfig) (Journal.empty soloConfig).opened soloRefused).todo = [] ∧
      Retries soloConfig (run (step soloConfig) (Journal.empty soloConfig).opened soloRefused) := by
  have idle : (run (step soloConfig) (Journal.empty soloConfig).opened soloRefused).todo = [] := by
    rw [soloRefused, run_append, solo_appended]
    rfl
  have few := sequence_le soloConfig (Journal.empty soloConfig).opened soloRefused
  have start : (Journal.empty soloConfig).opened.store.sequence = 0 := rfl
  have steps : soloRefused.length = 3 := rfl
  have undisturbed : ∀ event ∈ soloRefused, event ≠ .advance .failedAfter := by simp [soloRefused]
  exact ⟨idle, (retries_iff_no_lost_link (Journal.empty soloConfig) soloRefused idle (by omega)).mpr
    (along_undisturbed soloConfig _ undisturbed)⟩

/-- The first event is linked, then the directory sync fails. -/
def soloLost : List WriterEvent :=
  [WriterEvent.call (.bindReceipt soloRequest (.int 7)), .advance .succeeded] ++
    [WriterEvent.advance .succeeded, .advance .failedAfter]

/-- The link is lost, and no flush completes from there on. -/
theorem solo_lost_never_retries :
    (run (step soloConfig) (Journal.empty soloConfig).opened soloLost).todo = [] ∧
      ¬Retries soloConfig (run (step soloConfig) (Journal.empty soloConfig).opened soloLost) := by
  have idle : (run (step soloConfig) (Journal.empty soloConfig).opened soloLost).todo = [] := by
    rw [soloLost, run_append, solo_appended]
    simp [step, perform, publishEvents, appended, Journal.opened, Journal.files, Journal.empty, raise]
  refine ⟨idle, ?_⟩
  obtain ⟨batches, holds, doubled⟩ := doubled_of_lost (Journal.empty soloConfig) soloLost (by
    rw [soloLost, along_append, solo_appended]
    rintro ⟨_, _, kept, _⟩
    apply kept
    refine ⟨rfl, rfl, by simp [step, perform, appended], ?_⟩
    simp [step, perform, Journal.opened, Journal.files, Journal.empty])
  exact doubled.not_retries idle holds

end Writer

end ExaServe.State
