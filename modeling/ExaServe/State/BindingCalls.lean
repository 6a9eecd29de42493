import ExaServe.State.BindingReplay

namespace ExaServe.State

open Lib Plan Control Compat ComponentInstanceBinding

/-- What a validated receipt gives `bind_receipt`. -/
structure BindRequest.Formed (request : BindRequest) : Prop where
  slot : request.receiptRequirementId ≠ ""
  component : request.componentId ≠ ""
  instance_named : request.instanceId ≠ ""
  node : request.nodeId ≠ ""
  owner : match request.ownerScope with
    | .global => request.ownerRank = none
    | .rank => ∃ rank, request.ownerRank = some rank ∧ 0 ≤ rank

namespace Writer

variable {config : StoreConfig} {writer : Writer} {batches : List (List ComponentInstanceBinding)}

def advanced (config : StoreConfig) (count : Nat) (writer : Writer) : Writer :=
  run (step config) writer (List.replicate count (.advance .succeeded))

/-- A call whose I/O succeeds, to its end: two events at most, each with a barrier of
    three steps. -/
def completed (config : StoreConfig) (writer : Writer) (call : BindingCall) : Writer :=
  advanced config 8 (writer.step config (.call call))

theorem advanced_add (first second : Nat) (writer : Writer) :
    advanced config (first + second) writer = advanced config second (advanced config first writer) := by
  simp only [advanced, List.replicate_add, run_append]

theorem advanced_one (writer : Writer) : advanced config 1 writer = writer.step config (.advance .succeeded) := rfl

theorem advanced_idle (idle : writer.todo = []) (count : Nat) : advanced config count writer = writer := by
  induction count with
  | zero => rfl
  | succ count ih =>
    have still : advanced config 1 writer = writer := by
      rw [advanced_one, step, idle]
    rw [Nat.add_comm, advanced_add, still, ih]

/-- A writer that has come to an end within the given number of steps stays there. -/
theorem advanced_of_le {count bound : Nat} (within : count ≤ bound)
    (idle : (advanced config count writer).todo = []) :
    advanced config bound writer = advanced config count writer := by
  obtain ⟨more, rfl⟩ := Nat.exists_eq_add_of_le within
  rw [advanced_add, advanced_idle idle]

theorem Tracks.advanced (tracks : Tracks config writer batches) (count : Nat) :
    ∃ later, Tracks config (advanced config count writer) later := by
  have orderly : Along (Writer.step config) (fun writer event => ¬LostLink config writer event) writer
      (List.replicate count (.advance .succeeded)) := by
    apply along_undisturbed
    intro event member
    rw [List.eq_of_mem_replicate member]
    simp
  obtain ⟨later, tracked, -⟩ := tracks.run orderly
  exact ⟨later, tracked⟩

/-- What is due after an event is published without a failure, and memory keeps its
    bindings. -/
theorem due_published (tracks : Tracks config writer batches) (clean : writer.raised = none)
    {rest : List StoreTask} (due : writer.todo = dueTasks config writer.store ++ rest) :
    ∃ count ≤ 3, (advanced config count writer).todo = rest ∧ (advanced config count writer).raised = none ∧
      (advanced config count writer).store.current = writer.store.current ∧
      (advanced config count writer).store.sequence = writer.store.sequence := by
  have free := tracks.name_free
  unfold dueTasks at due
  simp only at due
  split_ifs at due with full
  · cases projected : decide (config.currentPublishBatchSize ≤ writer.store.sequence - writer.store.publishedSequence)
    · rw [projected] at due
      refine ⟨2, by decide, ?_⟩
      by_cases none_pending : writer.store.pending = []
      · simp [advanced, step, due, barrier, perform, publishEvents, none_pending, clean]
      · simp [advanced, step, due, barrier, perform, publishEvents, none_pending, free none_pending, clean]
    · rw [projected] at due
      refine ⟨3, by decide, ?_⟩
      by_cases none_pending : writer.store.pending = []
      · by_cases current : writer.store.publishedSequence = writer.store.sequence <;>
          simp [advanced, step, due, barrier, perform, publishEvents, publishCurrent, none_pending, current, clean]
      · by_cases current : writer.store.publishedSequence = writer.store.sequence <;>
          simp [advanced, step, due, barrier, perform, publishEvents, publishCurrent, none_pending,
            free none_pending, current, clean]
  · refine ⟨0, by decide, ?_⟩
    exact ⟨by simpa [advanced] using due, clean, rfl, rfl⟩

/-- Every current binding stands under its own slot and is one the store appended. -/
theorem replay_entries {events : List ComponentInstanceBinding} (sealed : ∀ event ∈ events, Sealed config event)
    {slot : String} {held : ComponentInstanceBinding} (found : (replay events).get? slot = some held) :
    held.receiptRequirementId = slot ∧ Sealed config held := by
  induction events using List.reverseRecOn with
  | nil => simp [replay] at found
  | append_singleton events event ih =>
    have earlier := ih fun other member => sealed other (List.mem_append_left _ member)
    have replayed : replay (events ++ [event]) = applyEvent (replay events) event := by
      rw [replay, List.foldl_append]
      rfl
    rw [replayed] at found
    unfold applyEvent at found
    split at found
    · rw [Dict.get?_insert] at found
      split_ifs at found with here
      · cases found
        exact ⟨here, sealed held (List.mem_append_right _ (List.mem_singleton.mpr rfl))⟩
      · exact earlier found
    · split_ifs at found
      · rw [Dict.get?_erase] at found
        split_ifs at found
        exact earlier found
      · exact earlier found

/-- A store between calls whose last call has returned, with memory and directory in step. -/
structure Ready (config : StoreConfig) (writer : Writer) : Prop where
  idle : writer.todo = []
  clean : writer.raised = none
  tracked : ∃ batches, Tracks config writer batches

/-- The instance that is bound to a slot. -/
def boundInstance (writer : Writer) (slot : String) : Option String :=
  (writer.store.current.get? slot).map instanceId

theorem Ready.entry (ready : Ready config writer) {slot : String} {held : ComponentInstanceBinding}
    (found : writer.store.current.get? slot = some held) :
    held.receiptRequirementId = slot ∧ Sealed config held := by
  obtain ⟨batches, tracks⟩ := ready.tracked
  rw [tracks.current] at found
  exact replay_entries tracks.sealed found

/-- Appending a valid event and publishing what is due: four steps at most. -/
theorem append_completes (tracks : Tracks config writer batches) (clean : writer.raised = none)
    {task : StoreTask} {rest : List StoreTask} (due : writer.todo = task :: rest)
    {entry : ComponentInstanceBinding} (valid : entry.Valid) (own : entry.identity = config.identity)
    (performed : ({ writer with todo := rest } : Writer).perform config .succeeded task =
      ({ writer with todo := rest } : Writer).appendBuilt config entry.rebuilt) :
    ∃ count ≤ 4, (advanced config count writer).todo = rest ∧ (advanced config count writer).raised = none ∧
      (advanced config count writer).store.current = applyEvent writer.store.current entry.finalize ∧
      (advanced config count writer).store.sequence = entry.bindingSequence := by
  have first : advanced config 1 writer =
      { writer with
        store := appended writer.store entry.finalize
        todo := dueTasks config (appended writer.store entry.finalize) ++ rest } := by
    rw [advanced_one, step, due]
    exact performed.trans (appendBuilt_valid valid own)
  obtain ⟨later, tracked⟩ := tracks.advanced 1
  rw [first] at tracked
  obtain ⟨count, within, todo, raised, current, sequence⟩ := due_published tracked clean rfl
  refine ⟨1 + count, by omega, ?_⟩
  rw [advanced_add, first]
  exact ⟨todo, raised, current, sequence⟩

theorem retired_valid {held : ComponentInstanceBinding} (closed : Sealed config held) (store : BindingStore)
    (state : BindingState) : (retired store state held).Valid :=
  { closed.valid with own_digest := .inl rfl }

theorem activated_valid {request : BindRequest} {now : Number} {supersedes : Option String}
    (formed : request.Formed) (read : numberInRange now) (store : BindingStore)
    (other : ∀ named, supersedes = some named → named ≠ "" ∧ named ≠ request.instanceId) :
    (activated config store request now supersedes).Valid where
  deployment := config.named
  slot := formed.slot
  component := formed.component
  instance_named := formed.instance_named
  node := formed.node
  plan_digest := config.plan_digest
  site_digest := config.site_digest
  binding_digest := config.binding_digest
  own_digest := .inl rfl
  generation := config.nonneg
  bound_at := read
  owner := formed.owner
  supersedes := other

/-- The event that ends a binding removes it from its slot. -/
theorem applyEvent_retired {held : ComponentInstanceBinding} {slot : String} {store : BindingStore}
    {state : BindingState} (ended : state ≠ .active) (found : store.current.get? slot = some held)
    (keyed : held.receiptRequirementId = slot) :
    applyEvent store.current (retired store state held).finalize = store.current.erase slot := by
  subst keyed
  cases state with
  | active => exact absurd rfl ended
  | superseded => simp [applyEvent, retired, finalize, key, found]
  | revoked => simp [applyEvent, retired, finalize, key, found]

/-- Ending a current binding takes four steps at most. -/
theorem retire_completes (tracks : Tracks config writer batches) (clean : writer.raised = none) {slot : String}
    {state : BindingState} {held : ComponentInstanceBinding} {rest : List StoreTask} (ended : state ≠ .active)
    (due : writer.todo = .retire slot state :: rest) (found : writer.store.current.get? slot = some held) :
    ∃ count ≤ 4, (advanced config count writer).todo = rest ∧ (advanced config count writer).raised = none ∧
      (advanced config count writer).store.current = writer.store.current.erase slot := by
  obtain ⟨keyed, closed⟩ := replay_entries tracks.sealed (tracks.current ▸ found)
  have performed : ({ writer with todo := rest } : Writer).perform config .succeeded (.retire slot state) =
      ({ writer with todo := rest } : Writer).appendBuilt config (retired writer.store state held).rebuilt := by
    simp only [perform, found]
  obtain ⟨count, within, todo, raised, current, -⟩ :=
    append_completes tracks clean due (retired_valid closed _ _) closed.identity performed
  exact ⟨count, within, todo, raised, current.trans (applyEvent_retired ended found keyed)⟩

/-- Binding a formed request takes four steps at most. -/
theorem activate_completes (tracks : Tracks config writer batches) (clean : writer.raised = none)
    {request : BindRequest} {now : Number} {supersedes : Option String} {rest : List StoreTask}
    (due : writer.todo = .activate request now supersedes :: rest) (formed : request.Formed)
    (read : numberInRange now)
    (other : ∀ named, supersedes = some named → named ≠ "" ∧ named ≠ request.instanceId) :
    ∃ count ≤ 4, (advanced config count writer).todo = rest ∧ (advanced config count writer).raised = none ∧
      ∃ entry : ComponentInstanceBinding, entry.instanceId = request.instanceId ∧
        (advanced config count writer).store.current =
          writer.store.current.insert request.receiptRequirementId entry := by
  have performed : ({ writer with todo := rest } : Writer).perform config .succeeded (.activate request now supersedes) =
      ({ writer with todo := rest } : Writer).appendBuilt config
        (activated config writer.store request now supersedes).rebuilt := rfl
  obtain ⟨count, within, todo, raised, current, -⟩ :=
    append_completes tracks clean due (activated_valid formed read _ other) rfl performed
  exact ⟨count, within, todo, raised, (activated config writer.store request now supersedes).finalize, rfl, current⟩

theorem step_call (idle : writer.todo = []) (call : BindingCall) :
    writer.step config (.call call) = { writer with todo := tasks writer.store call, raised := none } := by
  rw [step, idle]

theorem Ready.called (ready : Ready config writer) (call : BindingCall) :
    ∃ batches, Tracks config { writer with todo := tasks writer.store call, raised := none } batches := by
  obtain ⟨batches, tracks⟩ := ready.tracked
  have kept : ¬LostLink config writer (.call call) := fun lost => by cases lost.1
  obtain ⟨later, called, -⟩ := tracks.step (step_effect kept)
  rw [step_call ready.idle] at called
  exact ⟨later, called⟩

/-- A call that comes to its end within the steps it is given leaves the store ready. -/
theorem Ready.of_advanced (ready : Ready config writer) {call : BindingCall} {count : Nat} {after : Writer}
    (within : count ≤ 8)
    (reached : advanced config count { writer with todo := tasks writer.store call, raised := none } = after)
    (idle : after.todo = []) (clean : after.raised = none) :
    completed config writer call = after ∧ Ready config after := by
  obtain ⟨batches, called⟩ := ready.called call
  obtain ⟨later, tracked⟩ := called.advanced count
  rw [reached] at tracked
  refine ⟨?_, idle, clean, later, tracked⟩
  rw [completed, step_call ready.idle, ← reached]
  exact advanced_of_le within (reached ▸ idle)

/-- `revoke_slot` returns and leaves the slot empty. -/
theorem Ready.revokeSlot (ready : Ready config writer) (slot : String) :
    Ready config (completed config writer (.revokeSlot slot)) ∧
      ∀ probe, (completed config writer (.revokeSlot slot)).boundInstance probe =
        if probe = slot then none else writer.boundInstance probe := by
  cases found : writer.store.current.get? slot with
  | none =>
    have reached : advanced config 0 { writer with todo := tasks writer.store (.revokeSlot slot), raised := none } =
        writer := by
      simp only [advanced, List.replicate_zero, run_nil, tasks, found, Option.isSome_none, Bool.false_eq_true, if_false,
        ← ready.idle, ← ready.clean]
    obtain ⟨same, after_ready⟩ := ready.of_advanced (Nat.zero_le 8) reached ready.idle ready.clean
    rw [same]
    refine ⟨after_ready, ?_⟩
    intro probe
    split_ifs with here
    · rw [boundInstance, here, found]
      rfl
    · rfl
  | some held =>
    have todo : tasks writer.store (.revokeSlot slot) = [.retire slot .revoked] := by simp [tasks, found]
    obtain ⟨batches, called⟩ := ready.called (.revokeSlot slot)
    obtain ⟨count, within, idle, clean, current⟩ := retire_completes called rfl (by decide) todo found
    obtain ⟨same, after_ready⟩ := ready.of_advanced (by omega) rfl idle clean
    rw [same]
    refine ⟨after_ready, ?_⟩
    intro probe
    rw [boundInstance, current, Dict.get?_erase]
    split_ifs
    · rfl
    · rfl

/-- `bind_receipt` returns and leaves the receipt's instance in its slot. -/
theorem Ready.bindReceipt (ready : Ready config writer) {request : BindRequest} {now : Number}
    (formed : request.Formed) (read : numberInRange now) :
    Ready config (completed config writer (.bindReceipt request now)) ∧
      ∀ probe, (completed config writer (.bindReceipt request now)).boundInstance probe =
        if probe = request.receiptRequirementId then some request.instanceId else writer.boundInstance probe := by
  obtain ⟨batches, called⟩ := ready.called (.bindReceipt request now)
  cases found : writer.store.current.get? request.receiptRequirementId with
  | none =>
    have todo : tasks writer.store (.bindReceipt request now) = [.activate request now none] := by
      simp [tasks, found]
    obtain ⟨count, within, idle, clean, entry, named, current⟩ :=
      activate_completes called rfl todo formed read (by simp)
    obtain ⟨same, after_ready⟩ := ready.of_advanced (by omega) rfl idle clean
    rw [same]
    refine ⟨after_ready, ?_⟩
    intro probe
    rw [boundInstance, current, Dict.get?_insert]
    by_cases here : probe = request.receiptRequirementId
    · simp [here, named]
    · simp [here, Ne.symm here, boundInstance]
  | some held =>
    by_cases repeated : held.instanceId = request.instanceId
    · have reached : advanced config 0
          { writer with todo := tasks writer.store (.bindReceipt request now), raised := none } = writer := by
        simp only [advanced, List.replicate_zero, run_nil, tasks, found, repeated, if_true, ← ready.idle,
          ← ready.clean]
      obtain ⟨same, after_ready⟩ := ready.of_advanced (Nat.zero_le 8) reached ready.idle ready.clean
      rw [same]
      refine ⟨after_ready, ?_⟩
      intro probe
      split_ifs with here
      · rw [boundInstance, here, found, Option.map_some, repeated]
      · rfl
    · -- the old binding ends first, then the new one starts
      have todo : tasks writer.store (.bindReceipt request now) =
          [.retire request.receiptRequirementId .superseded, .activate request now (some held.instanceId)] := by
        simp [tasks, found, repeated]
      obtain ⟨first, first_within, middle_todo, middle_clean, ended⟩ :=
        retire_completes called rfl (by decide) todo found
      obtain ⟨middle, middle_tracks⟩ := called.advanced first
      have other : ∀ named, some held.instanceId = some named → named ≠ "" ∧ named ≠ request.instanceId := by
        intro named same
        cases same
        exact ⟨(ready.entry found).2.valid.instance_named, repeated⟩
      obtain ⟨second, second_within, idle, clean, entry, named, current⟩ :=
        activate_completes middle_tracks middle_clean middle_todo formed read other
      have within : first + second ≤ 8 := by omega
      obtain ⟨same, after_ready⟩ := ready.of_advanced within (advanced_add first second _) idle clean
      rw [same]
      refine ⟨after_ready, ?_⟩
      intro probe
      rw [boundInstance, current, Dict.get?_insert, ended, Dict.get?_erase]
      by_cases here : probe = request.receiptRequirementId
      · simp [here, named]
      · simp [here, Ne.symm here, boundInstance]

theorem ready_opened (config : StoreConfig) : Ready config (Journal.empty config).opened :=
  ⟨rfl, rfl, [], tracks_opened (Journal.empty config)⟩

end Writer

end ExaServe.State
