import ExaServe.Lib.Run
import ExaServe.State.StatusRecords

namespace ExaServe.State.Status

open Lib Control

section Calls

variable {σ : Type} [DecidableEq σ] {machine : Machine σ}

/-- What the file holds: nothing, or a legal record. -/
def Holds (machine : Machine σ) (file : Option Json) : Option (StatusRecord σ) → Prop
  | none => file = none
  | some record => Legal machine record ∧ ∃ raw, file = some raw ∧ asdict machine record = some raw

theorem Holds.loads {file : Option Json} {held current : Option (StatusRecord σ)}
    (holds : Holds machine file held) {faults : Faults}
    (loaded : loadFile machine faults file = .ok current) : current = held := by
  cases held with
  | none =>
    rw [show file = none from holds] at loaded
    cases loaded
    rfl
  | some record =>
    obtain ⟨legal, raw, rfl, printed⟩ := holds
    simp only [loadFile] at loaded
    split_ifs at loaded
    rw [load_asdict legal printed] at loaded
    cases loaded
    rfl

/-- The record a call may put in place of what the file holds. -/
def Succeeds (machine : Machine σ) (held : Option (StatusRecord σ)) (record : StatusRecord σ) : Prop :=
  Legal machine record ∧
  match held with
  | none => record.revision = 0 ∧ record.state = machine.initial
  | some old => record.revision = old.revision + 1 ∧
      (record.state = old.state ∨ record.state ∈ machine.transitions old.state)

/-- A call leaves the file and raises, or puts a successor in place; it then returns
    that record unless the directory was not synced or the lease not released. -/
inductive Effect (machine : Machine σ) (file : Option Json) (held : Option (StatusRecord σ)) (faults : Faults) :
    Result σ → Prop
  | unchanged (raised : Raised) : Effect machine file held faults (.raised file raised)
  | published {record : StatusRecord σ} {raw : Json} {outcome : Except Raised (StatusRecord σ)}
      (printed : asdict machine record = some raw) (succeeds : Succeeds machine held record)
      (answered : outcome = .ok record ∨
        (faults.unsynced = true ∨ faults.unreleased = true) ∧ ∃ raised, outcome = .error raised) :
      Effect machine file held faults { file := some raw, published := some record, outcome }

theorem locked_effect {file : Option Json} {held : Option (StatusRecord σ)} (holds : Holds machine file held)
    (faults : Faults) {body : Option (StatusRecord σ) → Except Raised (StatusRecord σ)}
    (succeeds : ∀ record, body held = .ok record → Succeeds machine held record) :
    Effect machine file held faults (locked machine faults file body) := by
  unfold locked
  split_ifs
  · exact .unchanged _
  · split
    · exact .unchanged _
    · rename_i record built
      obtain ⟨current, loaded, made⟩ := bind_ok built
      rw [holds.loads loaded] at made
      unfold publish
      split
      · exact .unchanged _
      · rename_i raw printed
        split_ifs
        · exact .unchanged _
        · exact .published printed (succeeds record made) (.inr ⟨.inl ‹_›, _, rfl⟩)
        · exact .published printed (succeeds record made) (.inr ⟨.inr ‹_›, _, rfl⟩)
        · exact .published printed (succeeds record made) (.inl rfl)

theorem require_ok {ok : Prop} [Decidable ok] {refused : Raised} {done : Unit}
    (passed : require ok refused = .ok done) : ok := by
  unfold require at passed
  split_ifs at passed with holds
  exact holds

theorem laterOf_ge (stored : Number) (now : Reading) :
    Number.value stored ≤ Number.value (laterOf stored now) := by
  unfold laterOf
  split_ifs with newer
  · exact le_of_lt newer
  · exact le_refl _

theorem laterOf_lt {stored : Number} (finite : Number.value stored < floatLimit) (now : Reading) :
    Number.value (laterOf stored now) < floatLimit := by
  unfold laterOf
  split_ifs
  · exact lt_of_le_of_lt (le_abs_self _) now.finite
  · exact finite

theorem reason_nonempty {reasonCode detail : Arg String} {code : String} {text : Option String}
    (passed : validateReasonDetail reasonCode detail = .ok (code, text)) : code ≠ "" := by
  unfold validateReasonDetail at passed
  split at passed
  · split_ifs at passed with empty
    split at passed <;> cases passed <;> exact empty
  · cases passed

/-- The fields `transition` and `update` set of the legal record they loaded. -/
theorem advance_staged {old : StatusRecord σ} (legal : Legal machine old) {state : σ}
    (follows : state = old.state ∨ state ∈ machine.transitions old.state) {reasonCode : String}
    (reasoned : reasonCode ≠ "") (detail : Option String) {dataUpdate : Arg DataDict}
    (valid : validateDataUpdate dataUpdate = .ok ()) (now : Reading) :
    Staged machine old (old.advance state reasonCode detail dataUpdate now) where
  recordId := rfl
  revision := rfl
  later := laterOf_ge _ _
  finite := laterOf_lt legal.finite now
  reasoned := fun same => reasoned (Option.some.inj same)
  provenance := rfl
  data := legal.data.applied dataUpdate
  dropped := dataCounter_applyData valid (by decide)
  omitted := dataCounter_applyData valid (by decide)
  history := rfl
  follows := follows

theorem compare_held {path aba : String} {expected : σ} {expectedRevision : Arg Int}
    {held : Option (StatusRecord σ)} {record : StatusRecord σ}
    (passed : compare_ machine path expected expectedRevision aba held = .ok record) :
    held = some record ∧ record.state = expected := by
  unfold compare_ at passed
  split at passed
  · cases passed
  · rename_i current
    obtain ⟨_, same, rest⟩ := bind_ok passed
    obtain ⟨_, -, done⟩ := bind_ok rest
    cases done
    exact ⟨rfl, require_ok same⟩

theorem initializeBody_succeeds {path : String} {recordId : Arg String} {state : String}
    {provenance data : Arg DataDict} {now : Reading} (after_epoch : 0 ≤ now.value.value) {body : Body σ}
    (checked : initializeBody machine path recordId state provenance data now = .ok body)
    {held : Option (StatusRecord σ)} {record : StatusRecord σ} (built : body held = .ok record) :
    Succeeds machine held record := by
  obtain ⟨name, named, checked⟩ := bind_ok checked
  obtain ⟨source, given, checked⟩ := bind_ok checked
  obtain ⟨_, valid, checked⟩ := bind_ok checked
  obtain ⟨start, -, checked⟩ := bind_ok checked
  obtain ⟨_, initial, checked⟩ := bind_ok checked
  cases checked
  have initial := require_ok initial
  have nonempty : name ≠ "" := by
    unfold recordIdOf at named
    split at named
    · split_ifs at named with empty
      cases named
      exact empty
    · cases named
  have keyed : Keyed source := by
    unfold provenanceOf at given
    split at given
    · cases given
      exact keyed_empty
    · cases given
      intro key printed found
      exact DataDict.keyed _ _ ((Dict.mem_values_iff _ _).mpr ⟨key, found⟩) printed rfl
    · cases given
  cases held with
  | some old => cases built
  | none =>
    cases built
    have counts : ∀ key ∈ internalDataKeys, dataCounter (applyData .empty data) key = .ok 0 := by
      intro key internal
      rw [dataCounter_applyData valid internal]
      rfl
    have finite : now.value.value < floatLimit := lt_of_le_of_lt (le_abs_self _) now.finite
    refine ⟨⟨nonempty, after_epoch, finite, nofun, keyed, keyed_empty.applied data, ?_, ?_, ?_, rfl, ?_, ?_, ?_⟩,
      rfl, initial⟩
    · show 1 ≤ 256
      decide
    · exact ⟨0, 0, counts _ (by decide), counts _ (by decide), rfl, .inl rfl, rfl⟩
    · rw [initial]
      rfl
    · intro event member
      rw [List.mem_singleton] at member
      subst member
      exact ⟨after_epoch, finite, by show "INIT" ≠ ""; decide⟩
    · exact List.pairwise_singleton _ _
    · intro event member
      rw [List.mem_singleton] at member
      subst member
      exact le_refl _

theorem Holds.legal {file : Option Json} {record : StatusRecord σ}
    (holds : Holds machine file (some record)) : Legal machine record := holds.1

theorem transitionBody_succeeds {path : String} {args : TransitionArgs} {now : Reading} {body : Body σ}
    (checked : transitionBody machine path args now = .ok body) {file : Option Json}
    {held : Option (StatusRecord σ)} (holds : Holds machine file held) {record : StatusRecord σ}
    (built : body held = .ok record) : Succeeds machine held record := by
  obtain ⟨expected, -, checked⟩ := bind_ok checked
  obtain ⟨new, -, checked⟩ := bind_ok checked
  obtain ⟨⟨reasonCode, detail⟩, reason, checked⟩ := bind_ok checked
  obtain ⟨_, -, checked⟩ := bind_ok checked
  obtain ⟨_, valid, checked⟩ := bind_ok checked
  obtain ⟨_, -, checked⟩ := bind_ok checked
  obtain ⟨_, edge, checked⟩ := bind_ok checked
  cases checked
  have edge := require_ok edge
  have reasoned := reason_nonempty reason
  obtain ⟨old, compared, rest⟩ := bind_ok built
  obtain ⟨update, -, rest⟩ := bind_ok rest
  obtain ⟨_, commit_valid, rest⟩ := bind_ok rest
  obtain ⟨_, -, appended⟩ := bind_ok rest
  clear built rest
  obtain ⟨rfl, same⟩ := compare_held compared
  have staged := (advance_staged holds.legal (.inr (same ▸ edge)) reasoned detail valid now).committed
    commit_valid
  obtain ⟨result, revision, state⟩ := staged.appended holds.legal reasoned appended
  refine ⟨result, revision, .inr ?_⟩
  rw [state, same]
  exact edge

theorem updateBody_succeeds {path : String} {args : UpdateArgs} {now : Reading} {body : Body σ}
    (checked : updateBody machine path args now = .ok body) {file : Option Json}
    {held : Option (StatusRecord σ)} (holds : Holds machine file held) {record : StatusRecord σ}
    (built : body held = .ok record) : Succeeds machine held record := by
  obtain ⟨recordHistory, -, checked⟩ := bind_ok checked
  obtain ⟨⟨reasonCode, detail⟩, reason, checked⟩ := bind_ok checked
  obtain ⟨_, -, checked⟩ := bind_ok checked
  obtain ⟨_, valid, checked⟩ := bind_ok checked
  obtain ⟨expected, -, checked⟩ := bind_ok checked
  cases checked
  have reasoned := reason_nonempty reason
  obtain ⟨old, compared, appended⟩ := bind_ok built
  clear built
  obtain ⟨rfl, same⟩ := compare_held compared
  have staged := advance_staged holds.legal (.inl same.symm) reasoned detail valid now
  split_ifs at appended
  · obtain ⟨result, revision, state⟩ := staged.appended holds.legal reasoned appended
    exact ⟨result, revision, .inl (state.trans same.symm)⟩
  · obtain ⟨omitted, counted, done⟩ := bind_ok appended
    cases done
    exact ⟨staged.uncounted holds.legal same.symm counted, rfl, .inl same.symm⟩

end Calls

section Run

variable {σ : Type} [DecidableEq σ] (machine : Machine σ) (path : String)

/-- The file and every record that was put there, in order. -/
structure Store (σ : Type) where
  file : Option Json := none
  published : List (StatusRecord σ) := []

def Store.step (store : Store σ) (turn : Turn) : Store σ where
  file := (perform machine path turn store.file).file
  published := store.published ++ (perform machine path turn store.file).published.toList

/-- `initialize` is called with a clock that is not before the epoch. -/
def Turn.AfterEpoch (turn : Turn) : Prop :=
  match turn.call with
  | .initialize_ _ _ _ _ => 0 ≤ turn.now.value.value
  | _ => True

/-- The records of a run: what is stored is read back, legal and last; revisions count
    up from zero, and states follow the table from the initial one. -/
structure Store.Consistent (store : Store σ) : Prop where
  readable : ∀ raw, store.file = some raw → ∃ record, load machine raw = .ok record ∧
    store.published.getLast? = some record ∧ Legal machine record
  revisions : store.published.map StatusRecord.revision = List.range store.published.length
  initial : ∀ first ∈ store.published.head?, first.state = machine.initial
  path : (store.published.map StatusRecord.state).IsChain fun first second =>
    second = first ∨ second ∈ machine.transitions first

/-- A call that returns has put the record it returns in place. One that raises has
    left the file alone, unless the record was in place before the directory could not
    be synced or the lease not released. -/
def Store.Answers (store : Store σ) : Prop :=
  ∀ turn : Turn, turn.AfterEpoch →
    let result := perform machine path turn store.file
    (∀ record, result.outcome = .ok record → result.published = some record) ∧
    ∀ raised, result.outcome = .error raised →
      result.file = store.file ∧ result.published = none ∨
      (turn.faults.unsynced = true ∨ turn.faults.unreleased = true) ∧ result.published.isSome

variable {machine path}

theorem bodyOf_succeeds {turn : Turn} (after_epoch : turn.AfterEpoch) {body : Body σ}
    (checked : bodyOf machine path turn = .ok body) {file : Option Json} {held : Option (StatusRecord σ)}
    (holds : Holds machine file held) {record : StatusRecord σ} (built : body held = .ok record) :
    Succeeds machine held record := by
  unfold bodyOf at checked
  unfold Turn.AfterEpoch at after_epoch
  cases call : turn.call with
  | initialize_ recordId state provenance data =>
    rw [call] at after_epoch checked
    exact initializeBody_succeeds after_epoch checked built
  | transition args =>
    rw [call] at checked
    exact transitionBody_succeeds checked holds built
  | update args =>
    rw [call] at checked
    exact updateBody_succeeds checked holds built

theorem perform_effect {turn : Turn} (after_epoch : turn.AfterEpoch) {file : Option Json}
    {held : Option (StatusRecord σ)} (holds : Holds machine file held) :
    Effect machine file held turn.faults (perform machine path turn file) := by
  unfold perform
  split
  · exact .unchanged _
  · rename_i body checked
    apply locked_effect holds
    intro record built
    exact bodyOf_succeeds after_epoch checked holds built

/-- The invariant of a run. -/
structure Kept (machine : Machine σ) (store : Store σ) : Prop where
  holds : Holds machine store.file store.published.getLast?
  revisions : store.published.map StatusRecord.revision = List.range store.published.length
  initial : ∀ first ∈ store.published.head?, first.state = machine.initial
  path : (store.published.map StatusRecord.state).IsChain fun first second =>
    second = first ∨ second ∈ machine.transitions first

theorem last_revision {store : Store σ} (kept : Kept machine store) {last : StatusRecord σ}
    (found : store.published.getLast? = some last) : last.revision + 1 = store.published.length := by
  have revisions := kept.revisions
  obtain ⟨front, same⟩ := List.getLast?_eq_some_iff.mp found
  rw [same, List.map_append, List.length_append, List.length_singleton, List.range_succ] at revisions
  obtain ⟨-, tail⟩ := List.append_inj' revisions rfl
  have equal : last.revision = front.length := by simpa using tail
  rw [equal, same, List.length_append, List.length_singleton]

/-- What a call leaves behind keeps the invariant. -/
theorem Kept.result {store : Store σ} (kept : Kept machine store) {faults : Faults} {result : Result σ}
    (effect : Effect machine store.file store.published.getLast? faults result) :
    Kept machine { file := result.file, published := store.published ++ result.published.toList } := by
  cases effect with
  | unchanged raised => simpa [Result.raised] using kept
  | @published record raw outcome printed succeeds answered =>
    obtain ⟨legal, follows⟩ := succeeds
    simp only [Option.toList_some]
    have revision : record.revision = store.published.length := by
      cases held : store.published.getLast? with
      | none =>
        rw [held] at follows
        rw [List.getLast?_eq_none_iff.mp held]
        exact follows.1
      | some last =>
        rw [held] at follows
        rw [← last_revision kept held]
        exact follows.1
    refine ⟨?_, ?_, ?_, ?_⟩
    · rw [List.getLast?_concat]
      exact ⟨legal, raw, rfl, printed⟩
    · simp only [List.map_append, List.map_cons, List.map_nil, List.length_append, List.length_singleton,
        List.range_succ]
      rw [kept.revisions, revision]
    · intro first found
      cases shape : store.published with
      | nil =>
        rw [shape] at found follows
        cases found
        exact follows.2
      | cons head rest =>
        rw [shape] at found
        apply kept.initial
        rw [shape]
        exact found
    · rw [List.map_append]
      apply kept.path.append (List.isChain_singleton _)
      intro last found next head
      obtain ⟨old, held, rfl⟩ := Option.map_eq_some_iff.mp (List.getLast?_map ▸ Option.mem_def.mp found)
      cases head
      rw [held] at follows
      exact follows.2

theorem Kept.step {store : Store σ} (kept : Kept machine store) {turn : Turn}
    (after_epoch : turn.AfterEpoch) : Kept machine (store.step machine path turn) :=
  kept.result (perform_effect after_epoch kept.holds)

theorem Kept.consistent {store : Store σ} (kept : Kept machine store) : store.Consistent machine where
  readable := by
    intro raw found
    have holds := kept.holds
    cases held : store.published.getLast? with
    | none =>
      rw [held] at holds
      rw [show store.file = none from holds] at found
      cases found
    | some record =>
      rw [held] at holds
      obtain ⟨legal, other, there, printed⟩ := holds
      cases there.symm.trans found
      exact ⟨record, load_asdict legal printed, rfl, legal⟩
  revisions := kept.revisions
  initial := kept.initial
  path := kept.path

theorem Kept.answers {store : Store σ} (kept : Kept machine store) : store.Answers machine path := by
  intro turn after_epoch
  have effect : Effect machine store.file store.published.getLast? turn.faults
      (perform machine path turn store.file) := perform_effect after_epoch kept.holds
  dsimp only
  generalize perform machine path turn store.file = result at effect
  cases effect with
  | unchanged raised =>
    constructor
    · intro record returned
      cases returned
    · intro _ _
      exact .inl ⟨rfl, rfl⟩
  | published printed succeeds answered =>
    constructor
    · intro record returned
      rcases answered with ok | ⟨-, raised, failed⟩
      · rw [← Except.ok.inj (ok.symm.trans returned)]
      · cases failed.symm.trans returned
    · intro raised failed
      rcases answered with ok | ⟨late, -⟩
      · cases ok.symm.trans failed
      · exact .inr ⟨late, rfl⟩

theorem kept_start : Kept machine ({} : Store σ) where
  holds := rfl
  revisions := rfl
  initial := nofun
  path := List.isChain_nil

/-- In every run of calls, whatever their arguments, clocks and faults, as long as the
    record is created after the epoch. -/
theorem published_records_consistent (turns : List Turn) (after_epoch : ∀ turn ∈ turns, turn.AfterEpoch) :
    Throughout (Store.step machine path) (fun store : Store σ => store.Consistent machine ∧
      store.Answers machine path) {} turns := by
  have kept : Throughout (Store.step machine path) (Kept machine) {} turns := by
    intro taken within
    induction taken using List.reverseRecOn with
    | nil => exact kept_start
    | append_singleton front turn ih =>
      rw [run_concat]
      apply (ih ((List.prefix_append _ _).trans within)).step
      exact after_epoch turn (within.subset (by simp))
  intro taken within
  exact ⟨(kept taken within).consistent, (kept taken within).answers⟩

end Run

section Runs

def secondsAfter : Reading := ⟨⟨['5', '.', '0'], by decide⟩, by decide +kernel⟩

def secondsEarlier : Reading := ⟨⟨['3', '.', '0'], by decide⟩, by decide +kernel⟩

def beforeEpoch : Reading := ⟨⟨['-', '5', '.', '0'], by decide⟩, by decide +kernel⟩

def created (now : Reading) (faults : Faults) : Turn :=
  { call := .initialize_ (.value "serve-1") "PLANNED" .null .null, now, faults }

def unsyncedDirectory : Faults := { unsynced := true }

/-- The clock steps back after the record was made. -/
def clockStepsBack : List Turn :=
  [created secondsAfter {},
    { call := .transition { expected := "PLANNED", new := "STAGING", reasonCode := .value "START" },
      now := secondsEarlier },
    { call := .update { expected := "STAGING", reasonCode := .value "TICK", recordHistory := .value false },
      now := beforeEpoch }]

theorem clock_steps_back :
    (∀ turn ∈ clockStepsBack, turn.AfterEpoch) ∧
    Throughout (Store.step Machine.deployment "status.json")
      (fun store => store.Consistent Machine.deployment ∧ store.Answers Machine.deployment "status.json") {}
      clockStepsBack ∧
    (run (Store.step Machine.deployment "status.json") {} clockStepsBack).published.map
      (fun record => (record.state, record.revision)) = [(.planned, 0), (.staging, 1), (.staging, 2)] := by
  have after_epoch : ∀ turn ∈ clockStepsBack, turn.AfterEpoch := by
    intro turn member
    simp only [clockStepsBack, List.mem_cons, List.not_mem_nil, or_false] at member
    rcases member with rfl | rfl | rfl
    · show 0 ≤ secondsAfter.value.value
      decide +kernel
    · trivial
    · trivial
  exact ⟨after_epoch, published_records_consistent clockStepsBack after_epoch, by decide +kernel⟩

/-- A record made before the epoch is not read back; one in place before its directory
    could not be synced stays although the call raises. -/
theorem raises_after_publication :
    ((Store.step Machine.deployment "status.json" {} (created beforeEpoch {})).file.map fun raw =>
      (load Machine.deployment raw).isOk) = some false ∧
    (perform Machine.deployment "status.json" (created secondsAfter unsyncedDirectory) none).outcome.isOk = false ∧
    (perform Machine.deployment "status.json" (created secondsAfter unsyncedDirectory) none).file.isSome = true :=
  ⟨by decide +kernel, by decide +kernel, by decide +kernel⟩

end Runs

end ExaServe.State.Status
