import Mathlib.Data.List.Chain
import Mathlib.Data.List.Induction
import Mathlib.Tactic.Linarith
import ExaServe.State.Status

namespace ExaServe.State.Status

open Lib Control

theorem printEntries_eq (entries : List (String × PyValue)) (fields : List (String × Json)) :
    printEntries entries = some fields ↔ entries = fields.map fun field => (field.1, some field.2) := by
  induction entries generalizing fields with
  | nil => cases fields <;> simp [printEntries]
  | cons entry rest ih =>
    obtain ⟨key, value⟩ := entry
    cases value with
    | none => cases fields <;> simp [printEntries]
    | some printed =>
      rw [printEntries, Option.map_eq_some_iff]
      cases fields with
      | nil => simp
      | cons field others =>
        rw [List.map_cons, List.cons.injEq, ← ih others]
        constructor
        · rintro ⟨tail, done, same⟩
          cases same
          exact ⟨rfl, done⟩
        · rintro ⟨same, done⟩
          cases same
          exact ⟨others, done, rfl⟩

theorem printDict_eq {dict : PyDict} {raw : Json} : printDict dict = some raw ↔
    ∃ fields, raw = .obj fields ∧ dict.entries = fields.map fun field => (field.1, some field.2) := by
  unfold printDict
  rw [Option.map_eq_some_iff]
  constructor
  · rintro ⟨fields, printed, rfl⟩
    exact ⟨fields, rfl, (printEntries_eq _ _).mp printed⟩
  · rintro ⟨fields, rfl, same⟩
    exact ⟨fields, (printEntries_eq _ _).mpr same, rfl⟩

theorem toDict_entries {fields : List (String × Json)} (distinct : (fields.map Prod.fst).Nodup) :
    (toDict fields).entries = fields.map fun field => (field.1, some field.2) := by
  unfold toDict
  induction fields using List.reverseRecOn with
  | nil => rfl
  | append_singleton rest field ih =>
    rw [List.map_append, List.nodup_append] at distinct
    obtain ⟨front, -, apart⟩ := distinct
    have before := ih front
    rw [List.foldl_append, List.foldl_cons, List.foldl_nil, Dict.entries_insert_fresh, before]
    · simp
    · intro member
      unfold Dict.keys at member
      rw [before, List.map_map] at member
      exact apart field.1 member field.1 (by simp) rfl

theorem toDict_printed {dict : PyDict} {fields : List (String × Json)}
    (printed : dict.entries = fields.map fun field => (field.1, some field.2)) : toDict fields = dict := by
  apply Dict.ext
  rw [toDict_entries, printed]
  have names : fields.map Prod.fst = dict.entries.map Prod.fst := by
    rw [printed, List.map_map]
    rfl
  rw [names]
  exact dict.nodup

theorem lookup_printed {fields : List (String × Json)} (key : String) :
    findEntry key (fields.map fun field => (field.1, some field.2)) = (Json.lookup key fields).map some := by
  induction fields with
  | nil => rfl
  | cons field rest ih =>
    simp only [List.map_cons, findEntry, Json.lookup]
    split_ifs
    · rfl
    · exact ih

theorem counter_printed {dict : PyDict} {fields : List (String × Json)}
    (printed : dict.entries = fields.map fun field => (field.1, some field.2)) (key : String) :
    counter fields key = dataCounter dict key := by
  unfold counter dataCounter Dict.get?
  rw [printed, lookup_printed]
  cases Json.lookup key fields with
  | none => rfl
  | some value => cases value <;> first | rfl | (rename_i n; cases n <;> rfl)

/-- What prints of the dictionary repeats no key. -/
def Keyed (dict : PyDict) : Prop :=
  ∀ key printed, dict.get? key = some (some printed) → printed.wellKeyed = true

theorem Keyed.fields {dict : PyDict} (keyed : Keyed dict) {raw : Json} (printed : printDict dict = some raw) :
    ∃ fields, raw = .obj fields ∧ dict.entries = fields.map (fun field => (field.1, some field.2)) ∧
      (Json.obj fields).wellKeyed = true := by
  obtain ⟨fields, rfl, same⟩ := printDict_eq.mp printed
  refine ⟨fields, rfl, same, ?_⟩
  have names : Json.fieldNames fields = dict.entries.map Prod.fst := by
    rw [same, List.map_map]
    rfl
  simp only [Json.wellKeyed, Bool.and_eq_true, decide_eq_true_eq, Json.wellKeyedFields_iff]
  refine ⟨names ▸ dict.nodup, ?_⟩
  intro field member
  apply keyed field.1
  apply (Dict.get?_eq_some_iff _ _ _).mpr
  rw [same]
  exact List.mem_map.mpr ⟨field, member, rfl⟩

theorem keyed_empty : Keyed .empty := by
  intro key printed found
  cases found

theorem Keyed.insert {dict : PyDict} (keyed : Keyed dict) (key : String) (count : Nat) :
    Keyed (dict.insert key (some (.int count))) := by
  intro probe printed found
  rw [Dict.get?_insert] at found
  split_ifs at found
  · cases found
    rfl
  · exact keyed probe printed found

theorem get?_updateDict (dict update : PyDict) (key : String) :
    (updateDict dict update).get? key = (update.get? key).or (dict.get? key) :=
  Dict.get?_foldl_insert_entries update.nodup dict key

theorem Keyed.applied {dict : PyDict} (keyed : Keyed dict) (update : Arg DataDict) :
    Keyed (applyData dict update) := by
  cases update with
  | null => exact keyed
  | other => exact keyed
  | value update =>
    intro key printed found
    unfold applyData at found
    rw [get?_updateDict] at found
    cases given : update.dict.get? key with
    | none =>
      rw [given] at found
      exact keyed key printed found
    | some value =>
      rw [given] at found
      cases found
      exact update.keyed _ ((Dict.mem_values_iff _ _).mpr ⟨key, given⟩) printed rfl

/-- The caller's data leaves the counters of the history alone. -/
theorem dataCounter_applyData {dict : PyDict} {update : Arg DataDict}
    (valid : validateDataUpdate update = .ok ()) {key : String} (internal : key ∈ internalDataKeys) :
    dataCounter (applyData dict update) key = dataCounter dict key := by
  cases update with
  | null => rfl
  | other => rfl
  | value update =>
    have absent : update.dict.get? key = none := by
      rw [Dict.get?_eq_none_iff]
      intro member
      simp only [validateDataUpdate, require] at valid
      split_ifs at valid with free
      exact List.filter_eq_nil_iff.mp free key internal (by simpa using member)
    unfold dataCounter applyData
    rw [get?_updateDict, absent]
    rfl

theorem dataCounter_insert (dict : PyDict) (key : String) (count : Nat) :
    dataCounter (dict.insert key (some (.int count))) key = .ok count := by
  unfold dataCounter
  rw [Dict.get?_insert_self]

theorem dataCounter_insert_ne (dict : PyDict) {key other : String} (count : Nat) (apart : key ≠ other) :
    dataCounter (dict.insert key (some (.int count))) other = dataCounter dict other := by
  unfold dataCounter
  rw [Dict.get?_insert_ne dict _ apart]

section Records

variable {σ : Type} (machine : Machine σ)

theorem ofValue_value (state : σ) : machine.ofValue (machine.value state) = some state := by
  unfold Machine.ofValue
  cases found : machine.states.find? fun other => machine.value other = machine.value state with
  | none =>
    have absent := List.find?_eq_none.mp found state (machine.listed state)
    simp at absent
  | some other =>
    have same : machine.value other = machine.value state := by simpa using List.find?_some found
    rw [machine.distinct same]

/-- An event as it may stand in a stored history. -/
structure Event.Sound (event : Event σ) : Prop where
  after_epoch : 0 ≤ Number.value event.at_
  finite : Number.value event.at_ < floatLimit
  reasoned : event.reasonCode ≠ ""

variable {machine}

theorem finiteNumber_toJson {number : Number} (after_epoch : 0 ≤ Number.value number)
    (finite : Number.value number < floatLimit) (refused : Raised) :
    finiteNumber number.toJson refused = .ok number := by
  have small : ¬ floatLimit ≤ |Number.value number| := by
    rw [abs_of_nonneg after_epoch]
    exact not_le.mpr finite
  cases number with
  | int value => exact if_neg small
  | float value => exact if_neg small

theorem loadEvent_eventFields {event : Event σ} (sound : event.Sound) (index : Nat) {previousAt : ℚ}
    (later : previousAt ≤ Number.value event.at_) :
    loadEvent machine index previousAt (eventFields machine event) = .ok event := by
  have stamp := finiteNumber_toJson sound.after_epoch sound.finite
  simp [loadEvent, eventFields, Json.sameNames, Json.fieldNames, Json.lookup, loadState, ofValue_value,
    stamp, not_lt.mpr later, sound.reasoned, Bind.bind, Except.bind]

theorem loadEvents_map {events : List (Event σ)} (sound : ∀ event ∈ events, event.Sound) (index : Nat)
    {previousAt : ℚ} (later : ∀ event ∈ events, previousAt ≤ Number.value event.at_)
    (ordered : events.Pairwise fun first second => Number.value first.at_ ≤ Number.value second.at_) :
    loadEvents machine index previousAt (events.map (eventFields machine)) = .ok events := by
  induction events generalizing index previousAt with
  | nil => rfl
  | cons event rest ih =>
    obtain ⟨first, others⟩ := List.pairwise_cons.mp ordered
    have head : loadEvent machine index previousAt (eventFields machine event) = .ok event :=
      loadEvent_eventFields (sound event List.mem_cons_self) index (later event List.mem_cons_self)
    have tail := ih (fun other member => sound other (List.mem_cons_of_mem _ member)) (index + 1) first others
    rw [List.map_cons, loadEvents, head]
    show (loadEvents machine (index + 1) _ _ >>= fun events => _) = _
    rw [tail]
    rfl

/-- One state of a history follows another: it is the same or the table has the edge. -/
def Follows (machine : Machine σ) (first second : Event σ) : Prop :=
  second.state = first.state ∨ second.state ∈ machine.transitions first.state

theorem chain_trimmed {first second : Event σ} {rest : List (Event σ)} {event : Event σ} {dropped : Nat}
    (edges : (if 0 < dropped then second :: rest else first :: second :: rest).IsChain (Follows machine))
    (ends : ∀ last ∈ (first :: second :: rest).getLast?, Follows machine last event) (long : rest ≠ []) :
    (rest ++ [event]).IsChain (Follows machine) := by
  have tail : rest.IsChain (Follows machine) := by
    split_ifs at edges
    · exact edges.tail
    · exact edges.tail.tail
  apply List.isChain_append.mpr
  refine ⟨tail, List.isChain_singleton _, ?_⟩
  intro last found other head
  simp only [List.head?_cons, Option.mem_def, Option.some.injEq] at head
  subst head
  apply ends
  obtain ⟨third, others, rfl⟩ := List.exists_cons_of_ne_nil long
  simpa using found

/-- A record under construction: what `transition` and `update` have changed of the
    legal one they loaded before the history is touched. -/
structure Staged (machine : Machine σ) (old record : StatusRecord σ) : Prop where
  recordId : record.recordId = old.recordId
  revision : record.revision = old.revision + 1
  later : Number.value old.updatedAt ≤ Number.value record.updatedAt
  finite : Number.value record.updatedAt < floatLimit
  reasoned : record.reasonCode ≠ some ""
  provenance : record.provenance = old.provenance
  data : Keyed record.data
  dropped : dataCounter record.data historyDroppedKey = dataCounter old.data historyDroppedKey
  omitted : dataCounter record.data historyOmittedKey = dataCounter old.data historyOmittedKey
  history : record.history = old.history
  follows : record.state = old.state ∨ record.state ∈ machine.transitions old.state

theorem Staged.committed {old record : StatusRecord σ} (staged : Staged machine old record)
    {update : Arg DataDict} (valid : validateDataUpdate update = .ok ()) :
    Staged machine old { record with data := applyData record.data update } :=
  { staged with
    data := staged.data.applied update
    dropped := (dataCounter_applyData valid (by decide)).trans staged.dropped
    omitted := (dataCounter_applyData valid (by decide)).trans staged.omitted }

variable [DecidableEq σ]

/-- What every stored record is. -/
structure Legal (machine : Machine σ) (record : StatusRecord σ) : Prop where
  named : record.recordId ≠ ""
  after_epoch : 0 ≤ Number.value record.updatedAt
  finite : Number.value record.updatedAt < floatLimit
  reasoned : record.reasonCode ≠ some ""
  provenance : Keyed record.provenance
  data : Keyed record.data
  bounded : record.history.length ≤ maxStatusHistoryEvents
  accounted : ∃ dropped omitted, dataCounter record.data historyDroppedKey = .ok dropped ∧
    dataCounter record.data historyOmittedKey = .ok omitted ∧
    record.history.length + dropped + omitted = record.revision + 1 ∧
    (dropped = 0 ∨ record.history.length = maxStatusHistoryEvents) ∧
    checkEdges machine (decide (0 < dropped)) record.history = .ok ()
  opened : (record.history.head?.map fun event => (event.state, event.reasonCode)) =
    some (machine.initial, "INIT")
  closed : record.history.getLast?.map Event.state = some record.state
  events : ∀ event ∈ record.history, event.Sound
  ordered : record.history.Pairwise fun first second => Number.value first.at_ ≤ Number.value second.at_
  latest : ∀ event ∈ record.history, Number.value event.at_ ≤ Number.value record.updatedAt

theorem loadHistory_map {record : StatusRecord σ} (legal : Legal machine record)
    {data : List (String × Json)}
    (printed : record.data.entries = data.map fun field => (field.1, some field.2)) :
    loadHistory machine record.revision record.state data
      (.arr (record.history.map (eventFields machine))) = .ok record.history := by
  obtain ⟨dropped, omitted, drop_count, omit_count, total, window, edges⟩ := legal.accounted
  have nonempty : record.history ≠ [] := by
    intro empty
    have opened := legal.opened
    rw [empty] at opened
    cases opened
  have within : record.history.length ≤ record.revision + 1 := by omega
  have events : loadEvents machine 0 (-1) (record.history.map (eventFields machine)) = .ok record.history :=
    loadEvents_map legal.events 0 (fun event member => by
      have after_epoch := (legal.events event member).after_epoch
      linarith) legal.ordered
  simp [loadHistory, require, nonempty, within, legal.bounded, counter_printed printed, drop_count,
    omit_count, total, window, events, legal.opened, edges, legal.closed, Bind.bind, Except.bind]

/-- A legal record that prints is read back as it was. -/
theorem load_asdict {record : StatusRecord σ} (legal : Legal machine record) {raw : Json}
    (printed : asdict machine record = some raw) : load machine raw = .ok record := by
  obtain ⟨provenance_raw, shown, rest⟩ := Option.bind_eq_some_iff.mp printed
  obtain ⟨data_raw, data_shown, done⟩ := Option.bind_eq_some_iff.mp rest
  obtain ⟨provenance, rfl, provenance_entries, provenance_keyed⟩ := legal.provenance.fields shown
  obtain ⟨data, rfl, data_entries, data_keyed⟩ := legal.data.fields data_shown
  cases done
  have history := loadHistory_map legal data_entries
  have number : record.updatedAt.toJson.wellKeyed = true := by cases record.updatedAt <;> rfl
  have reason : (textJson record.reasonCode).wellKeyed = true := by cases record.reasonCode <;> rfl
  have detail : (textJson record.detail).wellKeyed = true := by cases record.detail <;> rfl
  have events : Json.wellKeyedItems (record.history.map (eventFields machine)) = true := by
    apply (Json.wellKeyedItems_iff _).mpr
    intro item member
    obtain ⟨event, -, rfl⟩ := List.mem_map.mp member
    have stamp : event.at_.toJson.wellKeyed = true := by cases event.at_ <;> rfl
    simp [eventFields, Json.wellKeyed, Json.fieldNames, Json.wellKeyedFields, stamp]
  have reason_read : optionalText "reason_code" (textJson record.reasonCode) = .ok record.reasonCode := by
    cases record.reasonCode <;> rfl
  have detail_read : optionalText "detail" (textJson record.detail) = .ok record.detail := by
    cases record.detail <;> rfl
  have keyed : (Json.obj (recordFields machine record (.obj provenance) (.obj data))).wellKeyed = true := by
    simp [Json.wellKeyed, recordFields, Json.fieldNames, Json.wellKeyedFields, number, reason, detail,
      events] at provenance_keyed data_keyed ⊢
    exact ⟨provenance_keyed, data_keyed⟩
  have names : Json.sameNames (recordFields machine record (.obj provenance) (.obj data)) fieldNames = true := by
    simp [Json.sameNames, recordFields, Json.fieldNames, fieldNames]
  have stamp := finiteNumber_toJson legal.after_epoch legal.finite
  have proven : toDict provenance = record.provenance := toDict_printed provenance_entries
  have kept : toDict data = record.data := toDict_printed data_entries
  unfold load
  rw [keyed, if_neg (by simp)]
  dsimp only
  rw [if_pos names]
  simp [loadFields, recordFields, Json.lookup, schemaVersion, loadSchema, loadKind, require, loadRecordId,
    legal.named, loadState, ofValue_value, loadRevision, stamp, legal.after_epoch, reason_read, detail_read,
    legal.reasoned, object?, history, proven, kept, Bind.bind, Except.bind]

theorem checkEdges_iff (skip : Bool) (history : List (Event σ)) :
    checkEdges machine skip history = .ok () ↔
      (if skip then history.tail else history).IsChain (Follows machine) := by
  induction history generalizing skip with
  | nil => cases skip <;> simp [checkEdges]
  | cons first rest ih =>
    cases rest with
    | nil => cases skip <;> simp [checkEdges]
    | cons second rest =>
      have later := ih false
      simp only [Bool.false_eq_true, if_false] at later
      rw [checkEdges]
      cases skip with
      | true => simpa using later
      | false =>
        simp only [Bool.false_eq_true, false_or, if_false, List.isChain_cons_cons]
        split_ifs with follows
        · rw [later]
          exact ⟨fun chain => ⟨follows, chain⟩, fun both => both.2⟩
        · constructor
          · intro impossible
            cases impossible
          · intro both
            exact absurd both.1 follows

def newEvent (record : StatusRecord σ) (reasonCode : String) : Event σ :=
  { state := record.state, at_ := record.updatedAt, reasonCode }

theorem Staged.ends {old record : StatusRecord σ} (legal : Legal machine old)
    (staged : Staged machine old record) (reasonCode : String) :
    ∀ last ∈ old.history.getLast?, Follows machine last (newEvent record reasonCode) := by
  intro last found
  have closed := legal.closed
  rw [Option.mem_def.mp found] at closed
  have same : last.state = old.state := Option.some.inj closed
  unfold Follows
  rw [same]
  exact staged.follows

/-- The record with an event after the part of the history that is kept. -/
theorem Staged.extended {old record : StatusRecord σ} (legal : Legal machine old)
    (staged : Staged machine old record) {reasonCode : String} (reasoned : reasonCode ≠ "")
    {kept : List (Event σ)} (sub : kept.Sublist old.history) (opened : kept.head? = old.history.head?)
    {data : PyDict} (keyed : Keyed data) {dropped omitted : Nat}
    (drop_count : dataCounter data historyDroppedKey = .ok dropped)
    (omit_count : dataCounter data historyOmittedKey = .ok omitted)
    (total : kept.length + 1 + dropped + omitted = record.revision + 1)
    (window : dropped = 0 ∨ kept.length + 1 = maxStatusHistoryEvents)
    (bounded : kept.length + 1 ≤ maxStatusHistoryEvents)
    (edges : (if 0 < dropped then (kept ++ [newEvent record reasonCode]).tail
      else kept ++ [newEvent record reasonCode]).IsChain (Follows machine)) :
    Legal machine { record with history := kept ++ [newEvent record reasonCode], data } where
  named := by
    show record.recordId ≠ ""
    rw [staged.recordId]
    exact legal.named
  after_epoch := legal.after_epoch.trans staged.later
  finite := staged.finite
  reasoned := staged.reasoned
  provenance := by
    show Keyed record.provenance
    rw [staged.provenance]
    exact legal.provenance
  data := keyed
  bounded := by simpa using bounded
  accounted := by
    refine ⟨dropped, omitted, drop_count, omit_count, by simpa using total, by simpa using window, ?_⟩
    rw [checkEdges_iff]
    simpa using edges
  opened := by
    have first := legal.opened
    rw [← opened] at first
    cases kept with
    | nil => cases first
    | cons event rest => exact first
  closed := by simp [newEvent]
  events := by
    intro event member
    rcases List.mem_append.mp member with before | new
    · exact legal.events event (sub.subset before)
    · rw [List.mem_singleton] at new
      subst new
      exact ⟨legal.after_epoch.trans staged.later, staged.finite, reasoned⟩
  ordered := by
    apply List.pairwise_append.mpr
    refine ⟨legal.ordered.sublist sub, List.pairwise_singleton _ _, ?_⟩
    intro event member new last
    rw [List.mem_singleton] at last
    subst last
    exact (legal.latest event (sub.subset member)).trans staged.later
  latest := by
    intro event member
    rcases List.mem_append.mp member with before | new
    · exact (legal.latest event (sub.subset before)).trans staged.later
    · rw [List.mem_singleton] at new
      subst new
      exact le_refl _

theorem Staged.appended {old record : StatusRecord σ} (legal : Legal machine old)
    (staged : Staged machine old record) {reasonCode : String} (reasoned : reasonCode ≠ "")
    {result : StatusRecord σ} (done : appendHistory record (newEvent record reasonCode) = .ok result) :
    Legal machine result ∧ result.revision = old.revision + 1 ∧ result.state = record.state := by
  obtain ⟨dropped, omitted, drop_count, omit_count, total, window, edges⟩ := legal.accounted
  simp only [checkEdges_iff, decide_eq_true_eq] at edges
  have ends := staged.ends legal reasonCode
  have revision := staged.revision
  unfold appendHistory at done
  rw [staged.history, staged.dropped, drop_count] at done
  split_ifs at done with full
  · cases done
    have exact_length : old.history.length = maxStatusHistoryEvents := le_antisymm legal.bounded full
    have apart : historyDroppedKey ≠ historyOmittedKey := by decide
    refine ⟨?_, revision, rfl⟩
    -- the window is full: the event after the first one goes
    obtain ⟨first, second, rest, shape, long⟩ : ∃ first second rest,
        old.history = first :: second :: rest ∧ rest ≠ [] := by
      match history : old.history, exact_length with
      | first :: second :: third :: rest, _ => exact ⟨first, second, third :: rest, rfl, nofun⟩
    have count : rest.length + 2 = maxStatusHistoryEvents := by
      rw [← exact_length, shape]
      rfl
    rw [shape] at edges ends
    apply staged.extended legal reasoned (List.eraseIdx_sublist _ _)
    · rw [shape]
      rfl
    · exact staged.data.insert _ _
    · exact dataCounter_insert _ _ _
    · rw [dataCounter_insert_ne _ _ apart, staged.omitted]
      exact omit_count
    · rw [shape] at total ⊢
      simp only [List.length_cons, List.eraseIdx_cons_succ, List.eraseIdx_cons_zero] at total ⊢
      omega
    · right
      rw [shape]
      simp only [List.length_cons, List.eraseIdx_cons_succ, List.eraseIdx_cons_zero]
      omega
    · rw [shape]
      simp only [List.length_cons, List.eraseIdx_cons_succ, List.eraseIdx_cons_zero]
      omega
    · rw [if_pos (Nat.succ_pos _), shape]
      exact chain_trimmed edges ends long
  · cases done
    have undropped : dropped = 0 := by
      rcases window with none_ | all
      · exact none_
      · omega
    subst undropped
    refine ⟨?_, revision, rfl⟩
    apply staged.extended legal reasoned (List.Sublist.refl _) rfl staged.data
      (staged.dropped.trans drop_count) (staged.omitted.trans omit_count)
    · omega
    · exact .inl rfl
    · omega
    · rw [if_neg (lt_irrefl 0)] at edges ⊢
      apply List.isChain_append.mpr
      refine ⟨edges, List.isChain_singleton _, ?_⟩
      intro last found other head
      simp only [List.head?_cons, Option.mem_def, Option.some.injEq] at head
      subst head
      exact ends last found

/-- An update that leaves the history as it is and counts the event it omits. -/
theorem Staged.uncounted {old record : StatusRecord σ} (legal : Legal machine old)
    (staged : Staged machine old record) (same : record.state = old.state) {omitted : Nat}
    (omit_count : dataCounter record.data historyOmittedKey = .ok omitted) : Legal machine { record with
      data := record.data.insert historyOmittedKey (some (.int (omitted + 1 : Nat))) } := by
  obtain ⟨dropped, counted, drop_count, known, total, window, edges⟩ := legal.accounted
  rw [staged.omitted, known] at omit_count
  have equal : counted = omitted := Except.ok.inj omit_count
  subst equal
  have apart : historyOmittedKey ≠ historyDroppedKey := by decide
  have history := staged.history
  have revision := staged.revision
  constructor
  case named =>
    show record.recordId ≠ ""
    rw [staged.recordId]
    exact legal.named
  case after_epoch => exact legal.after_epoch.trans staged.later
  case finite => exact staged.finite
  case reasoned => exact staged.reasoned
  case provenance =>
    show Keyed record.provenance
    rw [staged.provenance]
    exact legal.provenance
  case data => exact staged.data.insert _ _
  case bounded =>
    show record.history.length ≤ _
    rw [history]
    exact legal.bounded
  case accounted =>
    refine ⟨dropped, counted + 1, ?_, dataCounter_insert _ _ _, ?_, ?_, ?_⟩
    · rw [dataCounter_insert_ne _ _ apart, staged.dropped]
      exact drop_count
    · show record.history.length + dropped + (counted + 1) = record.revision + 1
      rw [history]
      omega
    · show dropped = 0 ∨ record.history.length = _
      rw [history]
      exact window
    · show checkEdges machine _ record.history = _
      rw [history]
      exact edges
  case opened =>
    show record.history.head?.map _ = _
    rw [history]
    exact legal.opened
  case closed =>
    show record.history.getLast?.map _ = some record.state
    rw [history, same]
    exact legal.closed
  case events =>
    show ∀ event ∈ record.history, _
    rw [history]
    exact legal.events
  case ordered =>
    show record.history.Pairwise _
    rw [history]
    exact legal.ordered
  case latest =>
    show ∀ event ∈ record.history, _
    rw [history]
    exact fun event member => (legal.latest event member).trans staged.later

end Records

end ExaServe.State.Status
