import ExaServe.Staging.CollectivePublishing

namespace ExaServe.Staging

open Lib Plan

section Entries

variable {attemptId id : String} {fields : List (String × Json)} {record : Record}

theorem lookup_eq_findEntry (name : String) (fields : List (String × Json)) :
    Json.lookup name fields = findEntry name fields := by
  induction fields with
  | nil => rfl
  | cons field rest ih => rw [Json.lookup, findEntry, ih]

/-- Fields put over others show where they have the name. -/
theorem lookup_put {base : List (String × Json)} (nodup : (Json.fieldNames fields).Nodup) (name : String) :
    Json.lookup name (fields.foldl (fun entry field => putEntry field.1 field.2 entry) base) =
      (Json.lookup name fields).or (Json.lookup name base) := by
  induction fields generalizing base with
  | nil => rfl
  | cons field rest ih =>
    rw [Json.fieldNames, List.map_cons, List.nodup_cons] at nodup
    rw [List.foldl_cons, ih nodup.2, lookup_eq_findEntry name (putEntry _ _ _), findEntry_put, Json.lookup]
    split_ifs with same
    · have absent : Json.lookup name rest = none := by
        rw [lookup_eq_findEntry, ← Option.not_isSome_iff_eq_none, findEntry_isSome, ← same]
        exact nodup.1
      rw [absent]
      rfl
    · rw [lookup_eq_findEntry name base]

/-- An entry holds the payload and, for each name the payload does not have, the metadata that
    was checked. -/
structure Unaltered (attemptId id : String) (fields entry : List (String × Json)) : Prop where
  payload : ∀ name, name ∉ Json.fieldNames (metadata attemptId id) → Json.lookup name entry = Json.lookup name fields
  metadata : ∀ name ∈ Json.fieldNames (metadata attemptId id), name ∉ Json.fieldNames fields →
    Json.lookup name entry = Json.lookup name (metadata attemptId id)

theorem lookup_absent {name : String} (absent : name ∉ Json.fieldNames fields) : Json.lookup name fields = none := by
  rw [lookup_eq_findEntry, ← Option.not_isSome_iff_eq_none, findEntry_isSome]
  exact absent

theorem entry_unaltered (nodup : (Json.fieldNames fields).Nodup) (payload : record.payload = .obj fields) :
    Unaltered attemptId record.resultId fields (record.entry attemptId) := by
  rw [Record.entry, payload]
  constructor
  · intro name other
    rw [lookup_put nodup, lookup_absent other, Option.or_none]
  · intro name _ absent
    rw [lookup_put nodup, lookup_absent absent, Option.none_or]

theorem wellKeyed_lookup {name : String} {value : Json} (keyed : (Json.obj fields).wellKeyed = true)
    (found : Json.lookup name fields = some value) : value.wellKeyed = true := by
  rw [Json.wellKeyed, Bool.and_eq_true, decide_eq_true_eq, Json.wellKeyedFields_iff] at keyed
  exact keyed.2 (name, value) ((Json.lookup_eq_some_iff keyed.1 name value).mp found)

theorem recordOf_payload {rank : Nat} {item : Json} (formed : recordOf attemptId rank item = some record) :
    ∃ fields, item = .obj fields ∧ Json.lookup "payload" fields = some record.payload ∧
      (record.ok = true → isObject record.payload = true) := by
  cases item with
  | obj fields =>
    rw [recordOf] at formed
    split_ifs at formed with named
    split at formed
    next lookups _ _ _ =>
      split_ifs at formed with good well well
      · cases formed
        exact ⟨fields, rfl, lookups, fun _ => well.2.2.2.2.2⟩
      · cases formed
        exact ⟨fields, rfl, lookups, fun bad => absurd bad good⟩
    next => cases formed
  | _ => cases formed

/-- The entry of a published record holds its payload unaltered. -/
theorem published_entry {rank : Nat} {item : Json} (keyed : item.wellKeyed = true)
    (published : Published attemptId rank item record) :
    ∃ fields, record.payload = .obj fields ∧ Unaltered attemptId record.resultId fields (record.entry attemptId) := by
  obtain ⟨item_fields, same, found, shape⟩ := recordOf_payload published.formed
  subst same
  have payload_keyed := wellKeyed_lookup keyed found
  cases payload : record.payload with
  | obj fields =>
    rw [payload, Json.wellKeyed, Bool.and_eq_true, decide_eq_true_eq] at payload_keyed
    exact ⟨fields, rfl, entry_unaltered payload_keyed.1 payload⟩
  | _ =>
    have object := shape published.ok
    rw [payload] at object
    cases object

variable {stdout : List Char} {size : Int} {root : String} {ok : Bool} {results : List Json}

theorem envelopeOf_results {fields : List (String × Json)}
    (found : envelopeOf attemptId size root fields = some (ok, results)) :
    Json.lookup "results" fields = some (.arr results) := by
  rw [envelopeOf] at found
  split at found
  next lookups =>
    split_ifs at found
    cases found
    exact lookups
  next => cases found

theorem Arrived.keyed (arrived : Arrived stdout attemptId size root ok results) :
    ∀ item ∈ results, item.wellKeyed = true := by
  obtain ⟨⟨line, fields, -, decoded, -, found⟩, -⟩ := arrived
  have listed := wellKeyed_lookup (Json.wellKeyed_decode decoded) (envelopeOf_results found)
  rw [Json.wellKeyed, Json.wellKeyedItems_iff] at listed
  exact listed

end Entries

section Envelope

variable {refusal : Value → String} {attemptId root : String} {expected : Nat} {runs : List RankRun}

/-- The payload of a rank as JSON. -/
def RankRun.json (refusal : Value → String) (run : RankRun) : Json := ((run.outcome refusal).1.json?).getD .null

theorem RankRun.TextKeyed.outcome {run : RankRun} (keyed : run.TextKeyed) :
    Outcome refusal run (run.json refusal) (run.outcome refusal).2 := by
  obtain ⟨json, error, outcome⟩ := @outcome_cases refusal run keyed
  obtain ⟨-, written, failed⟩ := outcome.value
  rw [RankRun.json, written, failed]
  exact outcome

def recordOfRun (refusal : Value → String) (attemptId : String) (item : RankRun × Nat) : Json :=
  .obj (recordJson attemptId item.2 item.1 (item.1.json refusal) (item.1.outcome refusal).2)

theorem records_written {items : List (RankRun × Nat)} (keyed : ∀ item ∈ items, item.1.TextKeyed) :
    ∃ values, items.mapM (fun item => item.1.record refusal attemptId item.2) = some values ∧
      Value.textKeyedItems values = true ∧
      Value.jsonItems values = some (items.map (recordOfRun refusal attemptId)) := by
  induction items with
  | nil => exact ⟨[], rfl, rfl, rfl⟩
  | cons item rest ih =>
    obtain ⟨values, mapped, texts, encoded⟩ := ih fun other member => keyed other (List.mem_cons_of_mem _ member)
    obtain ⟨value, recorded, text, written⟩ :=
      @record_written refusal attemptId item.2 _ _ _ (keyed item List.mem_cons_self).outcome
    refine ⟨value :: values, ?_, ?_, ?_⟩
    · simp [List.mapM_cons, recorded, mapped]
    · rw [Value.textKeyedItems, text, texts]
      rfl
    · rw [Value.jsonItems, written, encoded]
      rfl

def envelopeJson (refusal : Value → String) (attemptId : String) (expected : Nat) (root : String)
    (runs : List RankRun) (first : RankRun) : List (String × Json) :=
  [("schema_version", .int 1), ("attempt_id", .str attemptId), ("world_size", .int runs.length),
    ("root_node", .str first.node), ("expected_root_node", .str root),
    ("ok", .bool (aggregateOk refusal expected root runs)),
    ("results", .arr (runs.zipIdx.map (recordOfRun refusal attemptId)))]

theorem keyed_zipIdx (keyed : ∀ run ∈ runs, run.TextKeyed) : ∀ item ∈ runs.zipIdx, item.1.TextKeyed := by
  rintro ⟨run, rank⟩ member
  exact keyed run (List.mem_of_getElem? (List.mk_mem_zipIdx_iff_getElem?.mp member))

/-- Rank zero prints the envelope as a decoded value is dumped, each object well keyed. -/
theorem envelope_written (keyed : ∀ run ∈ runs, run.TextKeyed) {first : RankRun} (head : runs.head? = some first) :
    resultLine refusal attemptId expected root runs =
        some (resultPrefix ++ (Json.obj (envelopeJson refusal attemptId expected root runs first)).dumps) ∧
      (Json.obj (envelopeJson refusal attemptId expected root runs first)).wellKeyed = true := by
  obtain ⟨values, mapped, texts, encoded⟩ := @records_written refusal attemptId _ (keyed_zipIdx keyed)
  have written : ∃ value, envelope refusal attemptId expected root runs = some value ∧ value.textKeyed = true ∧
      value.json? = some (.obj (envelopeJson refusal attemptId expected root runs first)) := by
    rw [envelope, head]
    simp only [mapped, Option.bind_eq_bind, Option.bind_some]
    refine ⟨_, rfl, ?_, ?_⟩
    · simp [Value.ofFields, Value.textKeyed, Value.textKeyedEntries, Value.text?, texts]
    · simp [Value.ofFields, Value.json?, Value.jsonEntries, Value.keyText?, encoded, envelopeJson]
  obtain ⟨value, gathered, text, json⟩ := written
  obtain ⟨sorted, well⟩ := (Value.sortsText value) text
  constructor
  · rw [resultLine, gathered]
    simp only [Option.bind_eq_bind, Option.bind_some, sorted, json, Option.map_some, Json.printed_canonical]
  · exact well _ json

theorem envelopeJson_nodup {first : RankRun} :
    (Json.fieldNames (envelopeJson refusal attemptId expected root runs first)).Nodup := by
  simp [envelopeJson, Json.fieldNames]

/-- Where the printed envelope is the only one, it arrived exactly for the world and the root
    that it was written for. -/
theorem arrived_written (keyed : ∀ run ∈ runs, run.TextKeyed) {first : RankRun} (head : runs.head? = some first)
    {stdout : List Char}
    (alone : resultLines stdout = [(Json.obj (envelopeJson refusal attemptId expected root runs first)).dumps])
    {ok : Bool} {results : List Json} : Arrived stdout attemptId expected root ok results ↔
      runs.length = expected ∧ sameNode first.node root = true ∧ ok = aggregateOk refusal expected root runs ∧
        results = runs.zipIdx.map fun item => (recordOfRun refusal attemptId item).canonical := by
  have decoded : Json.decode (Json.obj (envelopeJson refusal attemptId expected root runs first)).dumps = some
      (.obj (Json.sortFields (Json.canonicalFields (envelopeJson refusal attemptId expected root runs first)))) :=
    Json.decode_of_loads (Json.loads_dumps (envelope_written keyed head).2)
  have stored := @Json.lookup_stored _ (@envelopeJson_nodup refusal attemptId root expected runs first)
  have named : Json.sameNames (Json.sortFields (Json.canonicalFields
      (envelopeJson refusal attemptId expected root runs first))) envelopeFields = true := by
    rw [Json.sameNames_stored]
    simp [Json.sameNames, Json.fieldNames, envelopeJson, envelopeFields]
  have read : envelopeOf attemptId expected root (Json.sortFields (Json.canonicalFields
      (envelopeJson refusal attemptId expected root runs first))) =
        if runs.length = expected ∧ sameNode first.node root = true then
          some (aggregateOk refusal expected root runs,
            runs.zipIdx.map fun item => (recordOfRun refusal attemptId item).canonical)
        else none := by
    rw [envelopeOf]
    simp only [stored]
    simp [envelopeJson, Json.lookup, Json.canonical, Json.canonicalItems_eq_map, Function.comp_def]
  constructor
  · rintro ⟨⟨line, fields, one, found, -, here⟩, -⟩
    rw [alone] at one
    cases one
    rw [decoded] at found
    rw [← Json.obj.inj (Option.some.inj found), read] at here
    split_ifs at here with fits
    cases here
    exact ⟨fits.1, fits.2, rfl, rfl⟩
  · rintro ⟨length, same, verdict, all⟩
    subst verdict
    subst all
    refine ⟨⟨_, _, alone, decoded, named, ?_⟩, ?_⟩
    · rw [read, if_pos ⟨length, same⟩]
    · rw [List.length_map, List.length_zipIdx, length]

theorem splitlines_line {line : List Char} (plain : ∀ c ∈ line, State.Mounts.isLineBreak c = false) :
    splitlines (line ++ ['\n']) = [line] := by
  have same : State.Mounts.universalNewlines (line ++ ['\n']) = line ++ ['\n'] := by
    induction line with
    | nil => rfl
    | cons c line ih =>
      have other : c ≠ '\r' := by
        intro returned
        exact absurd (plain c List.mem_cons_self) (by rw [returned]; decide)
      rw [List.cons_append, State.Mounts.universalNewlines,
        ih fun d member => plain d (List.mem_cons_of_mem _ member)]
      · exact fun rest returned => absurd returned other
      · exact other
  have listed := @linesBy_flatMap State.Mounts.isLineBreak _ [line] id '\n' (by decide)
    (by simpa using plain)
  rw [splitlines, same]
  simpa using listed

theorem isLineBreak_ascii {c : Char} (visible : 32 ≤ c.toNat) (ascii : c.toNat < 128) :
    State.Mounts.isLineBreak c = false := by
  unfold State.Mounts.isLineBreak
  simp only [Bool.or_eq_false_iff, Bool.and_eq_false_iff, decide_eq_false_iff_not]
  omega

/-- What rank zero prints holds one result line. -/
theorem resultLines_printed (json : Json) : resultLines (resultPrefix ++ json.dumps ++ ['\n']) = [json.dumps] := by
  have plain : ∀ c ∈ resultPrefix ++ json.dumps, State.Mounts.isLineBreak c = false := by
    intro c member
    rcases List.mem_append.mp member with front | text
    · have all : resultPrefix.all (fun c => !State.Mounts.isLineBreak c) = true := by decide
      simpa using List.all_eq_true.mp all c front
    · exact isLineBreak_ascii (Json.dumps_visible json c text) (Json.dumps_ascii json c text)
  have front : resultPrefix.isPrefixOf (resultPrefix ++ json.dumps) = true := by simp
  rw [resultLines, splitlines_line plain, List.filterMap_cons, if_pos front, List.drop_left, List.filterMap_nil]

end Envelope

section Agreement

variable {refusal : Value → String} {attemptId root : String} {expected : Nat} {runs : List RankRun}

/-- What the reader makes of the record of a rank that published. -/
def readRecord (refusal : Value → String) (attemptId : String) (item : RankRun × Nat) : Record where
  resultId := idOf attemptId item.2 item.1.node (item.1.json refusal)
  node := item.1.node
  ok := true
  payload := (item.1.json refusal).canonical
  error := ""

/-- A rank with a name whose operation returned an object that can be written. -/
def RankRun.Named (run : RankRun) : Prop := run.node ≠ "" ∧ ∃ fields, run.Publishes fields

theorem allPublished_iff (keyed : ∀ run ∈ runs, run.TextKeyed) {records : List Record} :
    AllPublished attemptId (runs.zipIdx.map fun item => (recordOfRun refusal attemptId item).canonical) records ↔
      (∀ run ∈ runs, run.Named) ∧ records = runs.zipIdx.map (readRecord refusal attemptId) := by
  have single : ∀ rank run, runs[rank]? = some run → ∀ record,
      Published attemptId rank (recordOfRun refusal attemptId (run, rank)).canonical record ↔
        run.node ≠ "" ∧ (∃ fields, run.Publishes fields) ∧ record = readRecord refusal attemptId (run, rank) := by
    intro rank run here record
    exact published_iff (keyed run (List.mem_of_getElem? here)).outcome
  have listed : ∀ rank run, runs[rank]? = some run →
      (runs.zipIdx.map fun item => (recordOfRun refusal attemptId item).canonical)[rank]? =
        some (recordOfRun refusal attemptId (run, rank)).canonical := by
    intro rank run here
    simp [List.getElem?_map, List.getElem?_zipIdx, here]
  constructor
  · rintro ⟨lengths, each⟩
    rw [List.length_map, List.length_zipIdx] at lengths
    have found : ∀ rank run, runs[rank]? = some run → run.Named ∧
        records[rank]? = some (readRecord refusal attemptId (run, rank)) := by
      intro rank run here
      have inside : rank < records.length := lengths ▸ (List.getElem?_eq_some_iff.mp here).1
      have held := List.getElem?_eq_getElem inside
      obtain ⟨named, published, same⟩ := (single rank run here _).mp (each rank _ _ (listed rank run here) held)
      exact ⟨⟨named, published⟩, by rw [held, same]⟩
    constructor
    · intro run member
      obtain ⟨rank, inside, same⟩ := List.getElem_of_mem member
      exact (found rank run (List.getElem?_eq_some_iff.mpr ⟨inside, same⟩)).1
    · apply List.ext_getElem?
      intro rank
      by_cases inside : rank < runs.length
      · have here := List.getElem?_eq_getElem inside
        rw [(found rank _ here).2]
        simp [List.getElem?_map, List.getElem?_zipIdx, here]
      · rw [List.getElem?_eq_none (by omega), List.getElem?_eq_none (by simp; omega)]
  · rintro ⟨named, same⟩
    subst same
    refine ⟨by simp, ?_⟩
    intro rank item record here found
    cases run : runs[rank]? with
    | none =>
      rw [List.getElem?_map, List.getElem?_zipIdx, run] at found
      exact absurd found (by simp)
    | some one =>
      have read : (runs.zipIdx.map (readRecord refusal attemptId))[rank]? =
          some (readRecord refusal attemptId (one, rank)) := by
        simp [List.getElem?_map, List.getElem?_zipIdx, run]
      rw [read] at found
      rw [listed rank one run] at here
      rw [← Option.some.inj found, ← Option.some.inj here]
      obtain ⟨name, published⟩ := named one (List.mem_of_getElem? run)
      exact (single rank one run _).mpr ⟨name, published, rfl⟩

/-- Every rank of the expected world, with the expected root, published its own result. -/
structure Collected (refusal : Value → String) (attemptId root : String) (expected : Nat) (runs : List RankRun) :
    Prop where
  world : runs.length = expected
  rooted : ∃ first, runs.head? = some first ∧ sameNode first.node root = true
  named : ∀ run ∈ runs, run.Named
  distinct : (runs.zipIdx.map fun item =>
    resultId attemptId item.2 item.1.node (item.1.outcome refusal).1).Nodup

theorem ok_of_named {run : RankRun} (keyed : run.TextKeyed) (named : run.Named) : run.ok refusal = true := by
  obtain ⟨fields, published⟩ := named.2
  obtain ⟨json, error, outcome⟩ := @outcome_cases refusal run keyed
  cases outcome with
  | published returned text written same => rw [RankRun.ok, same]; rfl
  | failed none same => exact absurd published (none fields)

theorem aggregateOk_of (keyed : ∀ run ∈ runs, run.TextKeyed)
    (collected : Collected refusal attemptId root expected runs) :
    aggregateOk refusal expected root runs = true := by
  obtain ⟨first, head, same⟩ := collected.rooted
  rw [aggregateOk, head, Option.map_some, Option.getD_some, same, decide_eq_true collected.world, Bool.true_and,
    Bool.true_and, List.all_eq_true]
  intro run member
  exact ok_of_named (keyed run member) (collected.named run member)

theorem distinct_iff (keyed : ∀ run ∈ runs, run.TextKeyed) :
    ((runs.zipIdx.map (readRecord refusal attemptId)).map Record.resultId).Nodup ↔
      (runs.zipIdx.map fun item => resultId attemptId item.2 item.1.node (item.1.outcome refusal).1).Nodup := by
  have same : (runs.zipIdx.map fun item => resultId attemptId item.2 item.1.node (item.1.outcome refusal).1) =
      ((runs.zipIdx.map (readRecord refusal attemptId)).map Record.resultId).map some := by
    rw [List.map_map, List.map_map]
    apply List.map_congr_left
    intro item member
    obtain ⟨text, written, -⟩ := (keyed_zipIdx keyed item member).outcome.value
    exact resultId_textKeyed text written
  rw [same, List.nodup_map_iff (Option.some_injective _)]

theorem load_collected (keyed : ∀ run ∈ runs, run.TextKeyed) {first : RankRun} (head : runs.head? = some first)
    {stdout : List Char}
    (alone : resultLines stdout = [(Json.obj (envelopeJson refusal attemptId expected root runs first)).dumps])
    {entries : List (List (String × Json))} : loadCollectiveResults stdout attemptId expected root = .ok entries ↔
      Collected refusal attemptId root expected runs ∧
        entries = runs.zipIdx.map fun item => (readRecord refusal attemptId item).entry attemptId := by
  rw [load_ok_iff]
  constructor
  · rintro ⟨results, records, arrived, published, distinct, same⟩
    obtain ⟨world, rooted, -, all⟩ := (arrived_written keyed head alone).mp arrived
    subst all
    obtain ⟨named, read⟩ := (allPublished_iff keyed).mp published
    subst read
    refine ⟨⟨world, ⟨first, head, rooted⟩, named, (distinct_iff keyed).mp distinct⟩, ?_⟩
    rw [same, List.map_map]
    rfl
  · rintro ⟨collected, same⟩
    obtain ⟨root_run, head_again, rooted⟩ := collected.rooted
    cases head.symm.trans head_again
    refine ⟨_, _, (arrived_written keyed head alone).mpr
      ⟨collected.world, rooted, (aggregateOk_of keyed collected).symm, rfl⟩,
      (allPublished_iff keyed).mpr ⟨collected.named, rfl⟩, (distinct_iff keyed).mpr collected.distinct, ?_⟩
    rw [same, List.map_map]
    rfl

/-- The entry of a rank that published holds its payload, as it decodes, unaltered. -/
theorem readRecord_entry {run : RankRun} {rank : Nat} (keyed : run.TextKeyed) (named : run.Named) :
    ∃ payload fields id, run.operation = .returned payload ∧ payload.json? = some (.obj fields) ∧
      resultId attemptId rank run.node payload = some id ∧
      Unaltered attemptId id (Json.sortFields (Json.canonicalFields fields))
        ((readRecord refusal attemptId (run, rank)).entry attemptId) := by
  obtain ⟨fields, published⟩ := named.2
  have outcome := @RankRun.TextKeyed.outcome refusal run keyed
  generalize json_eq : run.json refusal = json at outcome
  generalize (run.outcome refusal).2 = error at outcome
  cases outcome with
  | @published entries fields returned text written same =>
    refine ⟨_, fields, _, returned, written, resultId_textKeyed text written, ?_⟩
    have well := ((Value.sortsText _) text).2 _ written
    rw [Json.wellKeyed, Bool.and_eq_true, decide_eq_true_eq] at well
    have nodup : (Json.fieldNames (Json.sortFields (Json.canonicalFields fields))).Nodup := by
      rw [(Json.fieldNames_sortFields _).nodup_iff, Json.fieldNames_canonicalFields]
      exact well.1
    have payload : (readRecord refusal attemptId (run, rank)).payload =
        .obj (Json.sortFields (Json.canonicalFields fields)) := by
      rw [readRecord, json_eq, Json.canonical]
    have own : (readRecord refusal attemptId (run, rank)).resultId = idOf attemptId rank run.node (.obj fields) := by
      rw [readRecord, json_eq]
    exact own ▸ entry_unaltered nodup payload
  | failed none same => exact absurd published (none fields)

end Agreement

section Results

end Results

section Sample

def sampleAttempt : String := "0123456789abcdef0123456789abcdef"

/-- One rank that counted three files. -/
def sampleRun : RankRun where
  node := "n0"
  operation := .returned (.dict [(.str "files", .int 3)])
  stdout := ""
  stderr := ""

end Sample

end ExaServe.Staging
