import ExaServe.State.Results

namespace ExaServe.State.Results

open Lib Lib.FileTree Control Plan Mounts
open Json (fieldOf fieldOf_stored)

section Constructors

theorem provided_ok {fact : Prop} [Decidable fact] (holds : fact) (message : String) :
    provided fact message = .ok ⟨holds⟩ := dif_pos holds

theorem checkText_str {ok : String → Bool} {text : String} (proper : ok text = true) (message : String) :
    checkText (.str text) ok message = .ok ⟨text, proper⟩ := dif_pos proper

theorem checkTexts_map {ok : String → Bool} {texts : List String} (proper : ∀ text ∈ texts, ok text = true)
    (message : String) : checkTexts ok message (texts.map .str) = .ok ⟨texts, proper⟩ := by
  induction texts with
  | nil => rfl
  | cons text texts ih =>
    obtain ⟨first, others⟩ := List.forall_mem_cons.mp proper
    rw [List.map_cons, checkTexts, checkText_str first, ih others]
    rfl

theorem nonEmpty_of_entryPath {path : String} (placed : isEntryPath path = true) : nonEmpty path = true := by
  apply decide_eq_true
  rintro rfl
  exact absurd placed (by decide)

/-- The fields of an entry make the entry. -/
theorem ResultEntry.make_of (entry : ResultEntry) :
    ResultEntry.make (.str entry.logicalId) (.str entry.path) (.int entry.sizeBytes) (.str entry.sha256) =
      .ok entry := by
  rw [ResultEntry.make, checkText_str entry.identified]
  change (checkText (.str entry.path) nonEmpty _ >>= _) = _
  rw [checkText_str (nonEmpty_of_entryPath entry.placed)]
  change (checkText (.str entry.path) isEntryPath _ >>= _) = _
  rw [checkText_str entry.placed]
  change (checkText (.str entry.sha256) isSha256Hex _ >>= _) = _
  rw [checkText_str entry.hashed]
  rfl

theorem iterate_arr (items : List Json) : iterate (.arr items) = .ok items := rfl

theorem ResultEntry.distinct (entry : ResultEntry) : (Json.fieldNames entry.fields).Nodup := by
  change ResultEntry.fieldNames.Nodup
  decide

theorem ResultEntry.ofJson_stored (entry : ResultEntry) :
    ResultEntry.ofJson (Json.obj entry.fields).canonical = .ok entry := by
  have shape : Json.sameNames entry.fields ResultEntry.fieldNames = true := by
    simp [Json.sameNames, Json.fieldNames, ResultEntry.fields, ResultEntry.fieldNames]
  have found := @fieldOf_stored entry.fields entry.distinct
  have id := @found "logical_id" (.str entry.logicalId) (by simp [ResultEntry.fields])
  have path := @found "path" (.str entry.path) (by simp [ResultEntry.fields])
  have size := @found "size_bytes" (.int entry.sizeBytes) (by simp [ResultEntry.fields])
  have digest := @found "sha256" (.str entry.sha256) (by simp [ResultEntry.fields])
  rw [Json.canonical, ResultEntry.ofJson, Json.sameNames_stored, if_pos shape, id, path, size, digest]
  exact entry.make_of

section Manifests

variable {fromisoformat : String → Option Bool} (manifest : ResultManifest fromisoformat)

/-- The fields of a manifest make the manifest. -/
theorem ResultManifest.make_of {field : String → Json} (schema : field "schema_version" = .int schemaVersion)
    (run : field "run_id" = .str manifest.runId)
    (semantic : field "run_semantic_hash" = .str manifest.runSemanticHash)
    (plan : field "deployment_plan_hash" = .str manifest.deploymentPlanHash)
    (dated : field "generated_at" = .str manifest.generatedAt) (complete : field "complete" = .bool manifest.complete)
    (hash : field "manifest_hash" = .str manifest.manifestHash) :
    ResultManifest.make field (manifest.expectedIds.map .str) manifest.entries (manifest.incompleteReasons.map .str) =
      .ok manifest := by
  have aware : fromisoformat (zuluOffset manifest.generatedAt) ≠ none := by
    rw [manifest.zoned]
    exact Option.some_ne_none _
  rw [ResultManifest.make, schema, run, semantic, plan, dated, complete, hash, checkText_str manifest.named,
    checkText_str manifest.semantic, checkText_str manifest.planned, checkText_str manifest.dated,
    checkText_str manifest.hashed, checkTexts_map manifest.expected, checkTexts_map manifest.reasoned]
  change (provided (fromisoformat (zuluOffset manifest.generatedAt) ≠ none) _ >>= _) = _
  rw [provided_ok aware]
  change (provided (fromisoformat (zuluOffset manifest.generatedAt) = some true) _ >>= _) = _
  rw [provided_ok manifest.zoned]
  change (provided (manifest.expectedIds = _) _ >>= _) = _
  rw [provided_ok manifest.expectedSorted]
  change (provided (manifest.entries.map ResultEntry.logicalId = _) _ >>= _) = _
  rw [provided_ok manifest.entriesSorted]
  change (provided (manifest.incompleteReasons = _) _ >>= _) = _
  rw [provided_ok manifest.reasonsSorted]
  change (provided (manifest.complete = _) _ >>= _) = _
  rw [provided_ok manifest.decided]
  rfl

theorem ResultManifest.finalize_final : manifest.finalize.Finalized := rfl

theorem ResultManifest.distinct : (Json.fieldNames manifest.fields).Nodup := by
  change ResultManifest.fieldNames.Nodup
  decide

theorem ResultManifest.keyed : Json.wellKeyed (.obj manifest.fields) = true := by
  have texts : ∀ texts : List String, Json.wellKeyedItems (texts.map .str) = true := by
    intro texts
    rw [Json.wellKeyedItems_iff]
    intro item member
    obtain ⟨text, _, rfl⟩ := List.mem_map.mp member
    rfl
  have entries : Json.wellKeyedItems (manifest.entries.map fun entry => .obj entry.fields) = true := by
    rw [Json.wellKeyedItems_iff]
    intro item member
    obtain ⟨entry, _, rfl⟩ := List.mem_map.mp member
    rw [Json.wellKeyed, decide_eq_true entry.distinct]
    rfl
  rw [Json.wellKeyed, decide_eq_true manifest.distinct]
  simp only [ResultManifest.fields, ResultManifest.canonical, List.cons_append, List.nil_append, Json.wellKeyedFields,
    Json.wellKeyed, texts, entries, Bool.and_self]

/-- A manifest is what its text is decoded to. -/
theorem decodeManifest_stored : decodeManifest (Json.obj manifest.fields).canonical = .ok manifest := by
  have shape : Json.sameNames manifest.fields ResultManifest.fieldNames = true := by
    simp [Json.sameNames, Json.fieldNames, ResultManifest.fields, ResultManifest.canonical, ResultManifest.fieldNames]
  have found := fun name value listed => @fieldOf_stored manifest.fields manifest.distinct name value
    (List.mem_append.mpr listed)
  have texts : ∀ texts : List String, (Json.arr (texts.map .str)).canonical = .arr (texts.map .str) := by
    intro texts
    rw [Json.canonical, Json.canonicalItems_eq_map, List.map_map]
    rfl
  have entries : ((manifest.entries.map (Json.canonical ∘ fun entry => Json.obj entry.fields)).mapM
      ResultEntry.ofJson : Except String (List ResultEntry)) = .ok manifest.entries := by
    rw [List.mapM_map]
    have each := @mapM_ok _ _ _ (fun entry : ResultEntry => ResultEntry.ofJson (Json.obj entry.fields).canonical) id
      manifest.entries fun entry _ => entry.ofJson_stored
    rwa [List.map_id] at each
  have schema := found "schema_version" (.int schemaVersion) (by simp [ResultManifest.canonical])
  have run := found "run_id" (.str manifest.runId) (by simp [ResultManifest.canonical])
  have semantic := found "run_semantic_hash" (.str manifest.runSemanticHash) (by simp [ResultManifest.canonical])
  have plan := found "deployment_plan_hash" (.str manifest.deploymentPlanHash) (by simp [ResultManifest.canonical])
  have ids := found "expected_ids" (.arr (manifest.expectedIds.map .str)) (by simp [ResultManifest.canonical])
  have listed := found "entries" (.arr (manifest.entries.map fun entry => .obj entry.fields))
    (by simp [ResultManifest.canonical])
  have reasons := found "incomplete_reasons" (.arr (manifest.incompleteReasons.map .str))
    (by simp [ResultManifest.canonical])
  have dated := found "generated_at" (.str manifest.generatedAt) (by simp [ResultManifest.canonical])
  have complete := found "complete" (.bool manifest.complete) (by simp [ResultManifest.canonical])
  have hash := found "manifest_hash" (.str manifest.manifestHash) (by simp)
  rw [texts] at ids reasons
  rw [Json.canonical, Json.canonicalItems_eq_map, List.map_map] at listed
  rw [Json.canonical, decodeManifest, Json.sameNames_stored, if_pos shape, listed, ids, reasons]
  change (List.mapM ResultEntry.ofJson _ >>= _) = _
  rw [ok_bind entries, ok_bind (iterate_arr _), ok_bind (iterate_arr _)]
  exact manifest.make_of schema run semantic plan dated complete hash

end Manifests

end Constructors

end ExaServe.State.Results
