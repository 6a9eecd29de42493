import ExaServe.State.ResultLoading
import Mathlib.Data.List.Dedup
import Mathlib.Data.List.Sort

namespace ExaServe.State.Results

open Lib Lib.FileTree Control Plan Mounts
open Compat.RawReceipt (sortedUnique mem_sortedUnique sortedUnique_of_lt)
open Json (fieldOf)
open Status (RunState pyList)

section Publication

/-- What a publication takes from the run's plan. -/
structure RunPlan where
  runId : String
  runSemanticHash : String
  deploymentPlanHash : String
  resultsDir : Path
  named : nonEmpty runId = true
  semantic : isSha256Hex runSemanticHash = true
  planned : isSha256Hex deploymentPlanHash = true

/-- The path of `result_manifest.json` in the results directory. -/
def RunPlan.manifestPath (plan : RunPlan) : FilePath :=
  ⟨plan.resultsDir, "result_manifest.json".toList, by decide⟩

/-- The entries that can be hashed, and what is said of the others. -/
def materialize (tree : FileTree UInt8) (cwd : AbsPath) (root : Path) :
    List (String × Path) → List ResultEntry × List String
  | [] => ([], [])
  | (logicalId, path) :: rest =>
    let later := materialize tree cwd root rest
    match ResultEntry.fromFile tree cwd logicalId path root with
    | .ok entry => (entry :: later.1, later.2)
    | .error exc => (later.1, s!"{logicalId}: cannot hash result: {exc}" :: later.2)

def addMissing (reasons : List String) (missing : String) : List String :=
  let message := s!"required result {missing} is missing"
  if message ∈ reasons then reasons else reasons ++ [message]

def sortedItems (entries : Dict String Path) : List (String × Path) :=
  entries.entries.insertionSort fun left right => left.1 ≤ right.1

variable {fromisoformat : String → Option Bool}

/-- The manifest that `_publish_result_manifest` makes of the produced files. -/
def buildManifest (tree : FileTree UInt8) (cwd : AbsPath) (plan : RunPlan) (entries : Dict String Path)
    (expectedIds reasons : List String) (now : String) : Except String (ResultManifest fromisoformat) := do
  let hashed := materialize tree cwd plan.resultsDir (sortedItems entries)
  let observed := hashed.1.map ResultEntry.logicalId
  let missing := sortedUnique (expectedIds.filter fun id => id ∉ observed)
  let manifestReasons := missing.foldl addMissing (reasons ++ hashed.2)
  let manifest ← ResultManifest.make
    (fieldOf [("schema_version", .int schemaVersion), ("run_id", .str plan.runId),
      ("run_semantic_hash", .str plan.runSemanticHash), ("deployment_plan_hash", .str plan.deploymentPlanHash),
      ("generated_at", .str now), ("complete", .bool (isComplete observed expectedIds manifestReasons)),
      ("manifest_hash", .str "")])
    ((sortedUnique expectedIds).map .str) (hashed.1.insertionSort fun left right => left.logicalId ≤ right.logicalId)
    ((sortedUnique manifestReasons).map .str)
  .ok manifest.finalize

/-- `_publish_result_manifest` -/
def publishResultManifest (faults : Faults) (tree : FileTree UInt8) (cwd : AbsPath) (plan : RunPlan)
    (entries : Dict String Path) (expectedIds reasons : List String) (now : String) :
    FileTree UInt8 × Except String (ResultManifest fromisoformat) :=
  match buildManifest tree cwd plan entries expectedIds reasons now with
  | .error exc => (tree, .error exc)
  | .ok manifest =>
    match writeResultManifest faults tree cwd plan.manifestPath manifest with
    | (after, .ok _) => (after, .ok manifest)
    | (after, .error exc) => (after, .error exc)

/-- What a terminal RunStatus says. -/
structure Terminal where
  phase : RunState
  exitCode : Option Int
  resultManifestHash : Option String

def phaseText (phase : RunState) : String := phase.value.toLower

/-- The completeness check of the run status writer. -/
def checkTerminal (tree : FileTree UInt8) (cwd : AbsPath) (plan : RunPlan) (status : Terminal) :
    Except String Unit := do
  if status.phase = .succeeded ∨ status.phase = .partialResult then
    let missing := (if status.exitCode = none then ["exit_code"] else []) ++
      (if status.resultManifestHash = none then ["result_manifest_hash"] else [])
    let _ ← provided (missing = []) s!"RunStatus {phaseText status.phase} missing fields: {pyList missing}"
    let _ ← provided (status.phase = .succeeded → status.exitCode = some 0)
      "a succeeded RunStatus must carry exit_code 0"
    let manifest : ResultManifest fromisoformat ← loadResultManifest tree cwd plan.manifestPath true
    let _ ← provided (manifest.runId = plan.runId ∧ manifest.runSemanticHash = plan.runSemanticHash ∧
      manifest.deploymentPlanHash = plan.deploymentPlanHash ∧ some manifest.manifestHash = status.resultManifestHash)
      "terminal RunStatus disagrees with ResultManifest identity"
    let _ ← provided (manifest.complete = decide (status.phase = .succeeded))
      s!"RunStatus {phaseText status.phase} disagrees with ResultManifest completeness"
    .ok ()
  else .ok ()

end Publication

section Sorting

theorem sortedUnique_increasing (texts : List String) : (sortedUnique texts).Pairwise (· < ·) := by
  have sorted : (sortedUnique texts).Pairwise (· ≤ ·) :=
    (List.pairwise_insertionSort (· ≤ ·) texts).sublist (List.dedup_sublist _)
  exact (sorted.and (List.nodup_dedup _)).imp fun both => lt_of_le_of_ne both.1 both.2

theorem sortedUnique_idem (texts : List String) : sortedUnique (sortedUnique texts) = sortedUnique texts :=
  sortedUnique_of_lt (sortedUnique_increasing texts)

theorem sortedUnique_eq_nil_iff {texts : List String} : sortedUnique texts = [] ↔ texts = [] := by
  rw [List.eq_nil_iff_forall_not_mem, List.eq_nil_iff_forall_not_mem]
  simp only [mem_sortedUnique]

/-- Sorted texts without repetition are what the set holds. -/
theorem sortedUnique_ext {left right : List String} (left_sorted : left = sortedUnique left)
    (right_sorted : right = sortedUnique right) : (∀ text, text ∈ left ↔ text ∈ right) ↔ left = right := by
  constructor
  · intro same
    have first := sortedUnique_increasing left
    have second := sortedUnique_increasing right
    rw [← left_sorted] at first
    rw [← right_sorted] at second
    exact (List.perm_ext_iff_of_nodup (first.imp ne_of_lt) (second.imp ne_of_lt)).mpr same |>.eq_of_pairwise
      (fun _ _ _ _ one other => absurd (one.trans other) (lt_irrefl _)) first second
  · rintro rfl text
    exact Iff.rfl

theorem isComplete_iff {ids expectedIds reasons : List String} :
    isComplete ids expectedIds reasons = true ↔ (∀ id, id ∈ ids ↔ id ∈ expectedIds) ∧ reasons = [] := by
  simp only [isComplete, Bool.and_eq_true, List.all_eq_true, List.contains_iff_mem, List.isEmpty_iff]
  apply and_congr_left
  intro _
  exact ⟨fun both id => ⟨both.1 id, both.2 id⟩, fun same => ⟨fun id => (same id).mp, fun id => (same id).mpr⟩⟩

end Sorting

section Inversions

theorem checkText_ok {value : Json} {ok : String → Bool} {message : String}
    {found : {text : String // ok text = true}}
    (checked : checkText value ok message = .ok found) : value = .str found.1 := by
  cases value with
  | str text =>
    by_cases proper : ok text = true
    · rw [checkText_str proper] at checked
      cases checked
      rfl
    · rw [checkText, dif_neg proper] at checked
      cases checked
  | _ => cases checked

theorem checkTexts_ok {ok : String → Bool} {message : String} {texts : List String}
    {found : {texts : List String // ∀ text ∈ texts, ok text = true}}
    (checked : checkTexts ok message (texts.map .str) = .ok found) : found.1 = texts := by
  induction texts generalizing found with
  | nil =>
    cases checked
    rfl
  | cons text texts ih =>
    obtain ⟨first, head, rest⟩ := bind_ok checked
    obtain ⟨others, tail, done⟩ := bind_ok rest
    cases done
    have same := checkText_ok head
    cases same
    exact congrArg _ (ih tail)

theorem ResultEntry.make_fields {logicalId path sha256 : String} {size : Nat} {entry : ResultEntry}
    (made : ResultEntry.make (.str logicalId) (.str path) (.int size) (.str sha256) = .ok entry) :
    entry.logicalId = logicalId ∧ entry.path = path ∧ entry.sizeBytes = size ∧ entry.sha256 = sha256 := by
  obtain ⟨id, identified, rest⟩ := bind_ok made
  obtain ⟨_, _, rest⟩ := bind_ok rest
  obtain ⟨found, placed, rest⟩ := bind_ok rest
  obtain ⟨_, sized, rest⟩ := bind_ok rest
  obtain ⟨digest, hashed, done⟩ := bind_ok rest
  cases done
  cases sized
  have id_same := checkText_ok identified
  have path_same := checkText_ok placed
  have digest_same := checkText_ok hashed
  cases id_same
  cases path_same
  cases digest_same
  exact ⟨rfl, rfl, rfl, rfl⟩

variable {fromisoformat : String → Option Bool}

theorem ResultManifest.make_fields {field : String → Json} {ids reasons : List String} {entries : List ResultEntry}
    {manifest : ResultManifest fromisoformat}
    (made : ResultManifest.make field (ids.map .str) entries (reasons.map .str) = .ok manifest) :
    manifest.expectedIds = ids ∧ manifest.entries = entries ∧ manifest.incompleteReasons = reasons ∧
      field "run_id" = .str manifest.runId ∧ field "run_semantic_hash" = .str manifest.runSemanticHash ∧
      field "deployment_plan_hash" = .str manifest.deploymentPlanHash := by
  obtain ⟨_, _, rest⟩ := bind_ok made
  obtain ⟨run, named, rest⟩ := bind_ok rest
  obtain ⟨semantic, hashed, rest⟩ := bind_ok rest
  obtain ⟨plan, planned, rest⟩ := bind_ok rest
  obtain ⟨_, _, rest⟩ := bind_ok rest
  obtain ⟨_, _, rest⟩ := bind_ok rest
  obtain ⟨_, _, rest⟩ := bind_ok rest
  obtain ⟨_, _, rest⟩ := bind_ok rest
  obtain ⟨_, _, rest⟩ := bind_ok rest
  obtain ⟨expected, listed, rest⟩ := bind_ok rest
  obtain ⟨said, reasoned, rest⟩ := bind_ok rest
  obtain ⟨_, _, rest⟩ := bind_ok rest
  obtain ⟨_, _, rest⟩ := bind_ok rest
  obtain ⟨_, _, rest⟩ := bind_ok rest
  obtain ⟨_, _, done⟩ := bind_ok rest
  cases done
  exact ⟨checkTexts_ok listed, rfl, checkTexts_ok reasoned, checkText_ok named, checkText_ok hashed,
    checkText_ok planned⟩

end Inversions

section Hashing

variable {tree : FileTree UInt8} {cwd : AbsPath} {root : Path} {entry : ResultEntry}

/-- An entry made of a file opens, from the root, to what it records. -/
theorem fromFile_recorded {logicalId : String} {path : Path}
    (made : ResultEntry.fromFile tree cwd logicalId path root = .ok entry) :
    entry.logicalId = logicalId ∧ (abspath cwd root).double = false ∧ Recorded tree (abspath cwd root) entry := by
  rw [ResultEntry.fromFile] at made
  split at made
  · cases made
  · rename_i within
    obtain ⟨single, rest, split⟩ := inside_iff.mp (not_not.mp within)
    cases hashed : regularFileIdentity tree (abspath cwd path) with
    | error exc =>
      rw [hashed] at made
      cases made
    | ok found =>
      obtain ⟨size, digest⟩ := found
      rw [hashed] at made
      obtain ⟨id, written, sized, digested⟩ := ResultEntry.make_fields made
      refine ⟨id, single, ?_⟩
      have below : rest ≠ [] := by
        rintro rfl
        have here : relpath (abspath cwd path) (abspath cwd root) = ['.'] := by
          have shared : commonNames (abspath cwd root).names (abspath cwd root).names = (abspath cwd root).names :=
            commonNames_prefix.mpr (List.prefix_refl _)
          rw [relpath, ← split, List.append_nil]
          simp only [shared, Nat.sub_self, List.replicate_zero, List.nil_append, List.drop_length]
          rfl
        have placed := entry.placed
        rw [written, here] at placed
        exact absurd placed (by decide)
      have names : (candidate (abspath cwd root) entry.path).names = (abspath cwd path).names := by
        rw [(candidate_names entry.placed _).2, written, relpath_inside split.symm below, split]
      rw [Recorded, sized, digested, regularFileIdentity_ok_iff, names]
      exact regularFileIdentity_ok_iff.mp hashed

theorem materialize_recorded (items : List (String × Path)) :
    ∀ entry ∈ (materialize tree cwd root items).1,
      (abspath cwd root).double = false ∧ Recorded tree (abspath cwd root) entry := by
  induction items with
  | nil => exact fun _ member => nomatch member
  | cons item rest ih =>
    intro entry member
    rw [materialize] at member
    split at member
    · rename_i made
      rcases List.mem_cons.mp member with rfl | later
      · exact (fromFile_recorded made).2
      · exact ih entry later
    · exact ih entry member

theorem materialize_ids (items : List (String × Path)) :
    ((materialize tree cwd root items).1.map ResultEntry.logicalId).Sublist (items.map Prod.fst) := by
  induction items with
  | nil => exact List.Sublist.refl _
  | cons item rest ih =>
    rw [materialize]
    split
    · rename_i made
      rw [List.map_cons, List.map_cons, (fromFile_recorded made).1]
      exact ih.cons_cons _
    · exact ih.cons _

theorem isReason_of_mem {text : String} {c : Char} (member : c ∈ text.toList) (shown : isSpace c = false) :
    isReason text = true := by
  apply decide_eq_true
  intro blank
  rw [strip, List.reverse_eq_nil_iff, List.dropWhile_eq_nil_iff] at blank
  have trimmed : text.toList.dropWhile isSpace = [] := by
    cases kept : text.toList.dropWhile isSpace with
    | nil => rfl
    | cons first rest =>
      have stops := List.head?_dropWhile_not isSpace text.toList
      rw [kept] at stops blank
      have space := blank first (List.mem_reverse.mpr List.mem_cons_self)
      change isSpace first = false at stops
      rw [stops] at space
      cases space
  rw [List.dropWhile_eq_nil_iff] at trimmed
  rw [trimmed c member] at shown
  cases shown

theorem materialize_reasons (items : List (String × Path)) :
    ∀ reason ∈ (materialize tree cwd root items).2, isReason reason = true := by
  induction items with
  | nil => exact fun _ member => nomatch member
  | cons item rest ih =>
    intro reason member
    rw [materialize] at member
    split at member
    · exact ih reason member
    · rcases List.mem_cons.mp member with rfl | later
      · refine @isReason_of_mem _ 'c' ?_ (by decide)
        simp only [String.toList_append]
        exact List.mem_append_left _ (List.mem_append_right _ (by decide))
      · exact ih reason later

end Hashing

section Building

theorem addMissing_mem {reasons missing : List String} {reason : String}
    (member : reason ∈ missing.foldl addMissing reasons) : reason ∈ reasons ∨ isReason reason = true := by
  induction missing generalizing reasons with
  | nil => exact Or.inl member
  | cons id rest ih =>
    rcases ih member with before | proper
    · rw [addMissing] at before
      split at before
      · exact Or.inl before
      · rcases List.mem_append.mp before with given | added
        · exact Or.inl given
        · obtain rfl := List.mem_singleton.mp added
          refine Or.inr (@isReason_of_mem _ 'r' ?_ (by decide))
          simp only [String.toList_append]
          exact List.mem_append_left _ (List.mem_append_left _ (by decide))
    · exact Or.inr proper

theorem addMissing_kept {reasons missing : List String} {reason : String} (given : reason ∈ reasons) :
    reason ∈ missing.foldl addMissing reasons := by
  induction missing generalizing reasons with
  | nil => exact given
  | cons id rest ih =>
    apply ih
    rw [addMissing]
    split
    · exact given
    · exact List.mem_append_left _ given

theorem keys_increasing (entries : Dict String Path) : ((sortedItems entries).map Prod.fst).Pairwise (· < ·) := by
  have sorted : (sortedItems entries).Pairwise fun left right => left.1 ≤ right.1 :=
    List.pairwise_insertionSort (fun left right : String × Path => left.1 ≤ right.1) entries.entries
  have distinct : ((sortedItems entries).map Prod.fst).Nodup :=
    ((List.perm_insertionSort _ entries.entries).map Prod.fst).nodup_iff.mpr entries.nodup
  rw [List.pairwise_map]
  exact (sorted.and (List.pairwise_map.mp distinct)).imp fun both => lt_of_le_of_ne both.1 both.2

variable {fromisoformat : String → Option Bool} {tree : FileTree UInt8} {cwd : AbsPath} {plan : RunPlan}
  {entries : Dict String Path} {expectedIds reasons : List String} {now : String}

theorem isComplete_sorted (ids expectedIds reasons : List String) :
    isComplete ids expectedIds reasons = isComplete ids (sortedUnique expectedIds) (sortedUnique reasons) := by
  rw [Bool.eq_iff_iff, isComplete_iff, isComplete_iff, sortedUnique_eq_nil_iff]
  simp only [mem_sortedUnique]

/-- The manifest is made where the expected ids are logical ids and every reason says something. -/
theorem buildManifest_succeeds (ids : ∀ id ∈ expectedIds, isLogicalId id = true)
    (said : ∀ reason ∈ reasons, isReason reason = true) (dated : nonEmpty now = true)
    (zoned : fromisoformat (zuluOffset now) = some true) :
    ∃ manifest : ResultManifest fromisoformat,
      buildManifest tree cwd plan entries expectedIds reasons now = .ok manifest := by
  let hashed := materialize tree cwd plan.resultsDir (sortedItems entries)
  let observed := hashed.1.map ResultEntry.logicalId
  let missing := sortedUnique (expectedIds.filter fun id => id ∉ observed)
  let manifestReasons := missing.foldl addMissing (reasons ++ hashed.2)
  have increasing : observed.Pairwise (· < ·) := (keys_increasing entries).sublist (materialize_ids _)
  have ordered : hashed.1.insertionSort (fun left right => left.logicalId ≤ right.logicalId) = hashed.1 := by
    apply List.Pairwise.insertionSort_eq
    exact (List.pairwise_map.mp increasing).imp le_of_lt
  have reasoned : ∀ reason ∈ manifestReasons, isReason reason = true := by
    intro reason member
    rcases addMissing_mem member with given | proper
    · rcases List.mem_append.mp given with before | unhashed
      · exact said reason before
      · exact materialize_reasons _ reason unhashed
    · exact proper
  let manifest : ResultManifest fromisoformat := {
    runId := plan.runId
    runSemanticHash := plan.runSemanticHash
    deploymentPlanHash := plan.deploymentPlanHash
    expectedIds := sortedUnique expectedIds
    entries := hashed.1
    incompleteReasons := sortedUnique manifestReasons
    generatedAt := now
    complete := isComplete observed expectedIds manifestReasons
    manifestHash := ""
    named := plan.named
    semantic := plan.semantic
    planned := plan.planned
    dated
    zoned
    hashed := rfl
    expected := fun id member => ids id (mem_sortedUnique.mp member)
    reasoned := fun reason member => reasoned reason (mem_sortedUnique.mp member)
    expectedSorted := (sortedUnique_idem _).symm
    entriesSorted := (sortedUnique_of_lt increasing).symm
    reasonsSorted := (sortedUnique_idem _).symm
    decided := isComplete_sorted _ _ _ }
  have made := @ResultManifest.make_of _ manifest
    (fieldOf [("schema_version", .int schemaVersion), ("run_id", .str plan.runId),
      ("run_semantic_hash", .str plan.runSemanticHash), ("deployment_plan_hash", .str plan.deploymentPlanHash),
      ("generated_at", .str now), ("complete", .bool (isComplete observed expectedIds manifestReasons)),
      ("manifest_hash", .str "")]) rfl rfl rfl rfl rfl rfl rfl
  refine ⟨manifest.finalize, ?_⟩
  rw [buildManifest]
  change ResultManifest.make _ _
    (hashed.1.insertionSort fun left right => left.logicalId ≤ right.logicalId) _ >>= _ = _
  rw [ordered]
  exact ok_bind made _

/-- What a manifest that was made says, and of which files. -/
theorem buildManifest_facts {manifest : ResultManifest fromisoformat}
    (built : buildManifest tree cwd plan entries expectedIds reasons now = .ok manifest) :
    (manifest.Finalized ∧ manifest.runId = plan.runId ∧ manifest.runSemanticHash = plan.runSemanticHash ∧
      manifest.deploymentPlanHash = plan.deploymentPlanHash) ∧
      (∀ entry ∈ manifest.entries, (abspath cwd plan.resultsDir).double = false ∧
        Recorded tree (abspath cwd plan.resultsDir) entry) ∧
      (∀ id ∈ expectedIds, isLogicalId id = true) ∧ ∀ reason ∈ reasons, isReason reason = true := by
  obtain ⟨made, assembled, done⟩ := bind_ok built
  cases done
  obtain ⟨listed, hashed, said, run, semantic, planned⟩ := ResultManifest.make_fields assembled
  refine ⟨⟨rfl, ?_, ?_, ?_⟩, ?_, ?_, ?_⟩
  · exact (Json.str.inj run).symm
  · exact (Json.str.inj semantic).symm
  · exact (Json.str.inj planned).symm
  · intro entry member
    change entry ∈ made.entries at member
    rw [hashed, List.mem_insertionSort] at member
    exact materialize_recorded _ entry member
  · intro id member
    apply made.expected
    rw [listed]
    exact mem_sortedUnique.mpr member
  · intro reason member
    apply made.reasoned
    rw [said]
    exact mem_sortedUnique.mpr (addMissing_kept (List.mem_append_left _ member))

end Building

end ExaServe.State.Results
