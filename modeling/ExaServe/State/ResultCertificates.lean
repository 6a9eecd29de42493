import ExaServe.State.ResultPublishing

namespace ExaServe.State.Results

open Lib Lib.FileTree Control Plan Mounts
open Compat.RawReceipt (sortedUnique)

section Statements

variable {fromisoformat : String → Option Bool}

/-- No other manifest with the same hash is at the path. -/
def Unmistakable (tree : FileTree UInt8) (cwd : AbsPath) (path : FilePath)
    (manifest : ResultManifest fromisoformat) : Prop :=
  ∀ existing : ResultManifest fromisoformat, loadResultManifest tree cwd path false = .ok existing →
    existing.computeHash = manifest.computeHash → existing = manifest

/-- The name is free, in a directory that is there. -/
structure Free (tree : FileTree UInt8) (cwd : AbsPath) (path : FilePath) : Prop where
  passable : Passable (path.directory.names ++ [path.name])
  beside : ∃ reached, tree.walk maxLinks [] (abspath cwd path.directory).names = .ok reached
  free : ∃ reached, tree.walk maxLinks (path.directory.start cwd) path.directory.names = .ok reached ∧
    tree (reached.2 ++ [path.name]) = none

/-- A manifest that was written loads again, from wherever its file is then, as long as
    the listed files open to what they were. -/
def RoundTrips (manifest : ResultManifest fromisoformat) : Prop :=
  ∀ faults tree cwd path after, writeResultManifest faults tree cwd path manifest = (after, .ok ()) →
    Unmistakable tree cwd path manifest →
    ∀ content later laterCwd laterPath, Opens after cwd path content → Opens later laterCwd laterPath content →
      (∀ entry ∈ manifest.entries, Recorded later (abspath laterCwd laterPath.directory) entry) →
      (loadResultManifest later laterCwd laterPath true = .ok manifest ↔
        manifest.entries = [] ∨ (abspath laterCwd laterPath.directory).double = false)

/-- Certified files of a directory are still what they were after the directory was moved. -/
def MovesAlong (manifest : ResultManifest fromisoformat) : Prop :=
  ∀ (tree later : FileTree UInt8) (root laterRoot : AbsPath) (place new : Nat × List Name),
    tree.walk maxLinks [] root.names = .ok place → later.walk maxLinks [] laterRoot.names = .ok new →
    tree.Moved later place.2 new.2 → (∀ entry ∈ manifest.entries, Certified tree place.2 entry) →
    ∀ entry ∈ manifest.entries, Recorded later laterRoot entry

/-- Of a manifest that loads, exactly the entries are certified that no link is on the way to. -/
def CertifiesLinkless (manifest : ResultManifest fromisoformat) : Prop :=
  ∀ tree cwd path, loadResultManifest tree cwd path true = .ok manifest → ∀ entry ∈ manifest.entries,
    ∃ reached, tree.walk maxLinks [] (abspath cwd path.directory).names = .ok reached ∧
      (Certified tree reached.2 entry ↔ tree.Linkless reached.2 (entryNames entry.path).dropLast)

def CompleteExactly (manifest : ResultManifest fromisoformat) : Prop :=
  manifest.complete = true ↔
    manifest.entries.map ResultEntry.logicalId = manifest.expectedIds ∧ manifest.incompleteReasons = []

variable (fromisoformat) in
/-- Whoever publishes, with whatever. -/
inductive Call where
  | write (faults : Faults) (cwd : AbsPath) (path : FilePath) (manifest : ResultManifest fromisoformat)
  | publish (faults : Faults) (cwd : AbsPath) (plan : RunPlan) (entries : Dict String Path)
    (expectedIds reasons : List String) (now : String)

def perform (tree : FileTree UInt8) : Call fromisoformat → FileTree UInt8
  | .write faults cwd path manifest => (writeResultManifest faults tree cwd path manifest).1
  | .publish faults cwd plan entries expectedIds reasons now =>
    (@publishResultManifest fromisoformat faults tree cwd plan entries expectedIds reasons now).1

variable (fromisoformat) in
/-- Whatever was there, a published manifest or not, is there after any number of calls. -/
def NeverReplaced : Prop :=
  ∀ (calls : List (Call fromisoformat)) (tree : FileTree UInt8), tree.Extends (calls.foldl perform tree)

/-- The loader takes the manifest, and the status writer the phase that follows from it. -/
def Accepted (tree : FileTree UInt8) (cwd : AbsPath) (plan : RunPlan)
    (manifest : ResultManifest fromisoformat) : Prop :=
  loadResultManifest tree cwd plan.manifestPath true = .ok manifest ∧
    ∀ exitCode : Int, @checkTerminal fromisoformat tree cwd plan
      { phase := if manifest.complete then .succeeded else .partialResult
        exitCode := some (if manifest.complete then 0 else exitCode)
        resultManifestHash := some manifest.manifestHash } = .ok ()

variable (fromisoformat) in
/-- Every manifest that a publication leaves is accepted; on a free name one is left
    exactly where the expected ids are logical ids and every reason says something. -/
def PublicationsAccepted (plan : RunPlan) (entries : Dict String Path) (expectedIds reasons : List String)
    (now : String) : Prop :=
  ∀ tree cwd,
    (∀ faults after (manifest : ResultManifest fromisoformat),
      publishResultManifest faults tree cwd plan entries expectedIds reasons now = (after, .ok manifest) →
      Unmistakable tree cwd plan.manifestPath manifest → Accepted after cwd plan manifest) ∧
    (nonEmpty now = true → fromisoformat (zuluOffset now) = some true → Free tree cwd plan.manifestPath →
      ((∃ after, ∃ manifest : ResultManifest fromisoformat,
          publishResultManifest {} tree cwd plan entries expectedIds reasons now = (after, .ok manifest)) ↔
        (∀ id ∈ expectedIds, isLogicalId id = true) ∧ ∀ reason ∈ reasons, isReason reason = true))

end Statements

section Proofs

variable {fromisoformat : String → Option Bool} {manifest : ResultManifest fromisoformat} {tree : FileTree UInt8}
  {faults : Faults} {cwd : AbsPath} {path : FilePath} {plan : RunPlan} {entries : Dict String Path}
  {expectedIds reasons : List String} {now : String}

/-- What was written is what loads, the files aside. -/
theorem load_written {after : FileTree UInt8} {done : Unit}
    (wrote : writeResultManifest faults tree cwd path manifest = (after, .ok done))
    (sole : Unmistakable tree cwd path manifest) : loadResultManifest after cwd path false = .ok manifest := by
  obtain ⟨final, opened | ⟨existing, same, loaded, hash⟩⟩ := write_ok wrote
  · exact load_published opened final
  · have held := (load_false_iff.mp loaded).1
    rw [ResultManifest.Finalized] at held final
    rw [same, ← sole existing loaded (held.symm.trans (hash.trans final))]
    exact loaded

theorem round_trips (manifest : ResultManifest fromisoformat) : RoundTrips manifest := by
  intro faults tree cwd path after wrote sole content later laterCwd laterPath opened same recorded
  have loaded := load_same opened same (load_written wrote sole)
  rw [load_true_iff, and_iff_right loaded, verified_iff recorded]

theorem moves_along (manifest : ResultManifest fromisoformat) : MovesAlong manifest := by
  intro tree later root laterRoot place new _ arrived moved certified entry member
  exact ((certified entry member).moved moved).opens arrived

theorem certifies_linkless (manifest : ResultManifest fromisoformat) : CertifiesLinkless manifest := by
  intro tree cwd path loaded entry member
  have recorded := (verifyEntry_ok_iff.mp ((load_true_iff.mp loaded).2 entry member)).2
  obtain ⟨reached, rooted⟩ := recorded.rooted
  exact ⟨reached, rooted, certified_iff rooted recorded⟩

theorem complete_exactly (manifest : ResultManifest fromisoformat) : CompleteExactly manifest := by
  rw [CompleteExactly, manifest.decided, isComplete_iff,
    sortedUnique_ext manifest.entriesSorted manifest.expectedSorted]

theorem publish_extends : tree.Extends
    (@publishResultManifest fromisoformat faults tree cwd plan entries expectedIds reasons now).1 := by
  rw [publishResultManifest]
  split
  · exact fun _ _ found => found
  · rename_i manifest built
    have more := @write_extends _ manifest tree faults cwd plan.manifestPath
    split
    all_goals
      rename_i wrote
      rw [wrote] at more
      exact more

theorem never_replaced : NeverReplaced fromisoformat := by
  intro calls
  induction calls with
  | nil => exact fun _ _ _ found => found
  | cons call calls ih =>
    intro tree place node found
    apply ih (perform tree call)
    cases call with
    | write faults cwd path manifest => exact write_extends _ _ found
    | publish faults cwd plan entries expectedIds reasons now => exact publish_extends _ _ found

theorem publish_ok {after : FileTree UInt8}
    (published : publishResultManifest faults tree cwd plan entries expectedIds reasons now = (after, .ok manifest)) :
    buildManifest tree cwd plan entries expectedIds reasons now = .ok manifest ∧
      writeResultManifest faults tree cwd plan.manifestPath manifest = (after, .ok ()) := by
  rw [publishResultManifest] at published
  split at published
  · cases published
  · rename_i built
    split at published
    · rename_i wrote
      cases published
      exact ⟨built, wrote⟩
    · cases published

theorem Recorded.extends {later : FileTree UInt8} {root : AbsPath} {entry : ResultEntry} (more : tree.Extends later)
    (recorded : Recorded tree root entry) : Recorded later root entry := by
  obtain ⟨directory, name, content, split, opened, size, digest⟩ := regularFileIdentity_ok_iff.mp recorded
  exact regularFileIdentity_ok_iff.mpr ⟨directory, name, content, split, nodeAt_extends more opened, size, digest⟩

theorem published_accepted {after : FileTree UInt8}
    (published : publishResultManifest faults tree cwd plan entries expectedIds reasons now = (after, .ok manifest))
    (sole : Unmistakable tree cwd plan.manifestPath manifest) : Accepted after cwd plan manifest := by
  obtain ⟨built, wrote⟩ := publish_ok published
  obtain ⟨⟨_, run, semantic, planned⟩, hashed, _⟩ := buildManifest_facts built
  have more : tree.Extends after := by
    have kept := @write_extends _ manifest tree faults cwd plan.manifestPath
    rwa [wrote] at kept
  have loaded : loadResultManifest after cwd plan.manifestPath true = .ok manifest := by
    refine load_true_iff.mpr ⟨load_written wrote sole, fun entry member => ?_⟩
    obtain ⟨single, recorded⟩ := hashed entry member
    exact verifyEntry_ok_iff.mpr ⟨single, recorded.extends more⟩
  refine ⟨loaded, fun exitCode => ?_⟩
  have identity : manifest.runId = plan.runId ∧ manifest.runSemanticHash = plan.runSemanticHash ∧
      manifest.deploymentPlanHash = plan.deploymentPlanHash ∧
      some manifest.manifestHash = some manifest.manifestHash :=
    ⟨run, semantic, planned, rfl⟩
  rw [checkTerminal, loaded]
  cases complete : manifest.complete with
  | false =>
    change (provided (_ ∧ _) _ >>= _) = _
    rw [provided_ok identity]
    change (provided (manifest.complete = false) _ >>= _) = _
    rw [provided_ok complete]
    rfl
  | true =>
    change (provided (_ ∧ _) _ >>= _) = _
    rw [provided_ok identity]
    change (provided (manifest.complete = true) _ >>= _) = _
    rw [provided_ok complete]
    rfl

theorem write_free (free : Free tree cwd path) (final : manifest.Finalized) :
    ∃ after, writeResultManifest {} tree cwd path manifest = (after, .ok ()) := by
  obtain ⟨passable, ⟨_, beside⟩, reached, walked, none⟩ := free
  rw [writeResultManifest, if_neg (not_not.mpr final), atomicCreate, if_neg (not_not.mpr passable), beside]
  dsimp only
  rw [if_neg (by decide), walked]
  dsimp only
  rw [none]
  exact ⟨_, rfl⟩

theorem publication_iff (dated : nonEmpty now = true) (zoned : fromisoformat (zuluOffset now) = some true)
    (free : Free tree cwd plan.manifestPath) :
    (∃ after, ∃ manifest : ResultManifest fromisoformat,
        publishResultManifest {} tree cwd plan entries expectedIds reasons now = (after, .ok manifest)) ↔
      (∀ id ∈ expectedIds, isLogicalId id = true) ∧ ∀ reason ∈ reasons, isReason reason = true := by
  constructor
  · intro held
    obtain ⟨after, manifest, published⟩ := held
    exact (buildManifest_facts (publish_ok published).1).2.2
  · intro held
    obtain ⟨manifest, built⟩ :=
      @buildManifest_succeeds fromisoformat tree cwd plan entries _ _ _ held.1 held.2 dated zoned
    obtain ⟨after, wrote⟩ := write_free free (buildManifest_facts built).1.1
    refine ⟨after, manifest, ?_⟩
    rw [publishResultManifest, built]
    dsimp only
    rw [wrote]

end Proofs

/-- Result manifests round trip from roots with one slash in front, certify exactly what no
    link is on the way to, are complete exactly where they say so, are never replaced, and are
    published, and then accepted, exactly where the ids and the reasons are proper. -/
theorem result_manifests_certify_iff (fromisoformat : String → Option Bool) :
    (∀ manifest : ResultManifest fromisoformat, RoundTrips manifest ∧ MovesAlong manifest ∧
      CertifiesLinkless manifest ∧ CompleteExactly manifest) ∧ NeverReplaced fromisoformat ∧
    ∀ plan entries expectedIds reasons now,
      PublicationsAccepted fromisoformat plan entries expectedIds reasons now := by
  refine ⟨fun manifest => ?_, never_replaced, fun plan entries expectedIds reasons now => ?_⟩
  · exact ⟨round_trips manifest, moves_along manifest, certifies_linkless manifest, complete_exactly manifest⟩
  · intro tree cwd
    constructor
    · intro faults after manifest published sole
      exact published_accepted published sole
    · intro dated zoned free
      exact publication_iff dated zoned free

section Sample

/-- Every time has a timezone. -/
def sampleZone (_ : String) : Option Bool := some true

def samplePlan : RunPlan where
  runId := "r"
  runSemanticHash := canonicalHash .null
  deploymentPlanHash := canonicalHash .null
  resultsDir := ⟨1, [['b']], by simp [Named]⟩
  named := by decide
  semantic := isSha256Hex_canonicalHash _
  planned := isSha256Hex_canonicalHash _

def sampleRoot : AbsPath := ⟨false, [['b']], by decide⟩

def emptyBundle (path : List Name) : Option (Node UInt8) := if path = [['b']] then some .directory else none

/-- A run that produced nothing of what it should have still publishes its manifest. -/
theorem missing_result_published : ∃ after, ∃ manifest : ResultManifest sampleZone,
    publishResultManifest {} emptyBundle sampleRoot samplePlan .empty ["out"] [] "2026-01-01T00:00:00+00:00" =
      (after, .ok manifest) :=
  have free : Free emptyBundle sampleRoot samplePlan.manifestPath :=
    ⟨by decide, ⟨(40, [['b']]), rfl⟩, ⟨(40, [['b']]), rfl, rfl⟩⟩
  (((result_manifests_certify_iff sampleZone).2.2 samplePlan .empty ["out"] [] "2026-01-01T00:00:00+00:00"
    emptyBundle sampleRoot).2 (by decide) rfl free).mpr ⟨by decide, by decide⟩

/-- A directory `b` with a link `logs` to a directory beside it, and the file `out` there. -/
def sampleContent : Bytes := asciiBytes (Json.dumps (.int 0))

def sampleEntry : ResultEntry where
  logicalId := "out"
  path := "logs/out"
  sizeBytes := sampleContent.length
  sha256 := canonicalHash (.int 0)
  identified := by decide
  placed := by decide
  hashed := isSha256Hex_canonicalHash _

def sampleManifest : ResultManifest sampleZone :=
  ResultManifest.finalize {
    runId := "r"
    runSemanticHash := canonicalHash .null
    deploymentPlanHash := canonicalHash .null
    expectedIds := ["out"]
    entries := [sampleEntry]
    incompleteReasons := []
    generatedAt := "2026-01-01T00:00:00+00:00"
    complete := true
    manifestHash := ""
    named := by decide
    semantic := isSha256Hex_canonicalHash _
    planned := isSha256Hex_canonicalHash _
    dated := by decide
    zoned := rfl
    hashed := rfl
    expected := by decide
    reasoned := by decide
    expectedSorted := by decide
    entriesSorted := by decide
    reasonsSorted := by decide
    decided := by decide }

def sampleTree (path : List Name) : Option (Node UInt8) :=
  if path = [['b']] ∨ path = [['e']] then some .directory
  else if path = [['b'], "logs".toList] then some (.link ['/', 'e'])
  else if path = [['e'], "out".toList] then some (.file sampleContent)
  else if path = [['b'], "result_manifest.json".toList] then
    some (.file (Json.fileBytes (.obj sampleManifest.fields)))
  else none

theorem sampleName_proper : IsName "result_manifest.json".toList := by decide

def samplePath : FilePath := ⟨⟨1, [['b']], by simp [Named]⟩, "result_manifest.json".toList, sampleName_proper⟩

theorem sample_rooted : FileTree.walk sampleTree maxLinks [] (abspath sampleRoot samplePath.directory).names =
    .ok (40, [['b']]) := rfl

theorem sample_opens : Opens sampleTree sampleRoot samplePath (Json.fileBytes (.obj sampleManifest.fields)) := by
  refine nodeAt_ok_iff.mpr ⟨(40, [['b']]), rfl, ?_⟩
  change sampleTree [['b'], "result_manifest.json".toList] = _
  rw [sampleTree, if_neg (by decide), if_neg (by decide), if_neg (by decide), if_pos rfl]

theorem sample_loaded : loadResultManifest sampleTree sampleRoot samplePath true = .ok sampleManifest := by
  refine load_true_iff.mpr ⟨load_published sample_opens (ResultManifest.finalize_final _), ?_⟩
  intro entry member
  obtain rfl := List.mem_singleton.mp member
  refine verifyEntry_ok_iff.mpr ⟨rfl, ?_⟩
  apply (@recorded_iff _ _ _ ["logs".toList] "out".toList (by decide)).mpr
  exact ⟨(39, [['e']]), sampleContent, rfl, rfl, rfl, rfl⟩

/-- The entry `logs/out` of the bundle `/b` loads, though `logs` is a link to the directory `/e`. -/
theorem linked_directory_accepted :
    ¬ ∀ (tree : FileTree UInt8) cwd path (manifest : ResultManifest sampleZone),
      loadResultManifest tree cwd path true = .ok manifest → ∀ entry ∈ manifest.entries,
        ∃ reached, tree.walk maxLinks [] (abspath cwd path.directory).names = .ok reached ∧
          Certified tree reached.2 entry := by
  intro always
  obtain ⟨reached, rooted, certified⟩ :=
    always sampleTree sampleRoot samplePath sampleManifest sample_loaded sampleEntry List.mem_cons_self
  rw [sample_rooted] at rooted
  cases rooted
  have real := certified.reached
  rw [show (entryNames sampleEntry.path).dropLast = ["logs".toList] by decide] at real
  have linked : sampleTree ([['b']] ++ ["logs".toList]) = some (.link ['/', 'e']) := rfl
  rw [real.1] at linked
  cases linked

end Sample

end ExaServe.State.Results
