import ExaServe.Compat.Receipt
import ExaServe.Lib.Dict
import ExaServe.Lib.JsonIndented
import ExaServe.State.ResultPaths
import ExaServe.State.Status

namespace ExaServe.State.Results

open Lib Lib.FileTree Control Plan Mounts
open Compat.RawReceipt (sortedUnique)
open Json (fieldOf)

abbrev Bytes := List UInt8

section Checks

/-- A check of a constructor, with what it found out. -/
def provided (fact : Prop) [Decidable fact] (message : String) : Except String (PLift fact) :=
  if holds : fact then .ok ⟨holds⟩ else .error message

def checkText (value : Json) (ok : String → Bool) (message : String) :
    Except String {text : String // ok text = true} :=
  match value with
  | .str text => if proper : ok text = true then .ok ⟨text, proper⟩ else .error message
  | _ => .error message

def checkTexts (ok : String → Bool) (message : String) :
    List Json → Except String {texts : List String // ∀ text ∈ texts, ok text = true}
  | [] => .ok ⟨[], fun _ member => by cases member⟩
  | value :: rest => do
    let first ← checkText value ok message
    let others ← checkTexts ok message rest
    .ok ⟨first.1 :: others.1, List.forall_mem_cons.mpr ⟨first.2, others.2⟩⟩

def checkBool (value : Json) (message : String) : Except String Bool :=
  match value with
  | .bool flag => .ok flag
  | _ => .error message

/-- A nonnegative integer that is no boolean. -/
def checkSize (value : Json) (message : String) : Except String Nat :=
  match value with
  | .int (.ofNat size) => .ok size
  | _ => .error message

def isLogicalChar (c : Char) : Bool := c.isAlphanum || ['.', '_', ':', '/', '-'].contains c

/-- `_LOGICAL_ID.fullmatch(text)` -/
def isLogicalId (text : String) : Bool :=
  match text.toList with
  | [] => false
  | c :: rest => c.isAlphanum && decide (rest.length ≤ 127) && rest.all isLogicalChar

def nonEmpty (text : String) : Bool := text ≠ ""

/-- `item.strip()` is not empty. -/
def isReason (text : String) : Bool := strip text.toList ≠ []

def hashOrEmpty (text : String) : Bool := text = "" || isSha256Hex text

def repr (text : String) : String := Json.reprText (.str text)

end Checks

section Files

def describe (errno : Errno) (shown : String) : String :=
  match errno with
  | .noEntry => s!"[Errno 2] No such file or directory: {repr shown}"
  | .notDirectory => s!"[Errno 20] Not a directory: {repr shown}"
  | .loop => s!"[Errno 40] Too many levels of symbolic links: {repr shown}"

/-- No name holds the character that the system's calls do not take. -/
def Passable (names : List Name) : Prop := ∀ name ∈ names, '\x00' ∉ name

instance (names : List Name) : Decidable (Passable names) := inferInstanceAs (Decidable (∀ name ∈ names, _))

/-- `regular_file_reader`: the last name may not be a link (`O_NOFOLLOW`), the ones before it may. -/
def regularFile (tree : FileTree UInt8) (start directory : List Name) (name : Name) (shown : String) :
    Except String Bytes :=
  -- a name with a null byte is refused before the call; no tree has one
  match tree.nodeAt start directory name with
  | .ok (.file content) => .ok content
  | .ok (.link _) => .error (describe .loop shown)
  | .ok _ => .error s!"artifact is not a regular, non-symlink file: {shown}"
  | .error errno => .error (describe errno shown)

/-- `_regular_file_identity` of a normalized path: its size and SHA-256. -/
def regularFileIdentity (tree : FileTree UInt8) (path : AbsPath) : Except String (Nat × String) :=
  let shown := String.ofList path.text
  match path.names.getLast? with
  | none => .error s!"artifact is not a regular, non-symlink file: {shown}"
  | some name => do
    let content ← regularFile tree [] path.names.dropLast name shown
    .ok (content.length, Sha256.hexdigest content)

/-- The path of a file: its directory, as it was given, and its name. -/
structure FilePath where
  directory : Path
  name : Name
  proper : IsName name

def FilePath.text (path : FilePath) : String :=
  String.ofList (List.replicate path.directory.slashes '/' ++ ['/'].intercalate (path.directory.names ++ [path.name]))

/-- `strict_json_load_path` -/
def strictJsonLoadPath (tree : FileTree UInt8) (cwd : AbsPath) (path : FilePath) : Except String Json := do
  let content ← regularFile tree (path.directory.start cwd) path.directory.names path.name path.text
  match (decodeUtf8 content).bind fun text => Json.loads (universalNewlines text) with
  | some value => .ok value
  | none => .error "the file is no strict JSON"

/-- Where an attempt to publish goes wrong: the temporary file cannot be written or
    linked, or the directory cannot be synced afterwards. -/
structure Faults where
  unwritable : Bool := false
  unsynced : Bool := false

inductive CreateError where
  | fileExists
  | os (message : String)

/-- `atomic_create_bytes`: the temporary file lies beside the normalized path, its link gets the name as given. -/
def atomicCreate (faults : Faults) (tree : FileTree UInt8) (cwd : AbsPath) (path : FilePath) (content : Bytes) :
    FileTree UInt8 × Except CreateError Unit :=
  if ¬ Passable (path.directory.names ++ [path.name]) then (tree, .error (.os "embedded null byte"))
  else match tree.walk maxLinks [] (abspath cwd path.directory).names with
  | .error errno => (tree, .error (.os (describe errno path.text)))
  | .ok _ =>
    if faults.unwritable then (tree, .error (.os "the temporary file was not written"))
    else match tree.walk maxLinks (path.directory.start cwd) path.directory.names with
      | .error errno => (tree, .error (.os (describe errno path.text)))
      | .ok reached =>
        match tree (reached.2 ++ [path.name]) with
        | some _ => (tree, .error .fileExists)
        | none =>
          (Function.update tree (reached.2 ++ [path.name]) (some (.file content)),
            if faults.unsynced then .error (.os "the directory was not synced") else .ok ())

end Files

section Entries

structure ResultEntry where
  logicalId : String
  path : String
  sizeBytes : Nat
  sha256 : String
  identified : isLogicalId logicalId = true
  placed : isEntryPath path = true
  hashed : isSha256Hex sha256 = true
  deriving DecidableEq

/-- `ResultEntry(...)` with any values. -/
def ResultEntry.make (logicalId path sizeBytes sha256 : Json) : Except String ResultEntry := do
  let ⟨logicalId, identified⟩ ← checkText logicalId isLogicalId
    s!"invalid result logical ID {Json.reprText logicalId}"
  let _ ← checkText path nonEmpty "result entry path must be non-empty text"
  let ⟨path, placed⟩ ← checkText path isEntryPath
    s!"result entry path must be normalized and relative: {Json.reprText path}"
  let sizeBytes ← checkSize sizeBytes "result entry size_bytes must be a nonnegative integer"
  let ⟨sha256, hashed⟩ ← checkText sha256 isSha256Hex "result entry sha256 must be SHA-256"
  .ok { logicalId, path, sizeBytes, sha256, identified, placed, hashed }

def ResultEntry.fieldNames : List String := ["logical_id", "path", "size_bytes", "sha256"]

def ResultEntry.fields (entry : ResultEntry) : List (String × Json) :=
  [("logical_id", .str entry.logicalId), ("path", .str entry.path), ("size_bytes", .int entry.sizeBytes),
    ("sha256", .str entry.sha256)]

/-- `ResultEntry(**entry)` -/
def ResultEntry.ofJson : Json → Except String ResultEntry
  | .obj fields =>
    if Json.sameNames fields ResultEntry.fieldNames then
      ResultEntry.make (fieldOf fields "logical_id") (fieldOf fields "path") (fieldOf fields "size_bytes")
        (fieldOf fields "sha256")
    else .error "the fields are not those of ResultEntry"
  | _ => .error "the argument after ** must be a mapping"

/-- `ResultEntry.from_file` -/
def ResultEntry.fromFile (tree : FileTree UInt8) (cwd : AbsPath) (logicalId : String) (path root : Path) :
    Except String ResultEntry :=
  let absolute := abspath cwd path
  let root := abspath cwd root
  if ¬ Inside root absolute then .error s!"result {repr logicalId} escapes the result bundle"
  else match regularFileIdentity tree absolute with
    | .error exc => .error s!"result {repr logicalId} must be an available regular, non-symlink file: {exc}"
    | .ok (size, digest) =>
      ResultEntry.make (.str logicalId) (.str (String.ofList (relpath absolute root))) (.int size) (.str digest)

end Entries

section Manifests

-- what `datetime.fromisoformat` of the running Python finds in a text: nothing, or whether the time has a timezone
variable (fromisoformat : String → Option Bool)

def schemaVersion : Int := 2

/-- `text.replace("Z", "+00:00")` -/
def zuluOffset (text : String) : String :=
  String.ofList (text.toList.flatMap fun c => if c = 'Z' then "+00:00".toList else [c])

def checkSchema : Json → Except String Unit
  | .int version => if version = schemaVersion then .ok () else .error "unsupported result manifest schema"
  | _ => .error "unsupported result manifest schema"

/-- The entries are exactly the expected ones, and nothing is said against them. -/
def isComplete (ids expectedIds reasons : List String) : Bool :=
  (ids.all (expectedIds.contains ·) && expectedIds.all (ids.contains ·)) && reasons.isEmpty

structure ResultManifest where
  runId : String
  runSemanticHash : String
  deploymentPlanHash : String
  expectedIds : List String
  entries : List ResultEntry
  incompleteReasons : List String
  generatedAt : String
  complete : Bool
  manifestHash : String
  named : nonEmpty runId = true
  semantic : isSha256Hex runSemanticHash = true
  planned : isSha256Hex deploymentPlanHash = true
  dated : nonEmpty generatedAt = true
  zoned : fromisoformat (zuluOffset generatedAt) = some true
  hashed : hashOrEmpty manifestHash = true
  expected : ∀ id ∈ expectedIds, isLogicalId id = true
  reasoned : ∀ reason ∈ incompleteReasons, isReason reason = true
  expectedSorted : expectedIds = sortedUnique expectedIds
  entriesSorted : entries.map ResultEntry.logicalId = sortedUnique (entries.map ResultEntry.logicalId)
  reasonsSorted : incompleteReasons = sortedUnique incompleteReasons
  decided : complete = isComplete (entries.map ResultEntry.logicalId) expectedIds incompleteReasons
  deriving DecidableEq

variable {fromisoformat}

/-- `ResultManifest(...)` with any values, the sequences as tuples. -/
def ResultManifest.make (field : String → Json) (expectedIds : List Json) (entries : List ResultEntry)
    (incompleteReasons : List Json) : Except String (ResultManifest fromisoformat) := do
  checkSchema (field "schema_version")
  let ⟨runId, named⟩ ← checkText (field "run_id") nonEmpty "result manifest identity is incomplete"
  let ⟨runSemanticHash, semantic⟩ ← checkText (field "run_semantic_hash") isSha256Hex
    "run_semantic_hash must be SHA-256"
  let ⟨deploymentPlanHash, planned⟩ ← checkText (field "deployment_plan_hash") isSha256Hex
    "deployment_plan_hash must be SHA-256"
  let ⟨generatedAt, dated⟩ ← checkText (field "generated_at") nonEmpty "generated_at must be an ISO-8601 timestamp"
  let _ ← provided (fromisoformat (zuluOffset generatedAt) ≠ none) "generated_at must be an ISO-8601 timestamp"
  let ⟨zoned⟩ ← provided (fromisoformat (zuluOffset generatedAt) = some true) "generated_at must include a timezone"
  let complete ← checkBool (field "complete") "complete must be a boolean"
  let ⟨manifestHash, hashed⟩ ← checkText (field "manifest_hash") hashOrEmpty "manifest_hash must be empty or SHA-256"
  let ⟨expectedIds, expected⟩ ← checkTexts isLogicalId "expected_ids must contain valid logical IDs" expectedIds
  let ⟨incompleteReasons, reasoned⟩ ← checkTexts isReason "incomplete_reasons must contain non-empty strings"
    incompleteReasons
  let ⟨expectedSorted⟩ ← provided (expectedIds = sortedUnique expectedIds) "expected_ids must be sorted and unique"
  let ⟨entriesSorted⟩ ← provided
    (entries.map ResultEntry.logicalId = sortedUnique (entries.map ResultEntry.logicalId))
    "result entries must be sorted and have unique logical IDs"
  let ⟨reasonsSorted⟩ ← provided (incompleteReasons = sortedUnique incompleteReasons)
    "incomplete_reasons must be sorted and unique"
  let ⟨decided⟩ ← provided
    (complete = isComplete (entries.map ResultEntry.logicalId) expectedIds incompleteReasons)
    "complete flag disagrees with expected entries/reasons"
  .ok { runId, runSemanticHash, deploymentPlanHash, expectedIds, entries, incompleteReasons, generatedAt, complete,
        manifestHash, named, semantic, planned, dated, zoned, hashed, expected, reasoned, expectedSorted,
        entriesSorted, reasonsSorted, decided }

namespace ResultManifest

def fieldNames : List String :=
  ["schema_version", "run_id", "run_semantic_hash", "deployment_plan_hash", "expected_ids", "entries",
    "incomplete_reasons", "generated_at", "complete", "manifest_hash"]

def canonical (manifest : ResultManifest fromisoformat) : List (String × Json) :=
  [("schema_version", .int schemaVersion), ("run_id", .str manifest.runId),
    ("run_semantic_hash", .str manifest.runSemanticHash), ("deployment_plan_hash", .str manifest.deploymentPlanHash),
    ("expected_ids", .arr (manifest.expectedIds.map .str)),
    ("entries", .arr (manifest.entries.map fun entry => .obj entry.fields)),
    ("incomplete_reasons", .arr (manifest.incompleteReasons.map .str)), ("generated_at", .str manifest.generatedAt),
    ("complete", .bool manifest.complete)]

/-- `asdict(manifest)` -/
def fields (manifest : ResultManifest fromisoformat) : List (String × Json) :=
  manifest.canonical ++ [("manifest_hash", .str manifest.manifestHash)]

def computeHash (manifest : ResultManifest fromisoformat) : String := canonicalHash (.obj manifest.canonical)

/-- What `finalize` leaves: the hash is that of the rest. -/
def Finalized (manifest : ResultManifest fromisoformat) : Prop := manifest.manifestHash = manifest.computeHash

instance (manifest : ResultManifest fromisoformat) : Decidable manifest.Finalized :=
  inferInstanceAs (Decidable (_ = _))

def finalize (manifest : ResultManifest fromisoformat) : ResultManifest fromisoformat :=
  { manifest with
    manifestHash := manifest.computeHash
    hashed := by
      rw [hashOrEmpty, computeHash, isSha256Hex_canonicalHash, Bool.or_true] }

end ResultManifest

/-- The items `tuple(value)` takes from a decoded value. -/
def iterate : Json → Except String (List Json)
  | .arr items => .ok items
  | .str text => .ok (text.toList.map fun c => .str (String.singleton c))
  | .obj fields => .ok (fields.map fun field => .str field.1)
  | _ => .error "the object is not iterable"

/-- The value as a manifest, before its hash and its files are looked at. -/
def decodeManifest (raw : Json) : Except String (ResultManifest fromisoformat) :=
  match raw with
  | .obj fields =>
    if Json.sameNames fields ResultManifest.fieldNames then do
      let items ← iterate (fieldOf fields "entries")
      let entries ← items.mapM ResultEntry.ofJson
      let expectedIds ← iterate (fieldOf fields "expected_ids")
      let incompleteReasons ← iterate (fieldOf fields "incomplete_reasons")
      ResultManifest.make (fieldOf fields) expectedIds entries incompleteReasons
    else .error "result manifest shape mismatch"
  | _ => .error "result manifest shape mismatch"

def verifyEntry (tree : FileTree UInt8) (root : AbsPath) (entry : ResultEntry) : Except String Unit :=
  let found := candidate root entry.path
  if ¬ Inside root found then
    .error s!"result {entry.logicalId} unavailable: result {entry.logicalId} escapes the result bundle"
  else match regularFileIdentity tree found with
    | .error exc => .error s!"result {entry.logicalId} unavailable: {exc}"
    | .ok (size, digest) =>
      if size ≠ entry.sizeBytes ∨ digest ≠ entry.sha256 then .error s!"result {entry.logicalId} content mismatch"
      else .ok ()

/-- `load_result_manifest` -/
def loadResultManifest (tree : FileTree UInt8) (cwd : AbsPath) (path : FilePath) (verifyFiles : Bool) :
    Except String (ResultManifest fromisoformat) := do
  let raw ← (strictJsonLoadPath tree cwd path).mapError fun exc => s!"could not read result manifest: {exc}"
  let manifest ← (decodeManifest raw).mapError fun exc => s!"invalid result manifest: {exc}"
  let _ ← provided manifest.Finalized "result manifest hash mismatch"
  if verifyFiles then manifest.entries.forM (verifyEntry tree (abspath cwd path.directory))
  .ok manifest

/-- `write_result_manifest` -/
def writeResultManifest (faults : Faults) (tree : FileTree UInt8) (cwd : AbsPath) (path : FilePath)
    (manifest : ResultManifest fromisoformat) : FileTree UInt8 × Except String Unit :=
  if ¬ manifest.Finalized then (tree, .error "refusing unfinalized result manifest")
  else match atomicCreate faults tree cwd path (Json.fileBytes (.obj manifest.fields)) with
    | (after, .ok _) => (after, .ok ())
    | (after, .error (.os message)) => (after, .error message)
    | (after, .error .fileExists) =>
      (after, do
        let existing : ResultManifest fromisoformat ← loadResultManifest after cwd path false
        if existing.manifestHash = manifest.manifestHash then .ok ()
        else .error "refusing to replace an immutable result manifest")

end Manifests

end ExaServe.State.Results
