import ExaServe.Compat.Overlay.Materialize
import ExaServe.State.StrictJson

namespace ExaServe.Compat.Overlay

open Lib Plan Control
open RawReceipt (sortedUnique)
open Json (fieldOf)

variable (profile : Profile)

section Groups

/-- What the profile makes of one module. -/
structure Expected where
  module : String
  relativePath : String
  distribution : String
  version : String
  baseSourceHash : String
  patchIds : List String
  deriving DecidableEq

/-- What one patch makes of its module. -/
def Profile.mapping (patch : PatchSpec) (module : String) : Expected :=
  { module, relativePath := "modules/" ++ (profile.target patch).file
    distribution := (profile.target patch).distribution, version := (profile.target patch).version
    baseSourceHash := patch.targetSourceHash, patchIds := [] }

/-- The first of the compared values that differs. -/
def Expected.conflict (held mapped : Expected) : Option String :=
  if held.relativePath ≠ mapped.relativePath then some "relative_path"
  else if held.distribution ≠ mapped.distribution then some "distribution"
  else if held.version ≠ mapped.version then some "version"
  else if held.baseSourceHash ≠ mapped.baseSourceHash then some "base_source_hash"
  else none

/-- The turn of one patch in the loop over the selected patches. -/
def expectPatch (groups : List Expected) (patch : PatchSpec) : Except String (List Expected) := do
  let module ← moduleName (profile.target patch).file
  let mapped := profile.mapping patch module
  match groups.find? fun group => group.module = module with
  | none => .ok (groups ++ [{ mapped with patchIds := [patch.patchId] }])
  | some held =>
    match held.conflict mapped with
    | some name => .error s!"profile maps module {repr module} to conflicting {name} values"
    | none => .ok (groups.map fun group =>
        if group.module = module then { group with patchIds := group.patchIds ++ [patch.patchId] } else group)

def expectedGroups : Except String (List Expected) := do
  let groups ← profile.selected.foldlM (expectPatch profile) []
  .ok (groups.map fun group => { group with patchIds := group.patchIds.insertionSort (· ≤ ·) })

end Groups

section Entries

def textOf : Json → Option String
  | .str text => some text
  | _ => none

def intOf : Json → Option Int
  | .int value => some value
  | _ => none

def textsOf : Json → Option (List String)
  | .arr items => items.mapM textOf
  | _ => none

def entryNames : List String :=
  ["module", "relative_path", "distribution", "version", "base_source_hash", "output_source_hash", "patch_ids"]

def invalidValues : String := "overlay entry values are invalid"

/-- The values of an entry have their types and forms. -/
def Entry.WellFormed (entry : Entry) : Prop :=
  entry.module ≠ "" ∧ entry.distribution ≠ "" ∧ entry.version ≠ "" ∧ entry.patchIds ≠ [] ∧
    (∀ id ∈ entry.patchIds, id ≠ "") ∧ entry.patchIds = sortedUnique entry.patchIds ∧
    isSha256Hex entry.baseSourceHash = true ∧ isSha256Hex entry.outputSourceHash = true

instance (entry : Entry) : Decidable entry.WellFormed := inferInstanceAs (Decidable (_ ∧ _))

/-- The fields of a listed object as an entry. -/
def Entry.ofFields (fields : List (String × Json)) : Option Entry := do
  let module ← textOf (fieldOf fields "module")
  let relativePath ← textOf (fieldOf fields "relative_path")
  let distribution ← textOf (fieldOf fields "distribution")
  let version ← textOf (fieldOf fields "version")
  let patchIds ← textsOf (fieldOf fields "patch_ids")
  let baseSourceHash ← textOf (fieldOf fields "base_source_hash")
  let outputSourceHash ← textOf (fieldOf fields "output_source_hash")
  some { module, relativePath, distribution, version, baseSourceHash, outputSourceHash, patchIds }

def readEntry (raw : Json) : Except String Entry :=
  match raw with
  | .obj fields =>
    if Json.sameNames fields entryNames then (Entry.ofFields fields).elim (.error invalidValues) Except.ok
    else .error "overlay entry fields are invalid"
  | _ => .error "overlay entry fields are invalid"

def Entry.expected (entry : Entry) : Expected :=
  { module := entry.module, relativePath := entry.relativePath, distribution := entry.distribution
    version := entry.version, baseSourceHash := entry.baseSourceHash, patchIds := entry.patchIds }

variable {profile}

/-- The generated module at a path below the root. -/
def Root.moduleAt (root : Root profile) (path : List Part) : Option (Generated profile.profileId) :=
  (root.modules.find? fun module => module.1 = path).map Prod.snd

/-- The turn of one listed entry, after those before it. -/
def checkEntry (groups : List Expected) (root : Root profile) (seen : List Entry) (raw : Json) :
    Except String (List Entry) := do
  let entry ← readEntry raw
  ensure (entry.WellFormed ∧ entry.module ∉ seen.map Entry.module) invalidValues
  ensure ((groups.find? fun group => group.module = entry.module) = some entry.expected)
    s!"overlay entry does not match profile target mapping: {repr entry.module}"
  ensure (isAbsolute entry.relativePath = false ∧ "..".toList ∉ pathParts entry.relativePath)
    "overlay entry path is unsafe"
  let file ← (root.moduleAt (pathParts entry.relativePath)).elim
    (.error s!"overlay entry is unreadable: {repr entry.relativePath}") Except.ok
  ensure (Sha256.hexdigest file.bytes = entry.outputSourceHash) s!"overlay output hash mismatch for {entry.module}"
  .ok (seen ++ [entry])

end Entries

section Manifests

def manifestNames : List String :=
  ["schema_version", "profile_id", "entries", "bootstrap_source_hash", "manifest_hash"]

/-- The values that identify a manifest: the hashes of the bootstrap source and of the manifest. -/
def identity (fields : List (String × Json)) : Option (String × String) := do
  let schema ← intOf (fieldOf fields "schema_version")
  let profileId ← textOf (fieldOf fields "profile_id")
  let bootstrap ← textOf (fieldOf fields "bootstrap_source_hash")
  let hash ← textOf (fieldOf fields "manifest_hash")
  if schema = schemaVersion ∧ profileId = profile.profileId ∧ isSha256Hex bootstrap = true ∧
      isSha256Hex hash = true then some (bootstrap, hash)
  else none

variable {profile}

/-- Two lists hold the same texts. -/
def SameSet (left right : List String) : Prop := (∀ text ∈ left, text ∈ right) ∧ ∀ text ∈ right, text ∈ left

instance (left right : List String) : Decidable (SameSet left right) := inferInstanceAs (Decidable (_ ∧ _))

/-- The checks of the listed entries against the profile and the files. -/
def loadEntries (root : Root profile) (items : List Json) : Except String (List Entry) := do
  ensure (items ≠ []) "overlay manifest entries are invalid"
  let groups ← expectedGroups profile
  let entries ← items.foldlM (checkEntry groups root) []
  ensure (SameSet (entries.flatMap Entry.patchIds) (profile.selected.map PatchSpec.patchId))
    "overlay patch set mismatch"
  ensure (SameSet (entries.map Entry.module) (groups.map Expected.module)) "overlay module set mismatch"
  .ok entries

/-- `load_manifest`: the entries of the manifest below the root. -/
def loadManifest (root : Root profile) : Except String (List Entry) :=
  match State.strictJson root.manifest with
  | none => .error "overlay manifest is unreadable"
  | some (.obj fields) =>
    if Json.sameNames fields manifestNames then do
      let hashes ← (identity profile fields).elim (.error "overlay manifest identity mismatch") Except.ok
      ensure (hashes.2 = canonicalHash (.obj (fields.filter fun field => field.1 ≠ "manifest_hash")))
        "overlay manifest hash mismatch"
      ensure (Sha256.hexdigest root.bootstrap = hashes.1) "overlay bootstrap source hash mismatch"
      match fieldOf fields "entries" with
      | .arr items => loadEntries root items
      | _ => .error "overlay manifest entries are invalid"
    else .error "overlay manifest fields are invalid"
  | some _ => .error "overlay manifest fields are invalid"

end Manifests

end ExaServe.Compat.Overlay
