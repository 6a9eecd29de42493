import ExaServe.Compat.Ledger
import ExaServe.Lib.Except
import ExaServe.Lib.Grouping
import ExaServe.Lib.JsonIndented

namespace ExaServe.Compat.Overlay

open Lib Plan Control
open RawReceipt (sortedUnique)

abbrev Bytes := List UInt8

abbrev Part := List Char

section Paths

/-- The parts of `PurePosixPath(text)`. -/
def pathParts (text : String) : List Part :=
  (text.toList.splitOn '/').filter fun part => part ≠ [] ∧ part ≠ ['.']

def isAbsolute (text : String) : Bool := text.toList.head? = some '/'

/-- A name without its suffix, and the suffix: what follows the last dot, which is neither
    the first nor the last character. -/
def splitSuffix (name : Part) : Part × Part :=
  let after := (name.reverse.takeWhile (· ≠ '.')).reverse
  let stem := name.take (name.length - after.length - 1)
  if stem = [] ∨ after = [] then (name, []) else (stem, '.' :: after)

/-- Path parts are compared by their characters. -/
local instance lawfulParts : LawfulBEq Part := inferInstance

/-- The name of the file that a path ends in. -/
def fileName (relative : String) : Part := (pathParts relative).getLast?.getD []

/-- The parts of the module's name: an `__init__` stands for its directory. -/
def moduleParts (relative : String) : List Part :=
  let stem := (splitSuffix (fileName relative)).1
  (pathParts relative).dropLast ++ if stem = "__init__".toList then [] else [stem]

/-- `_module_name` -/
def moduleName (relative : String) : Except String String :=
  if (splitSuffix (fileName relative)).2 ≠ ".py".toList ∨ isAbsolute relative ∨ "..".toList ∈ pathParts relative then
    .error s!"overlay target path is not a safe Python module: {relative}"
  else if moduleParts relative = [] then .error s!"overlay target has no module name: {relative}"
  else .ok (String.ofList (['.'].intercalate (moduleParts relative)))

end Paths

section Profiles

/-- The file that a patch is for, and how the patch reaches it. -/
structure Target where
  delivery : String
  distribution : String
  version : String
  file : String
  deriving DecidableEq

/-- A compatibility profile with the targets of its patches, whose identifiers are unique. -/
structure Profile extends CompatibilityProfile where
  profileId : String
  target : PatchSpec → Target
  distinct : (patches.map PatchSpec.patchId).Nodup
  named : ∀ patch ∈ patches, patch.patchId ≠ ""
  targeted : ∀ patch ∈ patches, (target patch).distribution ≠ "" ∧ (target patch).version ≠ ""
  hashed : ∀ patch ∈ patches, isSha256Hex patch.targetSourceHash = true

/-- `_selected` -/
def Profile.selected (profile : Profile) : List PatchSpec :=
  profile.patches.filter fun patch => (profile.target patch).delivery = "generated-overlay"

/-- What patches of one target have in common. -/
structure Key where
  distribution : String
  version : String
  file : String
  sourceHash : String
  deriving DecidableEq

def Key.tuple (key : Key) : List String := [key.distribution, key.version, key.file, key.sourceHash]

def Profile.key (profile : Profile) (patch : PatchSpec) : Key :=
  { distribution := (profile.target patch).distribution, version := (profile.target patch).version
    file := (profile.target patch).file, sourceHash := patch.targetSourceHash }

/-- The patches by their targets, in the order of the targets. -/
def Profile.grouped (profile : Profile) : List (Key × List PatchSpec) :=
  (groupItems profile.key profile.selected).insertionSort fun left right => left.1.tuple ≤ right.1.tuple

end Profiles

section Suffixes

def patchCalls : List (String × String × String) :=
  [("SC-01", "exaserve._sitecustomize", "_patch_vllm_layer_lookup"),
    ("SC-02", "exaserve._sitecustomize", "_patch_vllm_bind_kv_cache"),
    ("SC-03", "exaserve._sitecustomize", "_patch_vllm_forward_context_aliases"),
    ("SC-04", "exaserve._sitecustomize", "_patch_vllm_attention_context"),
    ("SC-05", "exaserve._sitecustomize", "_patch_vllm_gpu_model_runner_attn_backend"),
    ("SC-09", "exaserve._sitecustomize", "_patch_vllm_ray_executor_channel_type"),
    ("SC-10", "exaserve._sitecustomize", "_patch_vllm_ray_executor_uncompiled_pp"),
    ("SC-11", "exaserve._sitecustomize", "_patch_ray_oneapi_selector"),
    ("SC-12", "exaserve._sitecustomize", "_patch_ray_accelerator_context"),
    ("EW-01", "exaserve._sitecustomize", "_patch_vllm_ray_worker_runtime_env"),
    ("EW-02", "exaserve._sitecustomize", "_patch_vllm_multiproc_worker_identity"),
    ("EW-03", "exaserve._sitecustomize", "_patch_vllm_ray_worker_identity"),
    ("RS-01", "exaserve._sitecustomize", "_patch_ray_serve_start_timeout"),
    ("RS-02", "exaserve.ray_start", "_patch_raylet_launch_from_environment"),
    ("RS-03", "exaserve._sitecustomize", "_patch_ray_serve_proxy_future_timeout")]

/-- The roles under which a generated module runs the adapter of the patch. -/
def adapterRoles (patch : PatchSpec) : List String :=
  sortedUnique (patch.roles ++
    if patch.roles.contains "engine_core" || patch.roles.contains "engine_worker" then ["engine_bootstrap"] else [])

def repr (text : String) : String := Json.reprText (.str text)

/-- `tuple(texts)!r` -/
def pyTuple (texts : List String) : String :=
  "(" ++ ", ".intercalate (texts.map repr) ++ if texts.length = 1 then ",)" else ")"

/-- The lines that run the adapter of a patch. -/
def adapterLines (index : Nat) (patch : PatchSpec) : Except String (List String) :=
  match patchCalls.lookup patch.patchId with
  | none => .error s!"generated-overlay patch {repr patch.patchId} has no declared source activation"
  | some (module, function) =>
    let alias_ := s!"_exaserve_overlay_adapter_{index}"
    .ok [s!"if _exaserve_overlay_os.environ.get('EXASERVE_COMPAT_ROLE') in {pyTuple (adapterRoles patch)}:",
      s!"    from {module} import {function} as {alias_}", s!"    {alias_}()", s!"    del {alias_}"]

def encodeUtf8 (text : String) : Bytes := text.toUTF8.data.toList

/-- `_suffix` -/
def suffix (profileId : String) (patches : List PatchSpec) : Except String Bytes := do
  let calls ← patches.zipIdx.mapM fun item => adapterLines item.2 item.1
  .ok (encodeUtf8 ("\n".intercalate (["", s!"# ExaServe generated compatibility overlay: {profileId}",
    "import os as _exaserve_overlay_os"] ++ calls.flatten ++ ["del _exaserve_overlay_os", ""])))

/-- A generated module: the base source, and after it the calls of its patches' adapters. -/
structure Generated (profileId : String) where
  base : Bytes
  patches : List PatchSpec
  tail : Bytes
  generated : suffix profileId patches = .ok tail

def Generated.bytes {profileId : String} (module : Generated profileId) : Bytes := module.base ++ module.tail

end Suffixes

section Materializing

/-- What a path of a distribution is resolved to. -/
inductive Located where
  /-- It does not lie below the distribution's root. -/
  | escapes
  | unreadable (message : String)
  | regular (content : Bytes) (shared : Bool)

structure Installed where
  version : String
  locate : List Part → Located

/-- `importlib.metadata.distribution` -/
abbrev Distributions := String → Option Installed

structure Entry where
  module : String
  relativePath : String
  distribution : String
  version : String
  baseSourceHash : String
  outputSourceHash : String
  patchIds : List String
  deriving DecidableEq

def Entry.fields (entry : Entry) : List (String × Json) :=
  [("module", .str entry.module), ("relative_path", .str entry.relativePath),
    ("distribution", .str entry.distribution), ("version", .str entry.version),
    ("base_source_hash", .str entry.baseSourceHash), ("output_source_hash", .str entry.outputSourceHash),
    ("patch_ids", .arr (entry.patchIds.map .str))]

/-- The generated modules below a root, by their paths. -/
abbrev Modules (profileId : String) := List (List Part × Generated profileId)

/-- A file of this path can be made: none is there, above it or below it. -/
def Free {profileId : String} (modules : Modules profileId) (path : List Part) : Prop :=
  ∀ module ∈ modules, ¬ module.1 <+: path ∧ ¬ path <+: module.1

instance {profileId : String} (modules : Modules profileId) (path : List Part) : Decidable (Free modules path) :=
  inferInstanceAs (Decidable (∀ module ∈ modules, _))

variable (profile : Profile) (distributions : Distributions)

/-- The base source of a target, where it is the one that the profile names. -/
def baseSource (key : Key) : Except String Bytes := do
  let distribution ← (distributions key.distribution).elim
    (.error s!"No package metadata was found for {key.distribution}") Except.ok
  ensure (distribution.version = key.version)
    s!"{key.distribution} version {repr distribution.version} != {repr key.version}"
  match distribution.locate (pathParts key.file) with
  | .escapes => .error s!"overlay source escapes {key.distribution}"
  | .unreadable message => .error message
  | .regular data _ => do
    ensure (Sha256.hexdigest data = key.sourceHash)
      s!"overlay base source hash mismatch for {key.distribution}:{key.file}"
    .ok data

def generate (base : Bytes) (patches : List PatchSpec) : Except String (Generated profile.profileId) :=
  match generated : suffix profile.profileId patches with
  | .error exc => .error exc
  | .ok tail => .ok { base, patches, tail, generated }

/-- The turn of one target in the loop of `materialize`. -/
def addTarget (made : List Entry × Modules profile.profileId) (group : Key × List PatchSpec) :
    Except String (List Entry × Modules profile.profileId) := do
  let base ← baseSource distributions group.1
  let patches := group.2.insertionSort fun left right => left.patchId ≤ right.patchId
  let output ← generate profile base patches
  let module ← moduleName group.1.file
  let destination := "modules".toList :: pathParts group.1.file
  ensure (Free made.2 destination) s!"[Errno 17] File exists: {repr group.1.file}"
  .ok (made.1 ++ [{ module, relativePath := "modules/" ++ group.1.file, distribution := group.1.distribution
                    version := group.1.version, baseSourceHash := group.1.sourceHash
                    outputSourceHash := Sha256.hexdigest output.bytes
                    patchIds := patches.map PatchSpec.patchId }],
    made.2 ++ [(destination, output)])

def schemaVersion : Int := 2

def manifestBody (entries : List Entry) (bootstrapSourceHash : String) : List (String × Json) :=
  [("schema_version", .int schemaVersion), ("profile_id", .str profile.profileId),
    ("entries", .arr (entries.map fun entry => .obj entry.fields)),
    ("bootstrap_source_hash", .str bootstrapSourceHash)]

def manifestFields (entries : List Entry) (bootstrapSourceHash : String) : List (String × Json) :=
  manifestBody profile entries bootstrapSourceHash ++
    [("manifest_hash", .str (canonicalHash (.obj (manifestBody profile entries bootstrapSourceHash))))]

/-- What `materialize` leaves below its root. -/
structure Root where
  modules : Modules profile.profileId
  bootstrap : Bytes
  manifest : Bytes

/-- `materialize`: the entries of the manifest and the root; an exception takes the root away again. -/
def materialize (bootstrap : String) (occupied : Bool) : Except String (List Entry × Root profile) := do
  ensure (occupied = false) "overlay destination already exists"
  let made ← profile.grouped.foldlM (addTarget profile distributions) ([], [])
  .ok (made.1, {
    modules := made.2, bootstrap := encodeUtf8 bootstrap
    manifest := Json.fileBytes (.obj (manifestFields profile made.1 (Sha256.hexdigest (encodeUtf8 bootstrap)))) })

end Materializing

end ExaServe.Compat.Overlay
