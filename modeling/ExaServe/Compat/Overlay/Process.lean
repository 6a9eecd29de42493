import ExaServe.Compat.Overlay.Manifest
import ExaServe.Lib.Run
import Mathlib.Logic.Function.Basic

namespace ExaServe.Compat.Overlay

open Lib Plan Control
open RawReceipt (sortedUnique)

abbrev Environment := String → Option String

def roleEnv : String := "EXASERVE_COMPAT_ROLE"

def rootEnv : String := "EXASERVE_COMPAT_OVERLAY_ROOT"

def localRuntimeEnv : String := "EXASERVE_LOCAL_RUNTIME_ROOT"

/-- `os.environ.get(name, "")` -/
def Environment.text (env : Environment) (name : String) : String := (env name).getD ""

section Required

variable (profile : Profile) (env : Environment)

/-- `profile.required_patch_ids(role)` under the gates of the environment. -/
def requiredIds (role : String) : List String := profile.requiredPatchIds role fun gate => env gate = some "1"

/-- `_required_patch_ids` -/
def boundIds (role : String) : List String :=
  if role = "engine_bootstrap" then requiredIds profile env "engine_core" ++ requiredIds profile env "engine_worker"
  else requiredIds profile env role

/-- Some patch of the entry is among the given ones. -/
def Entry.Touches (entry : Entry) (ids : List String) : Prop := ∃ id ∈ entry.patchIds, id ∈ ids

instance (entry : Entry) (ids : List String) : Decidable (entry.Touches ids) :=
  inferInstanceAs (Decidable (∃ id ∈ entry.patchIds, _))

end Required

section Processes

/-- What became of a target module: its body runs once, from the distribution or from the
    overlay under the role of that moment, or it raised. -/
inductive Copy where
  | base
  | overlay (source : List Part) (outputHash : String) (role : Option String)
  | failed
  deriving DecidableEq

/-- The module is in `sys.modules`. -/
def Copy.loaded : Option Copy → Bool
  | some .base => true
  | some (.overlay ..) => true
  | _ => false

structure Process where
  env : Environment
  /-- The manifest's entries, once the finder is on `sys.meta_path`. -/
  finder : Option (List Entry) := none
  copies : String → Option Copy := fun _ => none
  /-- The patches whose adapters have returned. -/
  executed : List String := []

def Process.role (process : Process) : String := process.env.text roleEnv

/-- What surrounds the process. -/
structure Setting (profile : Profile) where
  root : Root profile
  distributions : Distributions
  /-- The text of a path resolves to the root. -/
  isRoot : String → Bool

/-- How the body of a module goes: the base source may raise, and so may each adapter. -/
structure Answer where
  raises : Bool
  adapterRaises : String → Bool

variable {profile : Profile} (setting : Setting profile)

/-- The adapters that the end of a generated module runs, and whether all of them return. -/
def runAdapters (raises : String → Bool) (role : Option String) : List PatchSpec → List String × Bool
  | [] => ([], true)
  | patch :: rest =>
    if role.any ((adapterRoles patch).contains ·) then
      if raises patch.patchId then ([], false)
      else (patch.patchId :: (runAdapters raises role rest).1, (runAdapters raises role rest).2)
    else runAdapters raises role rest

/-- `_OverlayFinder.find_spec` -/
def findSpec (process : Process) (module : String) : Option Entry :=
  ((process.finder.getD []).find? fun entry => entry.module = module).filter fun entry =>
    entry.Touches (boundIds profile process.env process.role)

/-- `_OverlayLoader.exec_module` -/
def execModule (process : Process) (module : String) (entry : Entry) (answer : Answer) :
    Process × Except String Unit :=
  match setting.root.moduleAt (pathParts entry.relativePath) with
  | none => (process, .error s!"generated overlay source became unreadable: {entry.relativePath}")
  | some file =>
    if Sha256.hexdigest file.bytes ≠ entry.outputSourceHash then
      (process, .error s!"generated overlay source changed before import: {entry.relativePath}")
    else if answer.raises then
      ({ process with copies := Function.update process.copies module (some .failed) }, .error "the module raised")
    else
      let ran := runAdapters answer.adapterRaises (process.env roleEnv) file.patches
      if ran.2 then
        ({ process with
            copies := Function.update process.copies module
              (some (.overlay (pathParts entry.relativePath) entry.outputSourceHash (process.env roleEnv)))
            executed := process.executed ++ ran.1 }, .ok ())
      else
        ({ process with
            copies := Function.update process.copies module (some .failed), executed := process.executed ++ ran.1 },
          .error "an adapter raised")

/-- `import_module` -/
def importModule (process : Process) (module : String) (answer : Answer) : Process × Except String Unit :=
  match process.copies module with
  | some .failed => (process, .error "the module raised when it was imported")
  | some _ => (process, .ok ())
  | none =>
    match @findSpec profile process module with
    | some entry => execModule setting process module entry answer
    | none =>
      if answer.raises then
        ({ process with copies := Function.update process.copies module (some .failed) }, .error "the module raised")
      else ({ process with copies := Function.update process.copies module (some .base) }, .ok ())

/-- The turn of one entry in `_verified_base_sources`. -/
def verifyBase (env : Environment) (entry : Entry) : Except String Unit := do
  let parts := pathParts entry.relativePath
  ensure (2 ≤ parts.length ∧ parts.head? = some "modules".toList)
    s!"overlay entry has no canonical module source path: {repr entry.relativePath}"
  let distribution ← (setting.distributions entry.distribution).elim
    (.error s!"overlay base distribution is unavailable: {entry.distribution}") Except.ok
  ensure (distribution.version = entry.version)
    s!"{entry.distribution} version {repr distribution.version} != {repr entry.version}"
  match distribution.locate parts.tail with
  | .escapes => .error s!"overlay base source escapes {entry.distribution}"
  | .unreadable _ => .error "overlay base source is unreadable"
  | .regular data shared => do
    ensure (¬ (env.text localRuntimeEnv ≠ "" ∧ shared))
      s!"compatibility base source for {entry.distribution} is shared"
    ensure (Sha256.hexdigest data = entry.baseSourceHash)
      s!"overlay base source hash mismatch for {entry.distribution}"

/-- A loaded copy is not the one that the entry stands for. -/
def Entry.misses (entry : Entry) : Option Copy → Bool
  | some .base => true
  | some (.overlay source hash _) => ¬ (source = pathParts entry.relativePath ∧ hash = entry.outputSourceHash)
  | _ => false

/-- `role or os.environ.get("EXASERVE_COMPAT_ROLE", "")` -/
def Process.bound (process : Process) (role : String) : String := if role = "" then process.role else role

/-- `install`: the process with its finder, and the manifest's entries. -/
def install (process : Process) (root role : String) : Process × Except String (List Entry) :=
  if process.bound role = "" then (process, .error "EXASERVE_COMPAT_ROLE is required to install the overlay")
  else
    let relevant := fun entry : Entry => decide (entry.Touches (boundIds profile process.env (process.bound role)))
    match process.finder with
    | some entries =>
      if setting.isRoot root = false then (process, .error "a different compatibility overlay is already installed")
      else if (entries.filter relevant).all fun entry => entry.misses (process.copies entry.module) = false then
        (process, .ok entries)
      else (process, .error "compatibility role was bound after target import from the base distribution")
    | none =>
      let verified := do
        ensure (setting.isRoot root = true) "overlay manifest is unreadable"
        let entries ← loadManifest setting.root
        entries.forM (verifyBase setting process.env)
        ensure ((entries.filter relevant).all fun entry => Copy.loaded (process.copies entry.module) = false)
          "compatibility overlay was installed after target import"
        .ok entries
      match verified with
      | .ok entries => ({ process with finder := some entries }, .ok entries)
      | .error exc => (process, .error exc)

/-- Imports one after the other, up to the first that raises. -/
def importAll (answers : String → Answer) (process : Process) : List String → Process × Except String Unit
  | [] => (process, .ok ())
  | module :: rest =>
    match importModule setting process module (answers module) with
    | (after, .ok _) => importAll answers after rest
    | (after, .error exc) => (after, .error exc)

/-- `activate_patch_ids` -/
def activatePatchIds (process : Process) (patchIds : List String) (answers : String → Answer) :
    Process × Except String Unit :=
  let chosen := patchIds.filter ((profile.selected.map PatchSpec.patchId).contains ·)
  if chosen = [] then (process, .ok ())
  else if process.env.text rootEnv = "" then (process, .error s!"{rootEnv} is required")
  else
    match install setting process (process.env.text rootEnv) process.role with
    | (after, .error exc) => (after, .error exc)
    | (after, .ok entries) =>
      importAll setting answers after
        (sortedUnique ((entries.filter fun entry => decide (entry.Touches chosen)).map Entry.module))

inductive Event where
  | setenv (name : String) (value : Option String)
  | importModule (module : String) (answer : Answer)
  | install (root role : String)
  | activate (patchIds : List String) (answers : String → Answer)

def step (process : Process) : Event → Process
  | .setenv name value => { process with env := Function.update process.env name value }
  | .importModule module answer => (importModule setting process module answer).1
  | .install root role => (install setting process root role).1
  | .activate patchIds answers => (activatePatchIds setting process patchIds answers).1

end Processes

end ExaServe.Compat.Overlay
