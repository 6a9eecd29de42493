import ExaServe.Compat.Overlay.InForce

namespace ExaServe.Compat.Overlay

open Lib Plan Control
open RawReceipt (sortedUnique)

section Generating

/-- Patches with declared calls are generated. -/
theorem exists_generate {profile : Profile} (base : Bytes) {patches : List PatchSpec}
    (declared : ∀ patch ∈ patches, (patchCalls.lookup patch.patchId).isSome) :
    ∃ output, generate profile base patches = .ok output := by
  have lines : ∃ lines, (patches.zipIdx.mapM fun item => adapterLines item.2 item.1) = .ok lines := by
    apply mapM_some
    intro item member
    obtain ⟨call, known⟩ := Option.isSome_iff_exists.mp (declared item.1 (List.fst_mem_of_mem_zipIdx member))
    rw [adapterLines, known]
    exact ⟨_, rfl⟩
  obtain ⟨lines, written⟩ := lines
  rw [generate]
  split
  · rename_i exc failed
    rw [suffix, written] at failed
    cases failed
  · exact ⟨_, rfl⟩

theorem baseSource_ok {distributions : Distributions} {key : Key} {installed : Installed} {data : Bytes}
    {shared : Bool} (known : distributions key.distribution = some installed)
    (version : installed.version = key.version)
    (file : installed.locate (pathParts key.file) = .regular data shared)
    (hash : Sha256.hexdigest data = key.sourceHash) :
    baseSource distributions key = .ok data := by
  rw [baseSource, known, Option.elim_some, ok_bind rfl, ok_bind (ensure_ok version _), file]
  dsimp only
  rw [ok_bind (ensure_ok hash _)]

theorem verifyBase_ok {profile : Profile} {setting : Setting profile} {env : Environment} {entry : Entry}
    {installed : Installed} {data : Bytes} {place : List Part}
    (path : pathParts entry.relativePath = "modules".toList :: place)
    (below : place ≠ []) (known : setting.distributions entry.distribution = some installed)
    (version : installed.version = entry.version) (file : installed.locate place = .regular data false)
    (hash : Sha256.hexdigest data = entry.baseSourceHash) : verifyBase setting env entry = .ok () := by
  have long : 2 ≤ ("modules".toList :: place).length := by
    have := List.length_pos_of_ne_nil below
    rw [List.length_cons]
    omega
  rw [verifyBase, path, known, ok_bind (ensure_ok ⟨long, rfl⟩ _), Option.elim_some, ok_bind rfl,
    ok_bind (ensure_ok version _), List.tail_cons, file]
  dsimp only
  have own : ¬ (env.text localRuntimeEnv ≠ "" ∧ false = true) := fun held => by cases held.2
  rw [ok_bind (ensure_ok own _), ensure_ok hash]

/-- A module whose body and adapters return is loaded from the overlay. -/
theorem execModule_done {profile : Profile} {setting : Setting profile} {process : Process} {module : String}
    {entry : Entry} {answer : Answer} {file : Generated profile.profileId} {ids : List String}
    (found : setting.root.moduleAt (pathParts entry.relativePath) = some file)
    (hash : Sha256.hexdigest file.bytes = entry.outputSourceHash) (quiet : answer.raises = false)
    (ran : runAdapters answer.adapterRaises (process.env roleEnv) file.patches = (ids, true)) :
    execModule setting process module entry answer = ({ process with
      copies := Function.update process.copies module
        (some (.overlay (pathParts entry.relativePath) entry.outputSourceHash (process.env roleEnv)))
      executed := process.executed ++ ids }, .ok ()) := by
  rw [execModule, found]
  dsimp only
  rw [if_neg (not_not.mpr hash), quiet, if_neg Bool.false_ne_true, ran, if_pos rfl]

/-- The first installation of a process that has loaded none of the targets. -/
theorem install_fresh {profile : Profile} {setting : Setting profile} {process : Process} {root role : String}
    {entries : List Entry} (bound : process.bound role ≠ "") (new : process.finder = none)
    (here : setting.isRoot root = true) (loaded : loadManifest setting.root = .ok entries)
    (verified : entries.forM (verifyBase setting process.env) = .ok ())
    (unloaded : ∀ entry ∈ entries, Copy.loaded (process.copies entry.module) = false) :
    install setting process root role = ({ process with finder := some entries }, .ok entries) := by
  have all : ∀ relevant : Entry → Bool,
      ((entries.filter relevant).all fun entry => Copy.loaded (process.copies entry.module) = false) = true := by
    intro relevant
    rw [List.all_eq_true]
    exact fun entry listed => decide_eq_true (unloaded entry (List.mem_filter.mp listed).1)
  rw [install, if_neg bound]
  dsimp only
  rw [new]
  dsimp only
  rw [ok_bind (ensure_ok here _), ok_bind loaded, ok_bind verified, ok_bind (ensure_ok (all _) _)]

/-- A later installation, where every loaded target is the copy that its entry stands for. -/
theorem install_again {profile : Profile} {setting : Setting profile} {process : Process} {root role : String}
    {entries : List Entry} (bound : process.bound role ≠ "") (known : process.finder = some entries)
    (here : setting.isRoot root = true)
    (met : ∀ entry ∈ entries, entry.misses (process.copies entry.module) = false) :
    install setting process root role = (process, .ok entries) := by
  have all : ∀ relevant : Entry → Bool,
      ((entries.filter relevant).all fun entry => entry.misses (process.copies entry.module) = false) = true := by
    intro relevant
    rw [List.all_eq_true]
    exact fun entry listed => decide_eq_true (met entry (List.mem_filter.mp listed).1)
  rw [install, if_neg bound]
  dsimp only
  rw [known]
  dsimp only
  rw [here, if_neg (by decide), if_pos (all _)]

/-- A target whose base source is in place is added. -/
theorem exists_addTarget {profile : Profile} {distributions : Distributions}
    {made : List Entry × Modules profile.profileId} {group : Key × List PatchSpec} {base : Bytes} {module : String}
    (read : baseSource distributions group.1 = .ok base)
    (declared : ∀ patch ∈ group.2, (patchCalls.lookup patch.patchId).isSome)
    (named : moduleName group.1.file = .ok module) (free : Free made.2 ("modules".toList :: pathParts group.1.file)) :
    ∃ after, addTarget profile distributions made group = .ok after := by
  obtain ⟨output, generated⟩ := @exists_generate profile base (sortedPatches group.2) fun patch member =>
    declared patch ((List.mem_insertionSort _).mp member)
  rw [sortedPatches] at generated
  rw [addTarget, ok_bind read]
  dsimp only
  rw [ok_bind generated, ok_bind named, ok_bind (ensure_ok free _)]
  exact ⟨_, rfl⟩

end Generating

section Executors

def executorPatch (patchId : String) (roles : List String) : PatchSpec where
  patchId := patchId
  roles := roles
  capability := patchId
  targetSourceHash := Sha256.hexdigest []
  patchArtifactHash := ""
  deliveryArtifactHash := ""

/-- One patch of the executor's module is for replicas and engine cores, another for engine cores only. -/
def executors : Profile where
  python := "3.12"
  ray := "2.53.0"
  vllm := "0.15.0"
  patches := [executorPatch "SC-09" ["replica", "engine_core"], executorPatch "EW-01" ["engine_core"]]
  profileId := "executors"
  target := fun _ =>
    { delivery := "generated-overlay", distribution := "vllm", version := "0.15.0", file := "vllm/ray_executor.py" }
  distinct := by decide
  named := by decide
  targeted := fun _ _ => by constructor <;> decide
  hashed := by
    simp only [List.mem_cons, List.not_mem_nil, or_false, forall_eq_or_imp, forall_eq]
    exact ⟨isSha256Hex_hexdigest [], isSha256Hex_hexdigest []⟩

def vllmInstalled : Distributions := fun name =>
  if name = "vllm" then some { version := "0.15.0", locate := fun _ => .regular [] false } else none

def executorKey : Key where
  distribution := "vllm"
  version := "0.15.0"
  file := "vllm/ray_executor.py"
  sourceHash := Sha256.hexdigest []

theorem executors_grouped : executors.grouped = [(executorKey, executors.patches)] := by
  have selected : executors.selected =
      [executorPatch "SC-09" ["replica", "engine_core"], executorPatch "EW-01" ["engine_core"]] := rfl
  have first : executors.key (executorPatch "SC-09" ["replica", "engine_core"]) = executorKey := rfl
  have second : executors.key (executorPatch "EW-01" ["engine_core"]) = executorKey := rfl
  rw [Profile.grouped, selected, groupItems, List.foldl_cons, List.foldl_cons, List.foldl_nil, first, second]
  simp [appendEntry, putEntry, findEntry, List.insertionSort, executors]

/-- The target of the executors can be materialized. -/
theorem executors_materialized : ∃ entries root,
    materialize executors vllmInstalled "" false = .ok (entries, root) := by
  have base : baseSource vllmInstalled executorKey = .ok [] := baseSource_ok rfl rfl rfl rfl
  obtain ⟨made, added⟩ := @exists_addTarget executors vllmInstalled ([], []) (executorKey, executors.patches) []
    "vllm.ray_executor" base (by decide) (by decide +kernel) (by decide)
  rw [materialize, executors_grouped, List.foldlM_cons, added]
  exact ⟨_, _, rfl⟩

def replicaEnv : Environment := fun name =>
  if name = roleEnv then some "replica" else if name = rootEnv then some "/overlay" else none

def quietly : Answer where
  raises := false
  adapterRaises := fun _ => false

/-- The executor's module is imported by a replica, which then becomes an engine core. -/
def rebinding : List Event :=
  [.install "/overlay" "replica", .importModule "vllm.ray_executor" quietly, .setenv roleEnv (some "engine_core")]

def executorSetting (root : Root executors) : Setting executors where
  root := root
  distributions := vllmInstalled
  isRoot := fun text => text = "/overlay"

/-- The single target of the executors. -/
theorem executors_turn {bootstrap : String} {turns : List (Turned executors)} {root : Root executors}
    (published : Published executors bootstrap turns root) : ∃ turned, turns = [turned] ∧
      turned.key = executorKey ∧ turned.entry.module = "vllm.ray_executor" ∧
      turned.output.patches =
        [executorPatch "EW-01" ["engine_core"], executorPatch "SC-09" ["replica", "engine_core"]] ∧
      turned.entry.patchIds = ["EW-01", "SC-09"] := by
  have groups := published.made.groups
  rw [executors_grouped] at groups
  obtain ⟨turned, rfl, group⟩ := List.map_eq_singleton_iff.mp groups
  obtain ⟨key, patches⟩ := Prod.mk.inj group
  refine ⟨turned, rfl, key, ?_, ?_, ?_⟩
  · have named := turned.named
    rw [key] at named
    have known : moduleName executorKey.file = .ok "vllm.ray_executor" := by decide +kernel
    exact Except.ok.inj (named.symm.trans known)
  · rw [turned.runs, patches]
    rfl
  · rw [turned.ids, patches]
    rfl

theorem executors_loadable : Loadable executors :=
  ⟨List.cons_ne_nil _ _, fun _ _ _ _ _ => rfl⟩

/-- A replica that has imported the executor's module. -/
def afterImport (turned : Turned executors) : Process where
  env := replicaEnv
  finder := some [turned.entry]
  copies := Function.update (fun _ => none) "vllm.ray_executor"
    (some (.overlay turned.place turned.entry.outputSourceHash (some "replica")))
  executed := ["SC-09"]

theorem afterImport_copy (turned : Turned executors) : (afterImport turned).copies "vllm.ray_executor" =
    some (.overlay turned.place turned.entry.outputSourceHash (some "replica")) := by
  simp [afterImport]

theorem importModule_served {profile : Profile} {setting : Setting profile} {process : Process} {module : String}
    {entry : Entry} {answer : Answer} (absent : process.copies module = none)
    (served : @findSpec profile process module = some entry) :
    importModule setting process module answer = execModule setting process module entry answer := by
  rw [importModule, absent]
  simp only [served]

/-- The states of the run: the finder is in place, the module has been imported, the role is bound anew. -/
theorem run_rebinding {bootstrap : String} {root : Root executors} {turned : Turned executors}
    (published : Published executors bootstrap [turned] root) (module : turned.entry.module = "vllm.ray_executor")
    (key : turned.key = executorKey)
    (patches : turned.output.patches =
      [executorPatch "EW-01" ["engine_core"], executorPatch "SC-09" ["replica", "engine_core"]])
    (ids : turned.entry.patchIds = ["EW-01", "SC-09"]) :
    run (step (executorSetting root)) (Process.start replicaEnv) rebinding =
      { afterImport turned with env := Function.update replicaEnv roleEnv (some "engine_core") } := by
  have loaded : loadManifest root = .ok [turned.entry] := published.load_iff.1 executors_loadable
  have file : (executorSetting root).root.moduleAt (pathParts turned.entry.relativePath) = some turned.output := by
    rw [turned.path_place]
    exact published.made.moduleAt published.modules List.mem_cons_self
  have verified : [turned.entry].forM (verifyBase (executorSetting root) replicaEnv) = .ok () := by
    apply forM_ok
    intro entry listed
    obtain rfl := List.mem_singleton.mp listed
    apply @verifyBase_ok executors (executorSetting root) replicaEnv turned.entry
      { version := "0.15.0", locate := fun _ => .regular [] false } [] (pathParts executorKey.file)
    · rw [turned.path_place, Turned.place, key]
    · decide
    · rw [turned.distribution, key]
      rfl
    · rw [turned.version, key]
      rfl
    · rfl
    · rw [turned.base, key]
      rfl
  have isRoot : (executorSetting root).isRoot "/overlay" = true := by simp [executorSetting]
  have first : install (executorSetting root) (Process.start replicaEnv) "/overlay" "replica" =
      ({ Process.start replicaEnv with finder := some [turned.entry] }, .ok [turned.entry]) :=
    install_fresh (by decide) rfl isRoot loaded verified fun _ _ => rfl
  have touches : turned.entry.Touches (boundIds executors replicaEnv "replica") := by
    rw [Entry.Touches, ids]
    decide
  have served : @findSpec executors { Process.start replicaEnv with finder := some [turned.entry] }
      "vllm.ray_executor" = some turned.entry := by
    rw [← module]
    exact (findSpec_entry published.made executors_loadable List.mem_cons_self rfl).trans (if_pos touches)
  have ran : runAdapters quietly.adapterRaises (replicaEnv roleEnv) turned.output.patches = (["SC-09"], true) := by
    rw [patches]
    decide
  have second : importModule (executorSetting root) { Process.start replicaEnv with finder := some [turned.entry] }
      "vllm.ray_executor" quietly = (afterImport turned, .ok ()) := by
    have done := @execModule_done executors (executorSetting root)
      { Process.start replicaEnv with finder := some [turned.entry] } "vllm.ray_executor" turned.entry quietly
      turned.output ["SC-09"] file turned.hash.symm rfl ran
    rw [turned.path_place] at done
    rw [importModule_served rfl served]
    exact done
  have installed : step (executorSetting root) (Process.start replicaEnv) (.install "/overlay" "replica") =
      { Process.start replicaEnv with finder := some [turned.entry] } := congrArg Prod.fst first
  have imported : step (executorSetting root) { Process.start replicaEnv with finder := some [turned.entry] }
      (.importModule "vllm.ray_executor" quietly) = afterImport turned := congrArg Prod.fst second
  rw [rebinding, run_cons, run_cons, run_cons, run_nil, installed, imported]
  rfl

/-- The activation of the engine core's patches returns, and leaves the process as it was. -/
theorem activate_rebound {root : Root executors} {turned : Turned executors}
    (module : turned.entry.module = "vllm.ray_executor") (ids : turned.entry.patchIds = ["EW-01", "SC-09"])
    {process : Process}
    (bound : process.env = Function.update replicaEnv roleEnv (some "engine_core"))
    (finder : process.finder = some [turned.entry])
    (copy : process.copies "vllm.ray_executor" =
      some (.overlay turned.place turned.entry.outputSourceHash (some "replica"))) :
    activatePatchIds (executorSetting root) process (requiredIds executors process.env process.role)
      (fun _ => quietly) = (process, .ok ()) := by
  have role : process.role = "engine_core" := by
    rw [Process.role, bound]
    rfl
  have required : requiredIds executors (Function.update replicaEnv roleEnv (some "engine_core")) "engine_core" =
      ["EW-01", "SC-09"] := by decide
  have chosen : ["EW-01", "SC-09"].filter ((executors.selected.map PatchSpec.patchId).contains ·) =
      ["EW-01", "SC-09"] := by decide
  have text : process.env.text rootEnv = "/overlay" := by
    rw [bound]
    decide
  have isRoot : (executorSetting root).isRoot "/overlay" = true := by simp [executorSetting]
  have installed : install (executorSetting root) process "/overlay" "engine_core" =
      (process, .ok [turned.entry]) := by
    apply install_again _ finder isRoot
    · intro entry listed
      obtain rfl := List.mem_singleton.mp listed
      rw [module, copy, Entry.misses, turned.path_place]
      simp
    · rw [Process.bound, if_neg (by decide)]
      decide
  have touched : turned.entry.Touches ["EW-01", "SC-09"] := by
    rw [Entry.Touches, ids]
    decide
  have filtered : [turned.entry].filter (fun entry => decide (entry.Touches ["EW-01", "SC-09"])) =
      [turned.entry] := by
    simp [touched]
  have kept : importModule (executorSetting root) process "vllm.ray_executor" quietly = (process, .ok ()) := by
    rw [importModule, copy]
  rw [role, bound, required, activatePatchIds, chosen, if_neg (List.cons_ne_nil _ _), text, if_neg (by decide), role,
    installed]
  dsimp only
  rw [filtered, List.map_singleton, module]
  change importAll _ _ _ ["vllm.ray_executor"] = _
  rw [importAll, kept]
  rfl

/-- **A replica that becomes an engine core activates its patches without the adapter of the
    engine core's own patch having run.** -/
theorem rebound_not_in_force : ∃ entries root, materialize executors vllmInstalled "" false = .ok (entries, root) ∧
    ∃ after, let process := run (step (executorSetting root)) (Process.start replicaEnv) rebinding
      activatePatchIds (executorSetting root) process (requiredIds executors process.env process.role)
        (fun _ => quietly) = (after, .ok ()) ∧
      "EW-01" ∈ requiredIds executors process.env process.role ∧ "EW-01" ∉ after.executed := by
  obtain ⟨entries, root, done⟩ := executors_materialized
  obtain ⟨turns, published, rfl⟩ := materialize_ok done
  obtain ⟨turned, rfl, key, module, patches, ids⟩ := executors_turn published
  have reached := run_rebinding published module key patches ids
  refine ⟨_, root, done, run (step (executorSetting root)) (Process.start replicaEnv) rebinding, ?_, ?_, ?_⟩
  · rw [reached]
    exact activate_rebound module ids rfl rfl (afterImport_copy turned)
  · rw [reached]
    change "EW-01" ∈ requiredIds executors (Function.update replicaEnv roleEnv (some "engine_core")) "engine_core"
    decide
  · rw [reached]
    change "EW-01" ∉ ["SC-09"]
    decide

/-- The activation of that run, by its bindings. -/
theorem rebinding_bound : ∃ entries root, materialize executors vllmInstalled "" false = .ok (entries, root) ∧
    (∃ loaded, loadManifest root = .ok loaded) ∧
    ∃ after, let process := run (step (executorSetting root)) (Process.start replicaEnv) rebinding
      let required := requiredIds executors process.env process.role
      activatePatchIds (executorSetting root) process required (fun _ => quietly) = (after, .ok ()) ∧
        (@Activated executors entries after required ↔ @Bound executors entries process required) := by
  obtain ⟨entries, root, done⟩ := executors_materialized
  obtain ⟨turns, published, rfl⟩ := materialize_ok done
  obtain ⟨turned, rfl, key, module, patches, ids⟩ := executors_turn published
  have characterized := activation_iff (executorSetting root) done
  have reached := run_rebinding published module key patches ids
  have activated : activatePatchIds (executorSetting root)
      (run (step (executorSetting root)) (Process.start replicaEnv) rebinding)
      (requiredIds executors (run (step (executorSetting root)) (Process.start replicaEnv) rebinding).env
        (run (step (executorSetting root)) (Process.start replicaEnv) rebinding).role) (fun _ => quietly) =
      (run (step (executorSetting root)) (Process.start replicaEnv) rebinding, .ok ()) := by
    rw [reached]
    exact activate_rebound module ids rfl rfl (afterImport_copy turned)
  exact ⟨_, root, done, characterized.1.mpr executors_loadable, _, activated,
    characterized.2 replicaEnv rebinding (fun _ => quietly) _ activated⟩

end Executors

end ExaServe.Compat.Overlay
