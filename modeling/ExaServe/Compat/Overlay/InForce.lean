import ExaServe.Compat.Overlay.Activation

namespace ExaServe.Compat.Overlay

open Lib Plan Control
open RawReceipt (sortedUnique mem_sortedUnique)

variable {profile : Profile} {bootstrap : String} {turns : List (Turned profile)} {setting : Setting profile}

section Runs

/-- `install` only puts the finder in place, and the finder serves what was materialized. -/
theorem install_ok (published : Published profile bootstrap turns setting.root) {process : Process}
    (sound : Sound turns process) {root role : String} {after : Process} {entries : List Entry}
    (installed : install setting process root role = (after, .ok entries)) :
    after = { process with finder := some entries } ∧ Loadable profile ∧ entries = turns.map Turned.entry ∧
      (process.finder = none ∨ process.finder = some entries) := by
  rw [install] at installed
  dsimp only at installed
  split at installed
  · cases installed
  · split at installed
    · rename_i known finder
      split at installed
      · cases installed
      · split at installed
        · obtain ⟨rfl, same⟩ := Prod.mk.inj installed
          cases same
          obtain ⟨loadable, made⟩ := sound.finder _ finder
          refine ⟨?_, loadable, made, Or.inr finder⟩
          cases process
          cases finder
          rfl
        · cases installed
    · rename_i finder
      split at installed
      · rename_i found verified
        obtain ⟨rfl, same⟩ := Prod.mk.inj installed
        cases same
        obtain ⟨_, _, rest⟩ := bind_ok verified
        obtain ⟨loaded, read, rest⟩ := bind_ok rest
        obtain ⟨_, _, rest⟩ := bind_ok rest
        obtain ⟨_, _, done⟩ := bind_ok rest
        cases done
        have loadable := published.load_iff.2 _ read
        have made := Except.ok.inj (read.symm.trans (published.load_iff.1 loadable))
        exact ⟨rfl, loadable, made, Or.inl finder⟩
      · cases installed

/-- An installation that returns has a role to bind to. -/
theorem install_role {process after : Process} {root : String} {entries : List Entry}
    (installed : install setting process root process.role = (after, .ok entries)) :
    process.env roleEnv = some process.role := by
  rw [install] at installed
  split at installed
  · cases (Prod.mk.inj installed).2
  · rename_i bound
    rw [Process.bound, ite_self] at bound
    rw [Process.role, Environment.text] at bound ⊢
    cases held : process.env roleEnv with
    | none => exact absurd (by rw [held, Option.getD_none]) bound
    | some role => rfl

theorem install_error {process after : Process} {root role exc : String}
    (refused : install setting process root role = (after, .error exc)) : after = process := by
  rw [install] at refused
  dsimp only at refused
  split at refused
  · exact (Prod.mk.inj refused).1.symm
  · split at refused
    · split at refused
      · exact (Prod.mk.inj refused).1.symm
      · split at refused
        · cases (Prod.mk.inj refused).2
        · exact (Prod.mk.inj refused).1.symm
    · split at refused
      · cases (Prod.mk.inj refused).2
      · exact (Prod.mk.inj refused).1.symm

theorem Sound.install (published : Published profile bootstrap turns setting.root) {process : Process}
    (sound : Sound turns process) (root role : String) :
    Sound turns (Overlay.install setting process root role).1 := by
  rcases installed : Overlay.install setting process root role with ⟨after, exc | entries⟩
  · rw [install_error installed]
    exact sound
  · obtain ⟨rfl, loadable, rfl, _⟩ := install_ok published sound installed
    refine ⟨?_, sound.agrees⟩
    intro entries same
    cases same
    exact ⟨loadable, rfl⟩

theorem Sound.importAll (published : Published profile bootstrap turns setting.root) (answers : String → Answer)
    (modules : List String) {process : Process} (sound : Sound turns process) :
    Sound turns (Overlay.importAll setting answers process modules).1 := by
  induction modules generalizing process with
  | nil => exact sound
  | cons module rest ih =>
    have next := sound.importModule published module (answers module)
    rw [Overlay.importAll]
    split
    · rename_i after _ imported
      rw [imported] at next
      exact ih next
    · rename_i after exc imported
      rw [imported] at next
      exact next

theorem Sound.step (published : Published profile bootstrap turns setting.root) (process : Process) (event : Event)
    (sound : Sound turns process) : Sound turns (Overlay.step setting process event) := by
  cases event with
  | setenv name value => exact ⟨sound.finder, sound.agrees⟩
  | importModule module answer => exact sound.importModule published module answer
  | install root role => exact sound.install published root role
  | activate ids answers =>
    rw [Overlay.step, activatePatchIds]
    split
    · exact sound
    · split
      · exact sound
      · have next := sound.install published (process.env.text rootEnv) process.role
        split
        · rename_i after exc refused
          rw [refused] at next
          exact next
        · rename_i after entries installed
          rw [installed] at next
          exact next.importAll published _ _

/-- A process that starts with any environment. -/
def Process.start (env : Environment) : Process := { env }

theorem start_sound (env : Environment) : Sound turns (Process.start env) where
  finder := fun _ same => by cases same
  agrees := fun _ _ _ _ ran => by cases ran

end Runs

section Imports

variable (process : Process) (module : String)

/-- What a module is once its import has returned. -/
def landing : Copy :=
  match process.copies module with
  | some copy => copy
  | none =>
    match @findSpec profile process module with
    | some entry => .overlay (pathParts entry.relativePath) entry.outputSourceHash (process.env roleEnv)
    | none => .base

variable {process module}

theorem execModule_ok {entry : Entry} {answer : Answer} {after : Process} {done : Unit}
    (imported : execModule setting process module entry answer = (after, .ok done)) :
    after.env = process.env ∧ after.finder = process.finder ∧ after.copies = Function.update process.copies module
      (some (.overlay (pathParts entry.relativePath) entry.outputSourceHash (process.env roleEnv))) := by
  rw [execModule] at imported
  split at imported
  · cases (Prod.mk.inj imported).2
  · split at imported
    · cases (Prod.mk.inj imported).2
    · split at imported
      · cases (Prod.mk.inj imported).2
      · dsimp only at imported
        split at imported
        · obtain ⟨rfl, _⟩ := Prod.mk.inj imported
          exact ⟨rfl, rfl, rfl⟩
        · cases (Prod.mk.inj imported).2

theorem importModule_ok {answer : Answer} {after : Process} {done : Unit}
    (imported : importModule setting process module answer = (after, .ok done)) :
    after.env = process.env ∧ after.finder = process.finder ∧
      after.copies = Function.update process.copies module (some (@landing profile process module)) ∧
      process.copies module ≠ some .failed := by
  rw [importModule] at imported
  rw [landing]
  rcases held : process.copies module with _ | copy
  · rw [held] at imported
    dsimp only at imported ⊢
    cases served : @findSpec profile process module with
    | some entry =>
      rw [served] at imported
      obtain ⟨env, finder, copies⟩ := execModule_ok imported
      exact ⟨env, finder, copies, fun same => by cases same⟩
    | none =>
      rw [served] at imported
      dsimp only at imported
      split at imported
      · cases (Prod.mk.inj imported).2
      · obtain ⟨rfl, _⟩ := Prod.mk.inj imported
        exact ⟨rfl, rfl, rfl, fun same => by cases same⟩
  · rw [held] at imported
    cases copy with
    | failed => cases (Prod.mk.inj imported).2
    | base =>
      obtain ⟨rfl, _⟩ := Prod.mk.inj imported
      refine ⟨rfl, rfl, ?_, fun same => by cases same⟩
      dsimp only
      rw [← held, Function.update_eq_self]
    | overlay source hash role =>
      obtain ⟨rfl, _⟩ := Prod.mk.inj imported
      refine ⟨rfl, rfl, ?_, fun same => by cases same⟩
      dsimp only
      rw [← held, Function.update_eq_self]

/-- Imports of other modules leave what a module will be. -/
theorem landing_congr {after : Process} (env : after.env = process.env) (finder : after.finder = process.finder)
    (copy : after.copies module = process.copies module) :
    @landing profile after module = @landing profile process module := by
  rw [landing, landing, copy, findSpec, findSpec, finder, Process.role, Process.role, env]

/-- Imports that all return leave every module of theirs as it would be left alone. -/
theorem importAll_ok {answers : String → Answer} {modules : List String} {process after : Process} {done : Unit}
    (imported : importAll setting answers process modules = (after, .ok done)) :
    (∀ module ∈ modules, after.copies module = some (@landing profile process module) ∧
      process.copies module ≠ some .failed) ∧
    ∀ module, module ∉ modules → after.copies module = process.copies module := by
  induction modules generalizing process with
  | nil =>
    cases imported
    exact ⟨fun _ member => (List.not_mem_nil member).elim, fun _ _ => rfl⟩
  | cons module rest ih =>
    rw [importAll] at imported
    split at imported
    · rename_i next _ first
      obtain ⟨env, finder, copies, standing⟩ := importModule_ok first
      obtain ⟨later, others⟩ := ih imported
      have here : next.copies module = some (@landing profile process module) := by
        rw [copies, Function.update_self]
      constructor
      · intro other member
        by_cases same : other = module
        · subst same
          refine ⟨?_, standing⟩
          by_cases again : other ∈ rest
          · rw [(later other again).1, landing, here]
          · rw [others other again, here]
        · have kept : next.copies other = process.copies other := by rw [copies, Function.update_of_ne same]
          obtain ⟨landed, fine⟩ := later other ((List.mem_cons.mp member).resolve_left same)
          rw [landing_congr env finder kept] at landed
          rw [kept] at fine
          exact ⟨landed, fine⟩
      · intro other outside
        rw [List.mem_cons, not_or] at outside
        rw [others other outside.2, copies, Function.update_of_ne outside.1]
    · cases (Prod.mk.inj imported).2

end Imports

section Required

variable (entries : List Entry) (process : Process) (ids : List String)

/-- The adapters of the selected patches have run, each in the overlay's copy of its module. -/
def Activated : Prop :=
  ∀ patch ∈ profile.selected, patch.patchId ∈ ids → patch.patchId ∈ process.executed ∧
    ∃ entry ∈ entries, moduleName (profile.target patch).file = .ok entry.module ∧ ∃ role,
      process.copies entry.module = some (.overlay (pathParts entry.relativePath) entry.outputSourceHash role)

/-- The target was imported under a role that the patch's adapter runs for, or is not loaded and
    is the overlay's under the current role. -/
def Keeps (entry : Entry) (patch : PatchSpec) : Prop :=
  match process.copies entry.module with
  | none => entry.Touches (boundIds profile process.env process.role)
  | some (.overlay _ _ role) => RunsUnder patch role
  | some _ => False

/-- Every selected patch is kept by the state of its target. -/
def Bound : Prop :=
  ∀ patch ∈ profile.selected, patch.patchId ∈ ids →
    ∃ entry ∈ entries, moduleName (profile.target patch).file = .ok entry.module ∧ @Keeps profile process entry patch

variable {process}

theorem mem_requiredIds {env : Environment} {role : String} {patch : PatchSpec} (selected : patch ∈ profile.selected)
    (required : patch.patchId ∈ requiredIds profile env role) : role ∈ patch.roles := by
  obtain ⟨other, among, same⟩ := List.mem_map.mp ((List.mem_insertionSort _).mp required)
  obtain ⟨listed, conditions⟩ := List.mem_filter.mp among
  obtain rfl := List.inj_on_of_nodup_map profile.distinct listed (selected_mem selected) same
  simp only [Bool.and_eq_true, List.contains_iff_mem] at conditions
  exact conditions.1.2

/-- The entry of a module is found by the module's name. -/
theorem findSpec_entry (made : Materialized profile turns) (loadable : Loadable profile) {turned : Turned profile}
    (member : turned ∈ turns) (finder : process.finder = some (turns.map Turned.entry)) :
    @findSpec profile process turned.entry.module =
      if turned.entry.Touches (boundIds profile process.env process.role) then some turned.entry else none := by
  have found : (turns.map Turned.entry).find? (fun entry => entry.module = turned.entry.module) =
      some turned.entry := by
    have some_ : ((turns.map Turned.entry).find? fun entry => entry.module = turned.entry.module).isSome := by
      rw [List.find?_isSome]
      exact ⟨turned.entry, List.mem_map_of_mem member, by simp⟩
    obtain ⟨entry, first⟩ := Option.isSome_iff_exists.mp some_
    obtain ⟨other, listed, rfl⟩ := List.mem_map.mp (List.mem_of_find?_eq_some first)
    have same := List.find?_some first
    rw [decide_eq_true_eq] at same
    rw [first, made.module_unique loadable listed member same]
  rw [findSpec, finder, Option.getD_some, found, Option.filter]
  simp only [decide_eq_true_eq]

/-- Once the targets of a patch have been imported, the patch is in force exactly where it was kept. -/
theorem imported_iff (made : Materialized profile turns) (loadable : Loadable profile) {turned : Turned profile}
    (member : turned ∈ turns) (finder : process.finder = some (turns.map Turned.entry)) {after : Process}
    (sound : Sound turns after)
    (copied : after.copies turned.entry.module = some (@landing profile process turned.entry.module))
    (standing : process.copies turned.entry.module ≠ some .failed) {patch : PatchSpec} (has : turned.Has patch)
    (running : RunsUnder patch (process.env roleEnv)) :
    (patch.patchId ∈ after.executed ∧ ∃ role, after.copies turned.entry.module =
        some (.overlay (pathParts turned.entry.relativePath) turned.entry.outputSourceHash role)) ↔
      @Keeps profile process turned.entry patch := by
  have agrees := sound.agrees turned member
  rw [copied] at agrees ⊢
  rw [landing, findSpec_entry made loadable member finder] at agrees ⊢
  rw [Keeps]
  generalize process.copies turned.entry.module = copy at agrees standing ⊢
  rcases copy with _ | _ | ⟨source, hash, role⟩ | _
  · dsimp only at agrees ⊢
    by_cases touched : turned.entry.Touches (boundIds profile process.env process.role)
    · rw [if_pos touched] at agrees ⊢
      exact iff_of_true ⟨(agrees.2.2 patch has).mpr running, _, rfl⟩ touched
    · rw [if_neg touched]
      exact iff_of_false (fun held => by cases held.2.choose_spec) touched
  · exact iff_of_false (fun held => by cases held.2.choose_spec) id
  · obtain ⟨rfl, rfl, ran⟩ := agrees
    rw [turned.path_place]
    exact ⟨fun held => (ran patch has).mp held.1, fun runs => ⟨(ran patch has).mpr runs, role, rfl⟩⟩
  · exact absurd rfl standing

/-- The entry of a patch's module is that of the patch's target. -/
theorem entry_of_patch (made : Materialized profile turns) (loadable : Loadable profile) {turned : Turned profile}
    (member : turned ∈ turns) {patch : PatchSpec} (has : turned.Has patch) {property : Entry → Prop} :
    (∃ entry ∈ turns.map Turned.entry, moduleName (profile.target patch).file = .ok entry.module ∧ property entry) ↔
      property turned.entry := by
  constructor
  · rintro ⟨entry, listed, named, held⟩
    obtain ⟨other, among, rfl⟩ := List.mem_map.mp listed
    have keys := ((made.in_module loadable among has.1).mp named).symm.trans has.2
    obtain rfl := made.turn_unique among member (congrArg Key.file keys)
    exact held
  · exact fun held =>
      ⟨turned.entry, List.mem_map_of_mem member, (made.in_module loadable member has.1).mpr has.2, held⟩

/-- **A materialized overlay can be loaded exactly where some patch is delivered by it and modules
    of one name are one file; and in every process, an activation of the role's patches that returns
    has put them in force exactly where their targets were bound to roles that they run for.** -/
theorem activation_iff {profile : Profile} {distributions : Distributions} {bootstrap : String} {occupied : Bool}
    {entries : List Entry} (setting : Setting profile)
    (done : materialize profile distributions bootstrap occupied = .ok (entries, setting.root)) :
    ((∃ loaded, loadManifest setting.root = .ok loaded) ↔ Loadable profile) ∧
    ∀ (env : Environment) (events : List Event) (answers : String → Answer) (after : Process),
      let process := run (step setting) (Process.start env) events
      let ids := requiredIds profile process.env process.role
      activatePatchIds setting process ids answers = (after, .ok ()) →
        (@Activated profile entries after ids ↔ @Bound profile entries process ids) := by
  obtain ⟨turns, published, rfl⟩ := materialize_ok done
  refine ⟨⟨fun ⟨_, read⟩ => published.load_iff.2 _ read, fun loadable => ⟨_, published.load_iff.1 loadable⟩⟩, ?_⟩
  intro env events answers after process ids returned
  have sound : Sound turns process := run_invariant (fun _ _ => Sound.step published _ _) (start_sound env) events
  have chosen_of : ∀ {patch}, patch ∈ profile.selected → patch.patchId ∈ ids →
      patch.patchId ∈ ids.filter ((profile.selected.map PatchSpec.patchId).contains ·) := by
    intro patch selected required
    rw [List.mem_filter, List.contains_iff_mem]
    exact ⟨required, List.mem_map_of_mem selected⟩
  rw [activatePatchIds] at returned
  split at returned
  · rename_i empty
    have none_ : ∀ {patch}, patch ∈ profile.selected → patch.patchId ∉ ids := by
      intro patch selected required
      have listed := chosen_of selected required
      rw [empty] at listed
      cases listed
    exact iff_of_true (fun patch selected required => absurd required (none_ selected))
      fun patch selected required => absurd required (none_ selected)
  · split at returned
    · cases (Prod.mk.inj returned).2
    · split at returned
      · cases (Prod.mk.inj returned).2
      · rename_i between _ installed
        obtain ⟨rfl, loadable, rfl, _⟩ := install_ok published sound installed
        obtain ⟨landed, _⟩ := importAll_ok returned
        have named := install_role installed
        have later := (sound.install published (process.env.text rootEnv) process.role)
        rw [installed] at later
        have final := later.importAll published answers (sortedUnique (((turns.map Turned.entry).filter fun entry =>
          decide (entry.Touches
            (ids.filter ((profile.selected.map PatchSpec.patchId).contains ·)))).map Entry.module))
        rw [returned] at final
        apply forall_congr'
        intro patch
        apply forall_congr'
        intro selected
        apply forall_congr'
        intro required
        obtain ⟨turned, member, key⟩ := published.made.turn_of selected
        have has : turned.Has patch := ⟨selected, key.symm⟩
        obtain ⟨copied, standing⟩ := landed turned.entry.module (mem_sortedUnique.mpr (List.mem_map_of_mem
          (List.mem_filter.mpr ⟨List.mem_map_of_mem member, decide_eq_true
            ⟨patch.patchId, (published.made.mem_ids member).mpr ⟨patch, selected, key.symm, rfl⟩,
              chosen_of selected required⟩⟩)))
        rw [entry_of_patch published.made loadable member has, entry_of_patch published.made loadable member has]
        apply imported_iff published.made loadable member rfl final copied standing has
        rw [named, runsUnder_iff]
        exact adapterRoles_of_role (mem_requiredIds selected required)

end Required

end ExaServe.Compat.Overlay
