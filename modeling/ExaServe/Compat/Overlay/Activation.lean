import ExaServe.Compat.Overlay.Loading
import ExaServe.Compat.Overlay.Process

namespace ExaServe.Compat.Overlay

open Lib Plan Control
open RawReceipt (sortedUnique mem_sortedUnique)

variable {profile : Profile}

section Adapters

/-- A role of a patch is one under which its adapter runs. -/
theorem adapterRoles_of_role {patch : PatchSpec} {role : String} (held : role ∈ patch.roles) :
    role ∈ adapterRoles patch := mem_sortedUnique.mpr (List.mem_append_left _ held)

/-- The patch's adapter runs under the role, if there is one. -/
def RunsUnder (patch : PatchSpec) (role : Option String) : Prop := role.any ((adapterRoles patch).contains ·) = true

theorem runsUnder_iff {patch : PatchSpec} {role : String} :
    RunsUnder patch (some role) ↔ role ∈ adapterRoles patch := by
  rw [RunsUnder, Option.any_some, List.contains_iff_mem]

/-- Where all adapters return, the patches that ran are those with an adapter for the role. -/
theorem mem_runAdapters {raises : String → Bool} {role : Option String} {patches : List PatchSpec}
    (completed : (runAdapters raises role patches).2 = true) {id : String} :
    id ∈ (runAdapters raises role patches).1 ↔ ∃ patch ∈ patches, RunsUnder patch role ∧ patch.patchId = id := by
  induction patches with
  | nil => simp [runAdapters]
  | cons patch rest ih =>
    rw [runAdapters] at completed ⊢
    by_cases runs : role.any ((adapterRoles patch).contains ·) = true
    · rw [if_pos runs] at completed ⊢
      by_cases raising : raises patch.patchId = true
      · rw [if_pos raising] at completed
        cases completed
      · rw [if_neg raising] at completed ⊢
        rw [List.mem_cons, ih completed, List.exists_mem_cons_iff]
        exact or_congr ⟨fun same => ⟨runs, same.symm⟩, fun held => held.2.symm⟩ Iff.rfl
    · rw [if_neg runs] at completed ⊢
      rw [ih completed, List.exists_mem_cons_iff]
      exact ⟨Or.inr, fun held => held.elim (fun now => absurd now.1 runs) fun later => later⟩

/-- Only patches of the module run. -/
theorem runAdapters_subset {raises : String → Bool} {role : Option String} {patches : List PatchSpec} {id : String}
    (ran : id ∈ (runAdapters raises role patches).1) : ∃ patch ∈ patches, patch.patchId = id := by
  induction patches with
  | nil => cases ran
  | cons patch rest ih =>
    rw [runAdapters] at ran
    split_ifs at ran with runs raising
    · cases ran
    · rcases List.mem_cons.mp ran with rfl | later
      · exact ⟨patch, List.mem_cons_self, rfl⟩
      · exact (ih later).imp fun _ found => ⟨List.mem_cons_of_mem _ found.1, found.2⟩
    · exact (ih ran).imp fun _ found => ⟨List.mem_cons_of_mem _ found.1, found.2⟩

end Adapters

section Invariant

variable {bootstrap : String} {turns : List (Turned profile)}

/-- The patches of a target. -/
def Turned.Has (turned : Turned profile) (patch : PatchSpec) : Prop :=
  patch ∈ profile.selected ∧ profile.key patch = turned.key

/-- What a copy says of the module of a target. -/
def Turned.Agrees (turned : Turned profile) (executed : List String) : Option Copy → Prop
  | some (.overlay source hash role) => source = turned.place ∧ hash = turned.entry.outputSourceHash ∧
      ∀ patch, turned.Has patch → (patch.patchId ∈ executed ↔ RunsUnder patch role)
  | some .failed => True
  | _ => ∀ patch, turned.Has patch → patch.patchId ∉ executed

/-- What holds in every process beside a materialized root. -/
structure Sound (turns : List (Turned profile)) (process : Process) : Prop where
  finder : ∀ entries, process.finder = some entries → Loadable profile ∧ entries = turns.map Turned.entry
  agrees : ∀ turned ∈ turns, turned.Agrees process.executed (process.copies turned.entry.module)

theorem patch_unique {patch other : PatchSpec} (first : patch ∈ profile.selected) (second : other ∈ profile.selected)
    (same : patch.patchId = other.patchId) : patch = other :=
  List.inj_on_of_nodup_map profile.distinct (selected_mem first) (selected_mem second) same

variable {setting : Setting profile} {process : Process}

theorem Turned.Agrees.extend {turned : Turned profile} {executed later : List String} {copy : Option Copy}
    (same : ∀ patch, turned.Has patch → (patch.patchId ∈ later ↔ patch.patchId ∈ executed))
    (agrees : turned.Agrees executed copy) : turned.Agrees later copy := by
  rcases copy with _ | _ | ⟨source, hash, role⟩ | _
  · exact fun patch has held => agrees patch has ((same patch has).mp held)
  · exact fun patch has held => agrees patch has ((same patch has).mp held)
  · exact ⟨agrees.1, agrees.2.1, fun patch has => (same patch has).trans (agrees.2.2 patch has)⟩
  · trivial

/-- What the finder serves is a target of the profile. -/
theorem findSpec_served (published : Published profile bootstrap turns setting.root) (sound : Sound turns process)
    {module : String} {entry : Entry} (served : @findSpec profile process module = some entry) :
    Loadable profile ∧ ∃ turned ∈ turns, turned.entry = entry ∧ entry.module = module ∧
      entry.Touches (boundIds profile process.env process.role) ∧
      setting.root.moduleAt (pathParts entry.relativePath) = some turned.output := by
  obtain ⟨found, touches⟩ := Option.filter_eq_some_iff.mp served
  rw [decide_eq_true_eq] at touches
  cases installed : process.finder with
  | none =>
    rw [installed] at found
    cases found
  | some entries =>
    obtain ⟨loadable, rfl⟩ := sound.finder entries installed
    rw [installed] at found
    have named := List.find?_some found
    rw [decide_eq_true_eq] at named
    obtain ⟨turned, member, rfl⟩ := List.mem_map.mp (List.mem_of_find?_eq_some found)
    refine ⟨loadable, turned, member, rfl, named, touches, ?_⟩
    rw [turned.path_place]
    exact published.made.moduleAt published.modules member

/-- The patches of a generated module are those of its target. -/
theorem Turned.mem_runs (made : Materialized profile turns) {turned : Turned profile} (member : turned ∈ turns)
    {patch : PatchSpec} : patch ∈ turned.output.patches ↔ turned.Has patch := by
  rw [turned.runs, sortedPatches, List.mem_insertionSort, made.patches member, List.mem_filter, decide_eq_true_eq]
  exact Iff.rfl

/-- What the adapters of a target leave: its own copy, and nothing of another target. -/
theorem Sound.ran (made : Materialized profile turns) (sound : Sound turns process) (loadable : Loadable profile)
    {turned : Turned profile} (member : turned ∈ turns) (fresh : process.copies turned.entry.module = none)
    {raises : String → Bool} {copy : Option Copy}
    (landed : copy = some .failed ∨ ((runAdapters raises (process.env roleEnv) turned.output.patches).2 = true ∧
      copy = some (.overlay turned.place turned.entry.outputSourceHash (process.env roleEnv)))) :
    Sound turns { process with
      copies := Function.update process.copies turned.entry.module copy
      executed := process.executed ++ (runAdapters raises (process.env roleEnv) turned.output.patches).1 } := by
  refine ⟨sound.finder, ?_⟩
  intro other among
  have before := sound.agrees other among
  by_cases same : other.entry.module = turned.entry.module
  · obtain rfl := made.module_unique loadable among member same
    rw [fresh] at before
    simp only [Function.update_self]
    rcases landed with rfl | ⟨completed, rfl⟩
    · trivial
    · refine ⟨rfl, rfl, ?_⟩
      intro patch has
      rw [List.mem_append, or_iff_right (before patch has), mem_runAdapters completed]
      constructor
      · rintro ⟨ran, listed, runs, identified⟩
        obtain rfl := patch_unique ((Turned.mem_runs made among).mp listed).1 has.1 identified
        exact runs
      · exact fun runs => ⟨patch, (Turned.mem_runs made among).mpr has, runs, rfl⟩
  · simp only [Function.update_of_ne same]
    refine before.extend fun patch has => ?_
    rw [List.mem_append, or_iff_left]
    intro ran
    obtain ⟨runner, listed, identified⟩ := runAdapters_subset ran
    obtain rfl := patch_unique ((Turned.mem_runs made member).mp listed).1 has.1 identified
    have keys := has.2.symm.trans ((Turned.mem_runs made member).mp listed).2
    exact same (congrArg (fun turned => turned.entry.module)
      (made.turn_unique among member (congrArg Key.file keys)))

/-- A copy from the distribution, or a body that raised, where there was none. -/
theorem Sound.plain (sound : Sound turns process) {module : String} (fresh : process.copies module = none)
    {copy : Copy} (landed : copy = .failed ∨ copy = .base) :
    Sound turns { process with copies := Function.update process.copies module (some copy) } := by
  refine ⟨sound.finder, ?_⟩
  intro turned member
  have before := sound.agrees turned member
  by_cases same : turned.entry.module = module
  · rw [same, fresh] at before
    simp only [same, Function.update_self]
    rcases landed with rfl | rfl
    · trivial
    · exact before
  · simp only [Function.update_of_ne same]
    exact before

theorem Sound.importModule (published : Published profile bootstrap turns setting.root) (sound : Sound turns process)
    (module : String) (answer : Answer) : Sound turns (Overlay.importModule setting process module answer).1 := by
  rw [Overlay.importModule]
  split
  · exact sound
  · exact sound
  · rename_i fresh
    split
    · rename_i entry served
      obtain ⟨loadable, turned, member, rfl, rfl, -, file⟩ := findSpec_served published sound served
      rw [execModule, file]
      dsimp only
      rw [if_neg (not_not.mpr turned.hash.symm)]
      split
      · exact sound.plain fresh (Or.inl rfl)
      · split
        · rename_i completed
          rw [turned.path_place]
          exact sound.ran published.made loadable member fresh (Or.inr ⟨completed, rfl⟩)
        · exact sound.ran published.made loadable member fresh (Or.inl rfl)
    · split
      · exact sound.plain fresh (Or.inl rfl)
      · exact sound.plain fresh (Or.inr rfl)

end Invariant

end ExaServe.Compat.Overlay
