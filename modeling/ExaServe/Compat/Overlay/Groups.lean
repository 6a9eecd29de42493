import ExaServe.Compat.Overlay.Turns
import ExaServe.Lib.Positions

namespace ExaServe.Compat.Overlay

open Lib Plan Control
open RawReceipt (sortedUnique)

variable {profile : Profile}

section Expected

def Profile.inModule (profile : Profile) (module : String) (patch : PatchSpec) : Bool :=
  match moduleName (profile.target patch).file with
  | .ok name => name = module
  | .error _ => false

theorem inModule_iff {module : String} {patch : PatchSpec} :
    profile.inModule module patch = true ↔ moduleName (profile.target patch).file = .ok module := by
  rw [Profile.inModule]
  cases moduleName (profile.target patch).file with
  | error exc => simp
  | ok name => simp

theorem conflict_none_iff {held mapped : Expected} : held.conflict mapped = none ↔
    held.relativePath = mapped.relativePath ∧ held.distribution = mapped.distribution ∧
      held.version = mapped.version ∧ held.baseSourceHash = mapped.baseSourceHash := by
  rw [Expected.conflict]
  split_ifs with path distribution version hash
  · exact ⟨fun same => (by cases same), fun same => absurd same.1 path⟩
  · exact ⟨fun same => (by cases same), fun same => absurd same.2.1 distribution⟩
  · exact ⟨fun same => (by cases same), fun same => absurd same.2.2.1 version⟩
  · exact ⟨fun same => (by cases same), fun same => absurd same.2.2.2 hash⟩
  · rw [not_not] at path distribution version hash
    exact ⟨fun _ => ⟨path, distribution, version, hash⟩, fun _ => rfl⟩

/-- What the loop over the patches knows after some of them. -/
structure Grouped (profile : Profile) (patches : List PatchSpec) (groups : List Expected) : Prop where
  distinct : (groups.map Expected.module).Nodup
  covered : ∀ patch ∈ patches, ∃ group ∈ groups, moduleName (profile.target patch).file = .ok group.module
  filled : ∀ group ∈ groups, ∃ patch ∈ patches, moduleName (profile.target patch).file = .ok group.module
  agree : ∀ group ∈ groups, ∀ patch ∈ patches, moduleName (profile.target patch).file = .ok group.module →
    group.conflict (profile.mapping patch group.module) = none
  ids : ∀ group ∈ groups, group.patchIds = (patches.filter (profile.inModule group.module)).map PatchSpec.patchId

theorem grouped_nil : Grouped profile [] [] where
  distinct := List.nodup_nil
  covered := fun _ member => by cases member
  filled := fun _ member => by cases member
  agree := fun _ member => by cases member
  ids := fun _ member => by cases member

theorem filter_concat_of {module : String} {patches : List PatchSpec} {patch : PatchSpec} :
    ((patches ++ [patch]).filter (profile.inModule module)).map PatchSpec.patchId =
      (patches.filter (profile.inModule module)).map PatchSpec.patchId ++
        if profile.inModule module patch then [patch.patchId] else [] := by
  rw [List.filter_append, List.map_append]
  congr 1
  by_cases inside : profile.inModule module patch = true
  · rw [List.filter_cons_of_pos inside, if_pos inside]
    rfl
  · rw [List.filter_cons_of_neg inside, if_neg inside]
    rfl

/-- A patch of a module that no group has yet. -/
theorem Grouped.fresh {patches : List PatchSpec} {groups : List Expected} (grouped : Grouped profile patches groups)
    {patch : PatchSpec} {module : String} (named : moduleName (profile.target patch).file = .ok module)
    (new : module ∉ groups.map Expected.module) :
    Grouped profile (patches ++ [patch])
      (groups ++ [{ profile.mapping patch module with patchIds := [patch.patchId] }]) := by
  have others : ∀ group ∈ groups, profile.inModule group.module patch = false := by
    intro group member
    rw [Bool.eq_false_iff, Ne, inModule_iff, named]
    intro same
    cases same
    exact new (List.mem_map_of_mem member)
  have earlier : ∀ other ∈ patches, moduleName (profile.target other).file ≠ .ok module := by
    intro other member same
    obtain ⟨group, listed, held⟩ := grouped.covered other member
    rw [held, Except.ok.injEq] at same
    exact new (same ▸ List.mem_map_of_mem listed)
  have empty : patches.filter (profile.inModule module) = [] := by
    rw [List.filter_eq_nil_iff]
    intro other member inside
    exact earlier other member (inModule_iff.mp inside)
  refine ⟨?_, ?_, ?_, ?_, ?_⟩
  · rw [List.map_append, List.map_singleton, List.nodup_append]
    refine ⟨grouped.distinct, List.nodup_singleton _, ?_⟩
    intro name member other last
    obtain rfl := List.mem_singleton.mp last
    rintro rfl
    exact new member
  · intro other member
    rcases List.mem_append.mp member with known | last
    · obtain ⟨group, listed, held⟩ := grouped.covered other known
      exact ⟨group, List.mem_append_left _ listed, held⟩
    · obtain rfl := List.mem_singleton.mp last
      exact ⟨_, List.mem_append_right _ (List.mem_singleton.mpr rfl), named⟩
  · intro group member
    rcases List.mem_append.mp member with known | last
    · obtain ⟨other, listed, held⟩ := grouped.filled group known
      exact ⟨other, List.mem_append_left _ listed, held⟩
    · obtain rfl := List.mem_singleton.mp last
      exact ⟨patch, List.mem_append_right _ (List.mem_singleton.mpr rfl), named⟩
  · intro group member other among held
    rcases List.mem_append.mp member with known | last
    · rcases List.mem_append.mp among with early | final
      · exact grouped.agree group known other early held
      · obtain rfl := List.mem_singleton.mp final
        exact absurd (inModule_iff.mpr held) (by rw [others group known]; decide)
    · obtain rfl := List.mem_singleton.mp last
      rcases List.mem_append.mp among with early | final
      · exact absurd held (earlier other early)
      · obtain rfl := List.mem_singleton.mp final
        exact conflict_none_iff.mpr ⟨rfl, rfl, rfl, rfl⟩
  · intro group member
    rw [filter_concat_of]
    rcases List.mem_append.mp member with known | last
    · rw [others group known, if_neg (by decide), List.append_nil]
      exact grouped.ids group known
    · obtain rfl := List.mem_singleton.mp last
      change [patch.patchId] = (patches.filter (profile.inModule module)).map PatchSpec.patchId ++
        if profile.inModule module patch then [patch.patchId] else []
      rw [empty, if_pos (inModule_iff.mpr named)]
      rfl

def addPatchId (module patchId : String) (group : Expected) : Expected :=
  if group.module = module then { group with patchIds := group.patchIds ++ [patchId] } else group

theorem addPatchId_module {module patchId : String} (group : Expected) :
    (addPatchId module patchId group).module = group.module := by
  rw [addPatchId]
  split <;> rfl

theorem addPatchId_conflict {module patchId : String} (group mapped : Expected) :
    (addPatchId module patchId group).conflict mapped = group.conflict mapped := by
  rw [addPatchId]
  split <;> rfl

/-- A patch of a module that has its group. -/
theorem Grouped.joined {patches : List PatchSpec} {groups : List Expected} (grouped : Grouped profile patches groups)
    {patch : PatchSpec} {held : Expected} (member : held ∈ groups)
    (named : moduleName (profile.target patch).file = .ok held.module)
    (fits : held.conflict (profile.mapping patch held.module) = none) :
    Grouped profile (patches ++ [patch]) (groups.map (addPatchId held.module patch.patchId)) := by
  have modules : (groups.map (addPatchId held.module patch.patchId)).map Expected.module =
      groups.map Expected.module := by
    rw [List.map_map]
    exact List.map_congr_left fun group _ => addPatchId_module group
  have only : ∀ group ∈ groups, moduleName (profile.target patch).file = .ok group.module → group = held := by
    intro group listed same
    rw [named, Except.ok.injEq] at same
    exact List.inj_on_of_nodup_map grouped.distinct listed member same.symm
  refine ⟨by rw [modules]; exact grouped.distinct, ?_, ?_, ?_, ?_⟩
  · intro other among
    rcases List.mem_append.mp among with early | final
    · obtain ⟨group, listed, same⟩ := grouped.covered other early
      refine ⟨_, List.mem_map_of_mem listed, ?_⟩
      rw [addPatchId_module]
      exact same
    · obtain rfl := List.mem_singleton.mp final
      refine ⟨_, List.mem_map_of_mem member, ?_⟩
      rw [addPatchId_module]
      exact named
  · intro after listed
    obtain ⟨group, before, rfl⟩ := List.mem_map.mp listed
    obtain ⟨other, known, same⟩ := grouped.filled group before
    refine ⟨other, List.mem_append_left _ known, ?_⟩
    rw [addPatchId_module]
    exact same
  · intro after listed other among same
    obtain ⟨group, before, rfl⟩ := List.mem_map.mp listed
    rw [addPatchId_module] at same ⊢
    rw [addPatchId_conflict]
    rcases List.mem_append.mp among with early | final
    · exact grouped.agree group before other early same
    · obtain rfl := List.mem_singleton.mp final
      obtain rfl := only group before same
      exact fits
  · intro after listed
    obtain ⟨group, before, rfl⟩ := List.mem_map.mp listed
    rw [addPatchId_module, filter_concat_of, ← grouped.ids group before, addPatchId]
    by_cases here : group.module = held.module
    · rw [if_pos here, if_pos (inModule_iff.mpr (here ▸ named))]
    · rw [if_neg here, if_neg, List.append_nil]
      intro inside
      exact here (congrArg Expected.module (only group before (inModule_iff.mp inside)))

theorem find_module {groups : List Expected} {module : String} {held : Expected}
    (found : (groups.find? fun group => group.module = module) = some held) :
    held ∈ groups ∧ held.module = module := by
  refine ⟨List.mem_of_find?_eq_some found, ?_⟩
  have same := List.find?_some found
  rwa [decide_eq_true_eq] at same

/-- A turn of the loop: the patch's module is one that has a group it agrees with, or a new one. -/
theorem expectPatch_ok {groups after : List Expected} {patch : PatchSpec}
    (done : expectPatch profile groups patch = .ok after) :
    ∃ module, moduleName (profile.target patch).file = .ok module ∧
      ((module ∉ groups.map Expected.module ∧
          after = groups ++ [{ profile.mapping patch module with patchIds := [patch.patchId] }]) ∨
        ∃ held ∈ groups, held.module = module ∧ held.conflict (profile.mapping patch module) = none ∧
          after = groups.map (addPatchId module patch.patchId)) := by
  obtain ⟨module, named, rest⟩ := bind_ok done
  refine ⟨module, named, ?_⟩
  dsimp only at rest
  cases found : groups.find? fun group => group.module = module with
  | none =>
    rw [found] at rest
    cases rest
    refine Or.inl ⟨?_, rfl⟩
    intro known
    obtain ⟨group, listed, same⟩ := List.mem_map.mp known
    exact absurd (List.find?_eq_none.mp found group listed) (by simp [same])
  | some held =>
    rw [found] at rest
    obtain ⟨member, same⟩ := find_module found
    dsimp only at rest
    cases fits : held.conflict (profile.mapping patch module) with
    | some name =>
      rw [fits] at rest
      cases rest
    | none =>
      rw [fits] at rest
      cases rest
      exact Or.inr ⟨held, member, same, fits, rfl⟩

theorem Grouped.step {patches : List PatchSpec} {groups after : List Expected}
    (grouped : Grouped profile patches groups) {patch : PatchSpec}
    (done : expectPatch profile groups patch = .ok after) : Grouped profile (patches ++ [patch]) after := by
  obtain ⟨module, named, new | known⟩ := expectPatch_ok done
  · rw [new.2]
    exact grouped.fresh named new.1
  · obtain ⟨held, member, rfl, fits, rfl⟩ := known
    exact grouped.joined member named fits

theorem grouped_of_fold {patches : List PatchSpec} {groups : List Expected}
    (done : patches.foldlM (expectPatch profile) [] = .ok groups) : Grouped profile patches groups := by
  induction patches using List.reverseRecOn generalizing groups with
  | nil =>
    cases done
    exact grouped_nil
  | append_singleton patches patch ih =>
    rw [List.foldlM_append] at done
    obtain ⟨before, earlier, last⟩ := bind_ok done
    rw [List.foldlM_cons] at last
    obtain ⟨after, added, finished⟩ := bind_ok last
    cases finished
    exact (ih earlier).step added

/-- Patches whose modules agree on their targets are all grouped. -/
theorem fold_grouped {patches : List PatchSpec}
    (named : ∀ patch ∈ patches, ∃ module, moduleName (profile.target patch).file = .ok module)
    (agree : ∀ patch ∈ patches, ∀ other ∈ patches,
      moduleName (profile.target patch).file = moduleName (profile.target other).file →
        profile.key patch = profile.key other) :
    ∃ groups, patches.foldlM (expectPatch profile) [] = .ok groups := by
  induction patches using List.reverseRecOn with
  | nil => exact ⟨[], rfl⟩
  | append_singleton patches patch ih =>
    obtain ⟨groups, earlier⟩ := ih (fun other member => named other (List.mem_append_left _ member))
      (fun one first other second => agree one (List.mem_append_left _ first) other (List.mem_append_left _ second))
    have last : patch ∈ patches ++ [patch] := List.mem_append_right _ (List.mem_singleton.mpr rfl)
    obtain ⟨module, name⟩ := named patch last
    have grouped := grouped_of_fold earlier
    have turn : ∃ after, expectPatch profile groups patch = .ok after := by
      rw [expectPatch, ok_bind name]
      dsimp only
      cases found : groups.find? fun group => group.module = module with
      | none => exact ⟨_, rfl⟩
      | some held =>
        obtain ⟨member, rfl⟩ := find_module found
        obtain ⟨other, among, same⟩ := grouped.filled held member
        have shared := agree other (List.mem_append_left _ among) patch last (same.trans name.symm)
        have fits := conflict_none_iff.mp (grouped.agree held member other among same)
        have target : held.conflict (profile.mapping patch held.module) = none := by
          rw [conflict_none_iff]
          have file := congrArg Key.file shared
          have distribution := congrArg Key.distribution shared
          have version := congrArg Key.version shared
          have hash := congrArg Key.sourceHash shared
          dsimp only [Profile.key] at file distribution version hash
          dsimp only [Profile.mapping] at fits ⊢
          rw [← file, ← distribution, ← version, ← hash]
          exact fits
        dsimp only
        rw [target]
        exact ⟨_, rfl⟩
    obtain ⟨after, added⟩ := turn
    refine ⟨after, ?_⟩
    rw [List.foldlM_append, ok_bind earlier, List.foldlM_cons, ok_bind added]
    rfl

end Expected

end ExaServe.Compat.Overlay
