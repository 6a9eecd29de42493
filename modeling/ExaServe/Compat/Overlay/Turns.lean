import ExaServe.Compat.Overlay.Manifest

namespace ExaServe.Compat.Overlay

open Lib Plan Control
open RawReceipt (sortedUnique)

section Names

/-- What `_module_name` takes: a relative path that does not climb and ends in a Python file. -/
structure Safe (relative : String) : Prop where
  local_ : isAbsolute relative = false
  climbless : "..".toList ∉ pathParts relative
  suffixed : (splitSuffix (fileName relative)).2 = ".py".toList
  nonempty : moduleParts relative ≠ []

theorem moduleName_ok_iff {relative module : String} : moduleName relative = .ok module ↔
    Safe relative ∧ String.ofList (['.'].intercalate (moduleParts relative)) = module := by
  rw [moduleName]
  split
  · rename_i unsafe_
    constructor
    · intro same
      cases same
    · rintro ⟨safe, _⟩
      rcases unsafe_ with suffix | absolute | climbs
      · exact absurd safe.suffixed suffix
      · rw [safe.local_] at absolute
        cases absolute
      · exact absurd climbs safe.climbless
  · rename_i safe
    rw [not_or, not_or, not_not, Bool.not_eq_true] at safe
    split
    · rename_i empty
      exact ⟨fun same => (by cases same), fun held => absurd empty held.1.nonempty⟩
    · rename_i nonempty
      rw [Except.ok.injEq]
      exact ⟨fun same => ⟨⟨safe.2.1, safe.2.2, safe.1, nonempty⟩, same⟩, fun held => held.2⟩

theorem intercalate_nonempty {name : Part} {names : List Part} (member : name ∈ names) (filled : name ≠ []) :
    ['.'].intercalate names ≠ [] := by
  induction names with
  | nil => cases member
  | cons first rest ih =>
    cases rest with
    | nil =>
      obtain rfl := List.mem_singleton.mp member
      simpa [List.intercalate] using filled
    | cons second rest => simp [List.intercalate]

theorem pathParts_nonempty {relative : String} {part : Part} (member : part ∈ pathParts relative) : part ≠ [] := by
  have kept := (List.mem_filter.mp member).2
  rw [decide_eq_true_eq] at kept
  exact kept.1

theorem splitSuffix_stem {name : Part} (suffixed : (splitSuffix name).2 ≠ []) : (splitSuffix name).1 ≠ [] := by
  unfold splitSuffix at suffixed ⊢
  dsimp only at suffixed ⊢
  split_ifs at suffixed ⊢ with none
  · exact absurd rfl suffixed
  · exact fun empty => none (Or.inl empty)

theorem moduleParts_nonempty {relative : String} (safe : Safe relative) {part : Part}
    (member : part ∈ moduleParts relative) : part ≠ [] := by
  rw [moduleParts, List.mem_append] at member
  rcases member with directory | last
  · exact pathParts_nonempty ((List.dropLast_subset _ directory))
  · split at last
    · cases last
    · obtain rfl := List.mem_singleton.mp last
      apply splitSuffix_stem
      rw [safe.suffixed]
      decide

theorem moduleName_nonempty {relative module : String} (named : moduleName relative = .ok module) : module ≠ "" := by
  obtain ⟨safe, rfl⟩ := moduleName_ok_iff.mp named
  obtain ⟨part, rest, split⟩ := List.exists_cons_of_ne_nil safe.nonempty
  have member : part ∈ moduleParts relative := by
    rw [split]
    exact List.mem_cons_self
  intro empty
  exact intercalate_nonempty member (moduleParts_nonempty safe member)
    (String.ofList_injective (empty.trans String.ofList_nil.symm))

/-- The path of a target below the directory of the modules. -/
theorem pathParts_below (relative : String) :
    pathParts ("modules/" ++ relative) = "modules".toList :: pathParts relative := by
  have whole : ("modules/" ++ relative).toList = "modules".toList ++ '/' :: relative.toList := by
    rw [String.toList_append]
    rfl
  rw [pathParts, whole, List.splitOn_append_cons_self, List.splitOn_eq_singleton (by decide), List.filter_append,
    List.filter_cons_of_pos (by decide)]
  rfl

end Names

section Turns

variable (profile : Profile) (distributions : Distributions)

def sortedPatches (patches : List PatchSpec) : List PatchSpec :=
  patches.insertionSort fun left right => left.patchId ≤ right.patchId

/-- A target that was materialized: its entry and its generated module. -/
structure Turned where
  key : Key
  patches : List PatchSpec
  entry : Entry
  output : Generated profile.profileId
  named : moduleName key.file = .ok entry.module
  path : entry.relativePath = "modules/" ++ key.file
  distribution : entry.distribution = key.distribution
  version : entry.version = key.version
  base : entry.baseSourceHash = key.sourceHash
  hash : entry.outputSourceHash = Sha256.hexdigest output.bytes
  ids : entry.patchIds = (sortedPatches patches).map PatchSpec.patchId
  runs : output.patches = sortedPatches patches

variable {profile}

def Turned.group (turned : Turned profile) : Key × List PatchSpec := (turned.key, turned.patches)

def Turned.place (turned : Turned profile) : List Part := "modules".toList :: pathParts turned.key.file

def Turned.file (turned : Turned profile) : List Part × Generated profile.profileId := (turned.place, turned.output)

theorem Turned.path_place (turned : Turned profile) : pathParts turned.entry.relativePath = turned.place := by
  rw [turned.path, pathParts_below, place]

variable {distributions}

theorem generate_ok {base : Bytes} {patches : List PatchSpec} {output : Generated profile.profileId}
    (done : generate profile base patches = .ok output) : output.patches = patches := by
  rw [generate] at done
  split at done
  · cases done
  · cases done
    rfl

/-- What a turn adds. -/
theorem addTarget_ok {made after : List Entry × Modules profile.profileId} {group : Key × List PatchSpec}
    (done : addTarget profile distributions made group = .ok after) :
    ∃ turned : Turned profile, turned.group = group ∧ Free made.2 turned.place ∧
      after = (made.1 ++ [turned.entry], made.2 ++ [turned.file]) := by
  obtain ⟨base, _, rest⟩ := bind_ok done
  obtain ⟨output, generated, rest⟩ := bind_ok rest
  obtain ⟨module, named, rest⟩ := bind_ok rest
  obtain ⟨_, free, rest⟩ := bind_ok rest
  cases rest
  exact ⟨{ key := group.1, patches := group.2, entry := _, output, named, path := rfl, distribution := rfl
           version := rfl, base := rfl, hash := rfl, ids := rfl, runs := generate_ok generated },
    rfl, ensure_holds free, rfl⟩

/-- The turns over the targets, each at a place of its own. -/
theorem turns_ok {groups : List (Key × List PatchSpec)} {made : List Entry × Modules profile.profileId}
    (done : groups.foldlM (addTarget profile distributions) ([], []) = .ok made) :
    ∃ turns : List (Turned profile), turns.map Turned.group = groups ∧
      made = (turns.map Turned.entry, turns.map Turned.file) ∧ (turns.map Turned.place).Nodup := by
  induction groups using List.reverseRecOn generalizing made with
  | nil =>
    cases done
    exact ⟨[], rfl, rfl, List.nodup_nil⟩
  | append_singleton groups group ih =>
    rw [List.foldlM_append] at done
    obtain ⟨before, earlier, last⟩ := bind_ok done
    obtain ⟨turns, covered, rfl, distinct⟩ := ih earlier
    rw [List.foldlM_cons] at last
    obtain ⟨after, added, finished⟩ := bind_ok last
    cases finished
    obtain ⟨turned, same, free, rfl⟩ := addTarget_ok added
    refine ⟨turns ++ [turned], by rw [List.map_append, covered, List.map_singleton, same], ?_, ?_⟩
    · rw [List.map_append, List.map_append, List.map_singleton, List.map_singleton]
    · rw [List.map_append, List.map_singleton, List.nodup_append]
      refine ⟨distinct, List.nodup_singleton _, ?_⟩
      intro place member other last_place
      obtain rfl := List.mem_singleton.mp last_place
      obtain ⟨former, listed, rfl⟩ := List.mem_map.mp member
      rintro here
      have apart := (free former.file (List.mem_map_of_mem listed)).1
      rw [Turned.file, here] at apart
      exact apart (List.prefix_refl _)

end Turns

section Groups

variable {profile : Profile} {distributions : Distributions}

theorem mem_grouped {key : Key} {patches : List PatchSpec} (member : (key, patches) ∈ profile.grouped) :
    patches = profile.selected.filter fun patch => profile.key patch = key := by
  have listed := (List.mem_insertionSort _).mp member
  rw [← findEntry_groupItems profile.key profile.selected key,
    findEntry_of_mem (groupItems_nodup profile.key profile.selected) listed]
  rfl

theorem grouped_keys (key : Key) :
    key ∈ profile.grouped.map Prod.fst ↔ ∃ patch ∈ profile.selected, profile.key patch = key := by
  rw [← mem_groupItems_keys, Profile.grouped]
  exact (List.Perm.map _ (List.perm_insertionSort _ _)).mem_iff

/-- All targets of the profile, materialized. -/
structure Materialized (profile : Profile) (turns : List (Turned profile)) : Prop where
  groups : turns.map Turned.group = profile.grouped
  apart : (turns.map Turned.place).Nodup

namespace Materialized

variable {turns : List (Turned profile)} (made : Materialized profile turns)

include made

theorem patches {turned : Turned profile} (member : turned ∈ turns) :
    turned.patches = profile.selected.filter fun patch => profile.key patch = turned.key := by
  apply mem_grouped
  rw [← made.groups]
  exact List.mem_map_of_mem member

/-- Every selected patch has its turn. -/
theorem turn_of {patch : PatchSpec} (selected : patch ∈ profile.selected) :
    ∃ turned ∈ turns, turned.key = profile.key patch := by
  have listed := (grouped_keys (profile.key patch)).mpr ⟨patch, selected, rfl⟩
  rw [← made.groups, List.map_map] at listed
  obtain ⟨turned, member, same⟩ := List.mem_map.mp listed
  exact ⟨turned, member, same⟩

/-- Every turn has a patch. -/
theorem patch_of {turned : Turned profile} (member : turned ∈ turns) :
    ∃ patch ∈ profile.selected, profile.key patch = turned.key := by
  rw [← grouped_keys, ← made.groups, List.map_map]
  exact List.mem_map_of_mem member

theorem module_of {patch : PatchSpec} (selected : patch ∈ profile.selected) :
    ∃ turned ∈ turns, turned.key = profile.key patch ∧
      moduleName (profile.target patch).file = .ok turned.entry.module := by
  obtain ⟨turned, member, same⟩ := made.turn_of selected
  refine ⟨turned, member, same, ?_⟩
  rw [← turned.named, same]
  rfl

/-- Targets of one file are one target. -/
theorem turn_unique {left right : Turned profile} (first : left ∈ turns) (second : right ∈ turns)
    (same : left.key.file = right.key.file) : left = right := by
  apply List.inj_on_of_nodup_map made.apart first second
  rw [Turned.place, same]
  rfl

end Materialized

/-- The manifest can be loaded: a patch is selected, and patches of one module are patches of one file. -/
def Loadable (profile : Profile) : Prop :=
  profile.selected ≠ [] ∧ ∀ patch ∈ profile.selected, ∀ other ∈ profile.selected,
    moduleName (profile.target patch).file = moduleName (profile.target other).file →
      (profile.target patch).file = (profile.target other).file

end Groups

end ExaServe.Compat.Overlay
