import ExaServe.Compat.Overlay.Groups

namespace ExaServe.Compat.Overlay

open Lib Plan Control
open RawReceipt (sortedUnique mem_sortedUnique sortedUnique_of_lt)
open Json (fieldOf fieldOf_stored)

variable {profile : Profile}

section Stored

theorem Entry.distinct (entry : Entry) : (Json.fieldNames entry.fields).Nodup := by
  change entryNames.Nodup
  decide

theorem mapM_texts (texts : List String) : (texts.map Json.str).mapM textOf = some texts := by
  induction texts with
  | nil => rfl
  | cons text texts ih => simp [textOf, ih]

theorem canonical_texts (texts : List String) : (Json.arr (texts.map .str)).canonical = .arr (texts.map .str) := by
  rw [Json.canonical, Json.canonicalItems_eq_map, List.map_map]
  rfl

/-- An entry that was written is read back. -/
theorem readEntry_stored (entry : Entry) : readEntry (Json.obj entry.fields).canonical = .ok entry := by
  have shape : Json.sameNames entry.fields entryNames = true := by
    simp [Json.sameNames, Json.fieldNames, Entry.fields, entryNames]
  have found := @fieldOf_stored entry.fields entry.distinct
  have module := @found "module" (.str entry.module) (by simp [Entry.fields])
  have path := @found "relative_path" (.str entry.relativePath) (by simp [Entry.fields])
  have distribution := @found "distribution" (.str entry.distribution) (by simp [Entry.fields])
  have version := @found "version" (.str entry.version) (by simp [Entry.fields])
  have base := @found "base_source_hash" (.str entry.baseSourceHash) (by simp [Entry.fields])
  have output := @found "output_source_hash" (.str entry.outputSourceHash) (by simp [Entry.fields])
  have ids := @found "patch_ids" (.arr (entry.patchIds.map .str)) (by simp [Entry.fields])
  rw [canonical_texts] at ids
  change fieldOf _ _ = _ at module path distribution version base output ids
  rw [Json.canonical, readEntry, Json.sameNames_stored, if_pos shape, Entry.ofFields, module, path, distribution,
    version, base, output, ids]
  have texts : textsOf (.arr (entry.patchIds.map .str)) = some entry.patchIds := mapM_texts entry.patchIds
  rw [texts]
  rfl

end Stored

section Facts

theorem selected_mem {patch : PatchSpec} (selected : patch ∈ profile.selected) : patch ∈ profile.patches :=
  (List.mem_filter.mp selected).1

theorem selected_distinct (profile : Profile) : (profile.selected.map PatchSpec.patchId).Nodup :=
  profile.distinct.sublist (List.filter_sublist.map _)

theorem sorted_ids (patches : List PatchSpec) :
    (sortedPatches patches).map PatchSpec.patchId = (patches.map PatchSpec.patchId).insertionSort (· ≤ ·) :=
  List.map_insertionSort _ _ _ _ fun _ _ _ _ => Iff.rfl

variable {turns : List (Turned profile)} (made : Materialized profile turns)

include made

/-- Where the manifest can be loaded a module is that of one target. -/
theorem Materialized.module_unique (loadable : Loadable profile) {left right : Turned profile}
    (first : left ∈ turns) (second : right ∈ turns) (same : left.entry.module = right.entry.module) :
    left = right := by
  obtain ⟨patch, chosen, key⟩ := made.patch_of first
  obtain ⟨other, picked, other_key⟩ := made.patch_of second
  have files := loadable.2 patch chosen other picked (by
    have one := left.named
    have two := right.named
    rw [← key] at one
    rw [← other_key] at two
    exact one.trans (same ▸ two.symm))
  apply made.turn_unique first second
  rw [← key, ← other_key]
  exact files

theorem Materialized.modules_distinct (loadable : Loadable profile) :
    (turns.map fun turned => turned.entry.module).Nodup :=
  List.Nodup.map_on (fun _ first _ second same => made.module_unique loadable first second same)
    (List.Nodup.of_map _ made.apart)

/-- The patches of a module are those of its target. -/
theorem Materialized.in_module (loadable : Loadable profile) {turned : Turned profile} (member : turned ∈ turns)
    {patch : PatchSpec} (selected : patch ∈ profile.selected) :
    moduleName (profile.target patch).file = .ok turned.entry.module ↔ profile.key patch = turned.key := by
  obtain ⟨other, listed, key, named⟩ := made.module_of selected
  constructor
  · intro same
    rw [named, Except.ok.injEq] at same
    rw [← key, made.module_unique loadable listed member same]
  · intro same
    rw [← turned.named, ← same]
    rfl

theorem Materialized.patches_module (loadable : Loadable profile) {turned : Turned profile}
    (member : turned ∈ turns) :
    profile.selected.filter (profile.inModule turned.entry.module) = turned.patches := by
  rw [made.patches member]
  apply List.filter_congr
  intro patch selected
  rw [Bool.eq_iff_iff, inModule_iff, decide_eq_true_eq]
  exact made.in_module loadable member selected

/-- The identifiers of an entry are sorted and do not repeat. -/
theorem Materialized.ids_sorted {turned : Turned profile} (member : turned ∈ turns) :
    turned.entry.patchIds = sortedUnique turned.entry.patchIds := by
  have nodup : turned.entry.patchIds.Nodup := by
    rw [turned.ids, sorted_ids, made.patches member]
    apply (List.perm_insertionSort _ _).nodup_iff.mpr
    exact (selected_distinct profile).sublist (List.filter_sublist.map _)
  have sorted : turned.entry.patchIds.Pairwise (· ≤ ·) := by
    rw [turned.ids, sorted_ids]
    exact List.pairwise_insertionSort _ _
  have strict : turned.entry.patchIds.Pairwise (· < ·) :=
    (sorted.and nodup).imp fun both => lt_of_le_of_ne both.1 both.2
  exact (sortedUnique_of_lt strict).symm

theorem Materialized.mem_ids {turned : Turned profile} (member : turned ∈ turns) {id : String} :
    id ∈ turned.entry.patchIds ↔ ∃ patch ∈ profile.selected, profile.key patch = turned.key ∧ patch.patchId = id := by
  rw [turned.ids, sorted_ids, List.mem_insertionSort, made.patches member, List.mem_map]
  constructor
  · rintro ⟨patch, listed, same⟩
    obtain ⟨selected, key⟩ := List.mem_filter.mp listed
    exact ⟨patch, selected, of_decide_eq_true key, same⟩
  · rintro ⟨patch, selected, key, same⟩
    exact ⟨patch, List.mem_filter.mpr ⟨selected, decide_eq_true key⟩, same⟩

theorem Materialized.well_formed {turned : Turned profile} (member : turned ∈ turns) : turned.entry.WellFormed := by
  obtain ⟨patch, selected, key⟩ := made.patch_of member
  have listed := selected_mem selected
  have targeted := profile.targeted patch listed
  refine ⟨moduleName_nonempty turned.named, ?_, ?_, ?_, ?_, made.ids_sorted member, ?_, ?_⟩
  · rw [turned.distribution, ← key]
    exact targeted.1
  · rw [turned.version, ← key]
    exact targeted.2
  · exact List.ne_nil_of_mem ((made.mem_ids member).mpr ⟨patch, selected, key, rfl⟩)
  · intro id inside
    obtain ⟨other, chosen, _, rfl⟩ := (made.mem_ids member).mp inside
    exact profile.named other (selected_mem chosen)
  · rw [turned.base, ← key]
    exact profile.hashed patch listed
  · rw [turned.hash]
    exact isSha256Hex_hexdigest _

/-- What the profile expects of a module is what its entry says. -/
theorem Materialized.expected (loadable : Loadable profile) {turned : Turned profile} (member : turned ∈ turns)
    {groups : List Expected} (grouped : Grouped profile profile.selected groups) :
    ((groups.map fun group => { group with patchIds := group.patchIds.insertionSort (· ≤ ·) }).find?
      fun group => group.module = turned.entry.module) = some turned.entry.expected := by
  obtain ⟨patch, selected, key⟩ := made.patch_of member
  have named := (made.in_module loadable member selected).mpr key
  obtain ⟨group, listed, held⟩ := grouped.covered patch selected
  have same : group.module = turned.entry.module := by
    rw [held, Except.ok.injEq] at named
    exact named
  have fits := conflict_none_iff.mp (grouped.agree group listed patch selected held)
  have ids : group.patchIds.insertionSort (· ≤ ·) = turned.entry.patchIds := by
    rw [grouped.ids group listed, same, made.patches_module loadable member, turned.ids, sorted_ids]
  have shown : { group with patchIds := group.patchIds.insertionSort (· ≤ ·) } = turned.entry.expected := by
    have file := congrArg Key.file key
    have distribution := congrArg Key.distribution key
    have version := congrArg Key.version key
    have hash := congrArg Key.sourceHash key
    dsimp only [Profile.key] at file distribution version hash
    rw [Expected.mk.injEq]
    refine ⟨same, ?_, ?_, ?_, ?_, ids⟩
    · change group.relativePath = turned.entry.relativePath
      rw [fits.1, turned.path, ← file]
      rfl
    · change group.distribution = turned.entry.distribution
      rw [fits.2.1, turned.distribution, ← distribution]
      rfl
    · change group.version = turned.entry.version
      rw [fits.2.2.1, turned.version, ← version]
      rfl
    · change group.baseSourceHash = turned.entry.baseSourceHash
      rw [fits.2.2.2, turned.base, ← hash]
      rfl
  have distinct : ((groups.map fun group =>
      { group with patchIds := group.patchIds.insertionSort (· ≤ ·) }).map Expected.module).Nodup := by
    rw [List.map_map]
    exact grouped.distinct
  have found := find?_key distinct (List.mem_map_of_mem (f := fun group : Expected =>
    { group with patchIds := group.patchIds.insertionSort (· ≤ ·) }) listed)
  rw [shown] at found
  exact found

theorem Materialized.moduleAt {root : Root profile} (stored : root.modules = turns.map Turned.file)
    {turned : Turned profile} (member : turned ∈ turns) : root.moduleAt turned.place = some turned.output := by
  have distinct : ((turns.map Turned.file).map Prod.fst).Nodup := by
    rw [List.map_map]
    exact made.apart
  have found := find?_key distinct (List.mem_map_of_mem member)
  rw [Root.moduleAt, stored]
  rw [Turned.file] at found
  rw [found]
  rfl

/-- The turn of an entry that the profile expects and whose file is there. -/
theorem Materialized.checkEntry (loadable : Loadable profile) {turned : Turned profile} (member : turned ∈ turns)
    {root : Root profile} (stored : root.modules = turns.map Turned.file) {groups : List Expected}
    (grouped : Grouped profile profile.selected groups) {seen : List Entry}
    (new : turned.entry.module ∉ seen.map Entry.module) :
    Overlay.checkEntry (groups.map fun group => { group with patchIds := group.patchIds.insertionSort (· ≤ ·) }) root
      seen (Json.obj turned.entry.fields).canonical = .ok (seen ++ [turned.entry]) := by
  obtain ⟨safe, _⟩ := moduleName_ok_iff.mp turned.named
  have place := turned.path_place
  have local_ : isAbsolute turned.entry.relativePath = false := by
    rw [turned.path, isAbsolute, String.toList_append]
    rfl
  have climbless : "..".toList ∉ pathParts turned.entry.relativePath := by
    rw [place, Turned.place, List.mem_cons, not_or]
    exact ⟨by decide, safe.climbless⟩
  rw [Overlay.checkEntry, ok_bind (readEntry_stored turned.entry),
    ok_bind (ensure_ok ⟨made.well_formed member, new⟩ _),
    ok_bind (ensure_ok (made.expected loadable member grouped) _), ok_bind (ensure_ok ⟨local_, climbless⟩ _), place,
    made.moduleAt stored member]
  change (ensure _ _ >>= _) = _
  rw [ok_bind (ensure_ok turned.hash.symm _)]

/-- The turns of all entries, in their order. -/
theorem Materialized.checkEntries (loadable : Loadable profile) {root : Root profile}
    (stored : root.modules = turns.map Turned.file) {groups : List Expected}
    (grouped : Grouped profile profile.selected groups) {taken : List (Turned profile)} (among : taken <+: turns) :
    (taken.map fun turned => (Json.obj turned.entry.fields).canonical).foldlM
      (Overlay.checkEntry
        (groups.map fun group => { group with patchIds := group.patchIds.insertionSort (· ≤ ·) }) root)
      [] = .ok (taken.map Turned.entry) := by
  induction taken using List.reverseRecOn with
  | nil => rfl
  | append_singleton taken turned ih =>
    have earlier := ih ((List.prefix_append taken [turned]).trans among)
    have member : turned ∈ turns := among.subset (List.mem_append_right _ (List.mem_singleton.mpr rfl))
    have distinct := (made.modules_distinct loadable).sublist (among.sublist.map _)
    rw [List.map_append, List.map_singleton, List.nodup_append] at distinct
    have new : turned.entry.module ∉ (taken.map Turned.entry).map Entry.module := by
      rw [List.map_map]
      intro known
      exact distinct.2.2 _ known _ (List.mem_singleton.mpr rfl) rfl
    rw [List.map_append, List.map_singleton, List.foldlM_append, ok_bind earlier, List.foldlM_cons,
      ok_bind (made.checkEntry loadable member stored grouped new), List.map_append]
    rfl

theorem Materialized.same_ids : SameSet ((turns.map Turned.entry).flatMap Entry.patchIds)
    (profile.selected.map PatchSpec.patchId) := by
  constructor
  · intro id listed
    obtain ⟨entry, known, inside⟩ := List.mem_flatMap.mp listed
    obtain ⟨turned, member, rfl⟩ := List.mem_map.mp known
    obtain ⟨patch, selected, _, same⟩ := (made.mem_ids member).mp inside
    exact List.mem_map.mpr ⟨patch, selected, same⟩
  · intro id listed
    obtain ⟨patch, selected, rfl⟩ := List.mem_map.mp listed
    obtain ⟨turned, member, key⟩ := made.turn_of selected
    exact List.mem_flatMap.mpr ⟨turned.entry, List.mem_map_of_mem member,
      (made.mem_ids member).mpr ⟨patch, selected, key.symm, rfl⟩⟩

theorem Materialized.same_modules {groups : List Expected} (grouped : Grouped profile profile.selected groups) :
    SameSet ((turns.map Turned.entry).map Entry.module)
      ((groups.map fun group =>
        { group with patchIds := group.patchIds.insertionSort (· ≤ ·) }).map Expected.module) := by
  rw [List.map_map, List.map_map]
  constructor
  · intro module listed
    obtain ⟨turned, member, rfl⟩ := List.mem_map.mp listed
    obtain ⟨patch, selected, key⟩ := made.patch_of member
    obtain ⟨group, known, held⟩ := grouped.covered patch selected
    refine List.mem_map.mpr ⟨group, known, ?_⟩
    have named := turned.named
    rw [← key] at named
    exact Except.ok.inj (held.symm.trans named)
  · intro module listed
    obtain ⟨group, known, rfl⟩ := List.mem_map.mp listed
    obtain ⟨patch, selected, held⟩ := grouped.filled group known
    obtain ⟨turned, member, _, named⟩ := made.module_of selected
    exact List.mem_map.mpr ⟨turned, member, Except.ok.inj (named.symm.trans held)⟩

/-- The entries of a manifest pass exactly where it can be loaded. -/
theorem Materialized.loadEntries {root : Root profile} (stored : root.modules = turns.map Turned.file) :
    (Loadable profile → Overlay.loadEntries root (turns.map fun turned => (Json.obj turned.entry.fields).canonical) =
      .ok (turns.map Turned.entry)) ∧
    ∀ entries, Overlay.loadEntries root (turns.map fun turned => (Json.obj turned.entry.fields).canonical) =
      .ok entries → Loadable profile := by
  constructor
  · intro loadable
    obtain ⟨patch, rest, chosen⟩ := List.exists_cons_of_ne_nil loadable.1
    have selected : patch ∈ profile.selected := by
      rw [chosen]
      exact List.mem_cons_self
    obtain ⟨turned, member, _⟩ := made.turn_of selected
    obtain ⟨groups, folded⟩ := fold_grouped
      (fun patch selected => by
        obtain ⟨turned, _, _, named⟩ := made.module_of selected
        exact ⟨_, named⟩)
      (fun patch selected other picked same => by
        obtain ⟨turned, member, key, named⟩ := made.module_of selected
        rw [← key, (made.in_module loadable member picked).mp (same ▸ named)])
    have grouped := grouped_of_fold folded
    have nonempty : turns.map (fun turned => (Json.obj turned.entry.fields).canonical) ≠ [] :=
      List.ne_nil_of_mem (List.mem_map_of_mem member)
    have expected : expectedGroups profile =
        .ok (groups.map fun group => { group with patchIds := group.patchIds.insertionSort (· ≤ ·) }) := by
      rw [expectedGroups, ok_bind folded]
    rw [Overlay.loadEntries, ok_bind (ensure_ok nonempty _), ok_bind expected,
      ok_bind (made.checkEntries loadable stored grouped (List.prefix_refl turns)),
      ok_bind (ensure_ok made.same_ids _),
      ok_bind (ensure_ok (made.same_modules grouped) _)]
  · intro entries loaded
    obtain ⟨_, filled, rest⟩ := bind_ok loaded
    obtain ⟨groups, found, _⟩ := bind_ok rest
    obtain ⟨before, folded, _⟩ := bind_ok found
    have grouped := grouped_of_fold folded
    constructor
    · intro empty
      apply ensure_holds filled
      cases turns with
      | nil => rfl
      | cons turned turns =>
        obtain ⟨patch, selected, _⟩ := made.patch_of List.mem_cons_self
        rw [empty] at selected
        cases selected
    · intro patch selected other picked same
      obtain ⟨group, listed, held⟩ := grouped.covered patch selected
      have one := (conflict_none_iff.mp (grouped.agree group listed patch selected held)).1
      have two := (conflict_none_iff.mp (grouped.agree group listed other picked (same ▸ held))).1
      have paths : "modules/" ++ (profile.target patch).file = "modules/" ++ (profile.target other).file :=
        one.symm.trans two
      have texts := congrArg String.toList paths
      rw [String.toList_append, String.toList_append] at texts
      exact String.toList_injective (List.append_cancel_left texts)

end Facts

section RoundTrip

variable {distributions : Distributions} {bootstrap : String} {occupied : Bool}

/-- What `materialize` leaves when it succeeds. -/
structure Published (profile : Profile) (bootstrap : String) (turns : List (Turned profile)) (root : Root profile) :
    Prop where
  made : Materialized profile turns
  modules : root.modules = turns.map Turned.file
  source : root.bootstrap = encodeUtf8 bootstrap
  manifest : root.manifest = Json.fileBytes
    (.obj (manifestFields profile (turns.map Turned.entry) (Sha256.hexdigest (encodeUtf8 bootstrap))))

theorem materialize_ok {entries : List Entry} {root : Root profile}
    (done : materialize profile distributions bootstrap occupied = .ok (entries, root)) :
    ∃ turns, Published profile bootstrap turns root ∧ entries = turns.map Turned.entry := by
  obtain ⟨_, _, rest⟩ := bind_ok done
  obtain ⟨made, folded, rest⟩ := bind_ok rest
  cases rest
  obtain ⟨turns, groups, rfl, apart⟩ := turns_ok folded
  exact ⟨turns, ⟨⟨groups, apart⟩, rfl, rfl, rfl⟩, rfl⟩

variable (entries : List Entry) (hash : String)

theorem manifest_distinct : (Json.fieldNames (manifestFields profile entries hash)).Nodup := by
  change ["schema_version", "profile_id", "entries", "bootstrap_source_hash", "manifest_hash"].Nodup
  decide

theorem manifest_keyed : Json.wellKeyed (.obj (manifestFields profile entries hash)) = true := by
  have texts : ∀ texts : List String, Json.wellKeyedItems (texts.map .str) = true := by
    intro texts
    rw [Json.wellKeyedItems_iff]
    intro item member
    obtain ⟨text, _, rfl⟩ := List.mem_map.mp member
    rfl
  have listed : Json.wellKeyedItems (entries.map fun entry => .obj entry.fields) = true := by
    rw [Json.wellKeyedItems_iff]
    intro item member
    obtain ⟨entry, _, rfl⟩ := List.mem_map.mp member
    rw [Json.wellKeyed, decide_eq_true entry.distinct]
    simp only [Entry.fields, Json.wellKeyedFields, Json.wellKeyed, texts, Bool.and_self]
  rw [Json.wellKeyed, decide_eq_true (manifest_distinct entries hash)]
  simp only [manifestFields, manifestBody, List.cons_append, List.nil_append, Json.wellKeyedFields, Json.wellKeyed,
    listed, Bool.and_self]

theorem hash_stored : canonicalHash (.obj
    ((Json.sortFields (Json.canonicalFields (manifestFields profile entries hash))).filter fun field =>
      field.1 ≠ "manifest_hash")) = canonicalHash (.obj (manifestBody profile entries hash)) := by
  have body : (Json.canonicalFields (manifestFields profile entries hash)).filter
      (fun field => field.1 ≠ "manifest_hash") =
      Json.canonicalFields (manifestBody profile entries hash) := by
    simp [manifestFields, manifestBody, Json.canonicalFields]
  have perm := (Json.sortFields_perm (Json.canonicalFields (manifestFields profile entries hash))).filter
    fun field => decide (field.1 ≠ "manifest_hash")
  rw [body] at perm
  have distinct : (Json.fieldNames (Json.canonicalFields (manifestBody profile entries hash))).Nodup := by
    rw [Json.fieldNames_canonicalFields]
    change ["schema_version", "profile_id", "entries", "bootstrap_source_hash"].Nodup
    decide
  have sorted := Json.sortFields_perm (Json.canonicalFields (manifestBody profile entries hash))
  rw [canonicalHash, canonicalHash, Json.dumps_obj_perm (perm.trans sorted.symm)
    ((perm.map Prod.fst).nodup_iff.mpr distinct)]
  have stored := Json.dumps_canonical (.obj (manifestBody profile entries hash))
  rw [Json.canonical] at stored
  rw [stored]

theorem Published.load {turns : List (Turned profile)} {root : Root profile}
    (published : Published profile bootstrap turns root) :
    loadManifest root = loadEntries root (turns.map fun turned => (Json.obj turned.entry.fields).canonical) := by
  have shape : Json.sameNames (manifestFields profile (turns.map Turned.entry)
      (Sha256.hexdigest (encodeUtf8 bootstrap))) manifestNames = true := by
    simp [Json.sameNames, Json.fieldNames, manifestFields, manifestBody, manifestNames]
  have found := @fieldOf_stored (manifestFields profile (turns.map Turned.entry)
    (Sha256.hexdigest (encodeUtf8 bootstrap))) (manifest_distinct _ _)
  have schema := @found "schema_version" (.int schemaVersion) (by simp [manifestFields, manifestBody])
  have named := @found "profile_id" (.str profile.profileId) (by simp [manifestFields, manifestBody])
  have listed := @found "entries" (.arr ((turns.map Turned.entry).map fun entry => .obj entry.fields))
    (by simp [manifestFields, manifestBody])
  have source := @found "bootstrap_source_hash" (.str (Sha256.hexdigest (encodeUtf8 bootstrap)))
    (by simp [manifestFields, manifestBody])
  have hashed := @found "manifest_hash" (.str (canonicalHash (.obj (manifestBody profile (turns.map Turned.entry)
    (Sha256.hexdigest (encodeUtf8 bootstrap)))))) (by simp [manifestFields])
  change fieldOf _ _ = _ at schema named listed source hashed
  have identified : identity profile (Json.sortFields (Json.canonicalFields (manifestFields profile
      (turns.map Turned.entry) (Sha256.hexdigest (encodeUtf8 bootstrap))))) =
      some (Sha256.hexdigest (encodeUtf8 bootstrap), canonicalHash (.obj (manifestBody profile
        (turns.map Turned.entry) (Sha256.hexdigest (encodeUtf8 bootstrap))))) := by
    rw [identity, schema, named, source, hashed]
    exact if_pos ⟨rfl, rfl, isSha256Hex_hexdigest _, isSha256Hex_canonicalHash _⟩
  have items : (Json.arr ((turns.map Turned.entry).map fun entry => Json.obj entry.fields)).canonical =
      .arr (turns.map fun turned => (Json.obj turned.entry.fields).canonical) := by
    rw [Json.canonical, Json.canonicalItems_eq_map, List.map_map, List.map_map]
    rfl
  rw [loadManifest, published.manifest, State.strictJson_fileBytes (manifest_keyed _ _), Json.canonical]
  dsimp only
  rw [Json.sameNames_stored, if_pos shape, identified]
  change (ensure _ _ >>= _) = _
  rw [ok_bind (ensure_ok (hash_stored _ _).symm _), ok_bind (ensure_ok (by rw [published.source]) _), listed, items]

/-- A materialized root is loaded, with the entries that were made, exactly where its profile is loadable. -/
theorem Published.load_iff {turns : List (Turned profile)} {root : Root profile}
    (published : Published profile bootstrap turns root) :
    (Loadable profile → loadManifest root = .ok (turns.map Turned.entry)) ∧
      ∀ entries, loadManifest root = .ok entries → Loadable profile := by
  rw [published.load]
  exact published.made.loadEntries published.modules

end RoundTrip

end ExaServe.Compat.Overlay
