import ExaServe.State.ResultRecords

namespace ExaServe.State.Results

open Lib Lib.FileTree Control Plan Mounts

section Reading

variable {tree : FileTree UInt8} {cwd root : AbsPath} {path : FilePath} {entry : ResultEntry}

theorem regularFile_ok_iff {start directory : List Name} {name : Name} {shown : String} {content : Bytes} :
    regularFile tree start directory name shown = .ok content ↔
      tree.nodeAt start directory name = .ok (.file content) := by
  rw [regularFile]
  cases tree.nodeAt start directory name with
  | error errno => exact ⟨nofun, nofun⟩
  | ok node =>
    cases node with
    | file held =>
      constructor
      · intro same
        cases same
        rfl
      · intro same
        cases same
        rfl
    | directory => exact ⟨nofun, nofun⟩
    | link target => exact ⟨nofun, nofun⟩
    | special => exact ⟨nofun, nofun⟩

theorem regularFileIdentity_ok_iff {file : AbsPath} {size : Nat} {digest : String} :
    regularFileIdentity tree file = .ok (size, digest) ↔ ∃ directory name content, file.names = directory ++ [name] ∧
      tree.nodeAt [] directory name = .ok (.file content) ∧ content.length = size ∧
      Sha256.hexdigest content = digest := by
  rw [regularFileIdentity]
  rcases file.names.eq_nil_or_concat with empty | ⟨directory, name, named⟩
  · rw [empty]
    constructor
    · intro never
      cases never
    · intro held
      obtain ⟨directory, name, _, split, _⟩ := held
      simp at split
  · rw [List.concat_eq_append] at named
    rw [named, List.getLast?_concat, List.dropLast_concat]
    constructor
    · intro done
      obtain ⟨content, opened, same⟩ := bind_ok done
      cases same
      exact ⟨directory, name, content, rfl, regularFile_ok_iff.mp opened, rfl, rfl⟩
    · intro held
      obtain ⟨directory', name', content, split, opened, rfl, rfl⟩ := held
      obtain ⟨rfl, same⟩ := List.append_inj' split rfl
      obtain rfl := List.singleton_inj.mp same
      exact ok_bind (regularFile_ok_iff.mpr opened) _

/-- The entry's path, from the root, opens to what the entry records. -/
def Recorded (tree : FileTree UInt8) (root : AbsPath) (entry : ResultEntry) : Prop :=
  regularFileIdentity tree (candidate root entry.path) = .ok (entry.sizeBytes, entry.sha256)

theorem verifyEntry_ok_iff :
    verifyEntry tree root entry = .ok () ↔ root.double = false ∧ Recorded tree root entry := by
  have inside : Inside root (candidate root entry.path) ↔ root.double = false := by
    rw [inside_iff, (candidate_names entry.placed root).2]
    exact and_iff_left (List.prefix_append _ _)
  rw [verifyEntry, Recorded, ← inside]
  split
  · rename_i escapes
    exact ⟨nofun, fun held => absurd held.1 escapes⟩
  · rename_i within
    rw [not_not] at within
    cases regularFileIdentity tree (candidate root entry.path) with
    | error exc => exact ⟨nofun, fun held => nomatch held.2⟩
    | ok found =>
      obtain ⟨size, digest⟩ := found
      constructor
      · intro passed
        change (if size ≠ entry.sizeBytes ∨ digest ≠ entry.sha256 then _ else _) = _ at passed
        split at passed
        · cases passed
        · rename_i same
          rw [not_or, not_not, not_not] at same
          exact ⟨within, by rw [same.1, same.2]⟩
      · intro held
        cases held.2
        exact if_neg (by simp)

/-- Real directories lead from the place to a regular file with the recorded size and hash. -/
structure Certified (tree : FileTree UInt8) (place : List Name) (entry : ResultEntry) : Prop where
  named : ∀ name ∈ entryNames entry.path, IsName name
  reached : tree.Directories place (entryNames entry.path).dropLast
  recorded : ∃ content, tree (place ++ entryNames entry.path) = some (.file content) ∧
    content.length = entry.sizeBytes ∧ Sha256.hexdigest content = entry.sha256

theorem entry_split (entry : ResultEntry) : ∃ directories name, entryNames entry.path = directories ++ [name] ∧
    ∀ other ∈ directories, IsName other := by
  obtain ⟨_, nonempty, plain⟩ := entryPath_facts entry.placed
  rcases (entryNames entry.path).eq_nil_or_concat with empty | ⟨directories, name, split⟩
  · exact absurd empty nonempty
  · rw [List.concat_eq_append] at split
    exact ⟨directories, name, split, fun other member => plain other (split ▸ List.mem_append_left _ member)⟩

/-- How an entry is opened: down to the root, on to the entry's directory, and there its name. -/
theorem recorded_iff {directories : List Name} {name : Name} (split : entryNames entry.path = directories ++ [name]) :
    Recorded tree root entry ↔ ∃ reached content, tree.walk maxLinks [] (root.names ++ directories) = .ok reached ∧
      tree (reached.2 ++ [name]) = some (.file content) ∧ content.length = entry.sizeBytes ∧
      Sha256.hexdigest content = entry.sha256 := by
  rw [Recorded, regularFileIdentity_ok_iff, (candidate_names entry.placed root).2, split, ← List.append_assoc]
  constructor
  · intro held
    obtain ⟨directory, name', content, same, opened, size, digest⟩ := held
    obtain ⟨rfl, last⟩ := List.append_inj' same rfl
    obtain rfl := List.singleton_inj.mp last
    obtain ⟨reached, walked, there⟩ := nodeAt_ok_iff.mp opened
    exact ⟨reached, content, walked, there, size, digest⟩
  · intro held
    obtain ⟨reached, content, walked, there, size, digest⟩ := held
    exact ⟨_, name, content, rfl, nodeAt_ok_iff.mpr ⟨reached, walked, there⟩, size, digest⟩

/-- The root of an entry that opens is a directory. -/
theorem Recorded.rooted (recorded : Recorded tree root entry) :
    ∃ reached, tree.walk maxLinks [] root.names = .ok reached := by
  obtain ⟨directories, name, split, _⟩ := entry_split entry
  obtain ⟨_, _, walked, _⟩ := (recorded_iff split).mp recorded
  rw [walk_append] at walked
  obtain ⟨reached, first, _⟩ := bind_ok walked
  exact ⟨reached, first⟩

/-- An entry that opens is certified exactly where no directory on its way is a link. -/
theorem certified_iff {reached : Nat × List Name} (rooted : tree.walk maxLinks [] root.names = .ok reached)
    (recorded : Recorded tree root entry) :
    Certified tree reached.2 entry ↔ tree.Linkless reached.2 (entryNames entry.path).dropLast := by
  obtain ⟨directories, name, split, plain⟩ := entry_split entry
  rw [split, List.dropLast_concat]
  constructor
  · intro certified
    have real := certified.reached
    rw [split, List.dropLast_concat] at real
    exact real.linkless
  · intro linkless
    obtain ⟨last, content, walked, there, size, digest⟩ := (recorded_iff split).mp recorded
    rw [walk_append, ok_bind rooted] at walked
    have real := directories_of_walk plain linkless walked
    rw [walk_directories plain real] at walked
    cases walked
    refine ⟨(entryPath_facts entry.placed).2.2, ?_, content, ?_, size, digest⟩
    · rw [split, List.dropLast_concat]
      exact real
    · rw [split, ← List.append_assoc]
      exact there

/-- A certified entry opens, from whatever root leads to its place. -/
theorem Certified.opens {reached : Nat × List Name} (rooted : tree.walk maxLinks [] root.names = .ok reached)
    (certified : Certified tree reached.2 entry) : Recorded tree root entry := by
  obtain ⟨directories, name, split, plain⟩ := entry_split entry
  obtain ⟨_, real, content, there, size, digest⟩ := certified
  rw [split, List.dropLast_concat] at real
  rw [split, ← List.append_assoc] at there
  refine (recorded_iff split).mpr ⟨(reached.1, reached.2 ++ directories), content, ?_, there, size, digest⟩
  rw [walk_append, ok_bind rooted, walk_directories plain real]

theorem Certified.moved {later : FileTree UInt8} {place new : List Name} (moved : tree.Moved later place new)
    (certified : Certified tree place entry) : Certified later new entry where
  named := certified.named
  reached := certified.reached.moved moved
  recorded := by
    rw [moved]
    exact certified.recorded

end Reading

section Loading

variable {fromisoformat : String → Option Bool} {manifest : ResultManifest fromisoformat}
  {tree later : FileTree UInt8} {cwd laterCwd : AbsPath} {path laterPath : FilePath} {content : Bytes}

theorem mapError_ok {α : Type} {x : Except String α} {f : String → String} {value : α} :
    x.mapError f = .ok value ↔ x = .ok value := by
  cases x with
  | error exc => exact ⟨nofun, nofun⟩
  | ok found => exact Iff.rfl

/-- The file that the path opens to. -/
def Opens (tree : FileTree UInt8) (cwd : AbsPath) (path : FilePath) (content : Bytes) : Prop :=
  tree.nodeAt (path.directory.start cwd) path.directory.names path.name = .ok (.file content)

theorem strictJsonLoadPath_opens {raw : Json} (loaded : strictJsonLoadPath tree cwd path = .ok raw) :
    ∃ content, Opens tree cwd path content ∧
      (decodeUtf8 content).bind (fun text => Json.loads (universalNewlines text)) = some raw := by
  obtain ⟨content, opened, decoded⟩ := bind_ok loaded
  refine ⟨content, regularFile_ok_iff.mp opened, ?_⟩
  cases found : (decodeUtf8 content).bind fun text => Json.loads (universalNewlines text) with
  | none =>
    rw [found] at decoded
    cases decoded
  | some value =>
    rw [found] at decoded
    cases decoded
    rfl

theorem strictJsonLoadPath_of {raw : Json} (opened : Opens tree cwd path content)
    (decoded : (decodeUtf8 content).bind (fun text => Json.loads (universalNewlines text)) = some raw) :
    strictJsonLoadPath tree cwd path = .ok raw := by
  rw [strictJsonLoadPath, ok_bind (regularFile_ok_iff.mpr opened), decoded]

/-- The file of a manifest loads as the manifest where its hash is that of its content. -/
theorem load_published (opened : Opens tree cwd path (Json.fileBytes (.obj manifest.fields)))
    (final : manifest.Finalized) : loadResultManifest tree cwd path false = .ok manifest := by
  have plain : universalNewlines (Json.fileText (.obj manifest.fields)) = Json.fileText (.obj manifest.fields) :=
    universalNewlines_eq fun listed => (Json.lined_fileText _ _ listed).2 rfl
  have decoded : (decodeUtf8 (Json.fileBytes (.obj manifest.fields))).bind
      (fun text => Json.loads (universalNewlines text)) = some (Json.obj manifest.fields).canonical := by
    rw [Json.decodeUtf8_fileBytes, Option.bind_some, plain, Json.loads_fileText manifest.keyed]
  rw [loadResultManifest, ok_bind (mapError_ok.mpr (strictJsonLoadPath_of opened decoded)),
    ok_bind (mapError_ok.mpr (decodeManifest_stored manifest)), ok_bind (provided_ok final _)]
  rfl

/-- What was loaded without its files being looked at: the manifest of one file, with the right hash. -/
theorem load_false_iff : loadResultManifest tree cwd path false = .ok manifest ↔ manifest.Finalized ∧
    ∃ raw, strictJsonLoadPath tree cwd path = .ok raw ∧ decodeManifest raw = .ok manifest := by
  constructor
  · intro loaded
    obtain ⟨raw, read, rest⟩ := bind_ok loaded
    obtain ⟨found, decoded, rest⟩ := bind_ok rest
    obtain ⟨final, _, done⟩ := bind_ok rest
    cases done
    exact ⟨final.down, raw, mapError_ok.mp read, mapError_ok.mp decoded⟩
  · intro held
    obtain ⟨final, raw, read, decoded⟩ := held
    rw [loadResultManifest, ok_bind (mapError_ok.mpr read), ok_bind (mapError_ok.mpr decoded),
      ok_bind (provided_ok final _)]
    rfl

theorem load_true_iff : loadResultManifest tree cwd path true = .ok manifest ↔
    loadResultManifest tree cwd path false = .ok manifest ∧
      ∀ entry ∈ manifest.entries, verifyEntry tree (abspath cwd path.directory) entry = .ok () := by
  constructor
  · intro loaded
    obtain ⟨raw, read, rest⟩ := bind_ok loaded
    obtain ⟨found, decoded, rest⟩ := bind_ok rest
    obtain ⟨final, _, rest⟩ := bind_ok rest
    obtain ⟨_, verified, done⟩ := bind_ok rest
    cases done
    exact ⟨load_false_iff.mpr ⟨final.down, raw, mapError_ok.mp read, mapError_ok.mp decoded⟩,
      forM_ok_iff.mp verified⟩
  · intro held
    obtain ⟨final, raw, read, decoded⟩ := load_false_iff.mp held.1
    rw [loadResultManifest, ok_bind (mapError_ok.mpr read), ok_bind (mapError_ok.mpr decoded),
      ok_bind (provided_ok final _), if_pos rfl]
    exact ok_bind (forM_ok_iff.mpr held.2) _

/-- The content of the file decides what is loaded, not where it lies. -/
theorem load_same (opened : Opens tree cwd path content) (same : Opens later laterCwd laterPath content)
    (loaded : loadResultManifest tree cwd path false = .ok manifest) :
    loadResultManifest later laterCwd laterPath false = .ok manifest := by
  obtain ⟨final, raw, read, decoded⟩ := load_false_iff.mp loaded
  obtain ⟨held, there, shown⟩ := strictJsonLoadPath_opens read
  have equal := opened.symm.trans there
  cases equal
  exact load_false_iff.mpr ⟨final, raw, strictJsonLoadPath_of same shown, decoded⟩

/-- An entry verifies where its file opens as recorded and the root has one slash in front. -/
theorem verified_iff {root : AbsPath} (recorded : ∀ entry ∈ manifest.entries, Recorded tree root entry) :
    (∀ entry ∈ manifest.entries, verifyEntry tree root entry = .ok ()) ↔
      manifest.entries = [] ∨ root.double = false := by
  constructor
  · intro verified
    rcases manifest.entries.eq_nil_or_concat with empty | ⟨front, entry, split⟩
    · exact Or.inl empty
    · exact Or.inr (verifyEntry_ok_iff.mp (verified entry (by simp [split]))).1
  · intro held entry member
    rcases held with empty | single
    · rw [empty] at member
      cases member
    · exact verifyEntry_ok_iff.mpr ⟨single, recorded entry member⟩

end Loading

section Writing

variable {fromisoformat : String → Option Bool} {manifest : ResultManifest fromisoformat} {tree : FileTree UInt8}
  {faults : Faults} {cwd : AbsPath} {path : FilePath} {content : Bytes}

theorem extends_update {place : List Name} (free : tree place = none) (node : Node UInt8) :
    tree.Extends (Function.update tree place (some node)) := by
  intro other held found
  have apart : other ≠ place := by
    rintro rfl
    rw [free] at found
    cases found
  rw [Function.update_of_ne apart]
  exact found

/-- What `atomic_create_bytes` does: nothing, with an error, or a new file under a free name. -/
theorem atomicCreate_cases : ((atomicCreate faults tree cwd path content).1 = tree ∧
      ∃ error, (atomicCreate faults tree cwd path content).2 = .error error) ∨
    ∃ reached, tree.walk maxLinks (path.directory.start cwd) path.directory.names = .ok reached ∧
      tree (reached.2 ++ [path.name]) = none ∧ (atomicCreate faults tree cwd path content).1 =
        Function.update tree (reached.2 ++ [path.name]) (some (.file content)) ∧
      (atomicCreate faults tree cwd path content).2 ≠ .error .fileExists := by
  rw [atomicCreate]
  split
  · exact Or.inl ⟨rfl, _, rfl⟩
  · split
    · exact Or.inl ⟨rfl, _, rfl⟩
    · split
      · exact Or.inl ⟨rfl, _, rfl⟩
      · split
        · exact Or.inl ⟨rfl, _, rfl⟩
        · rename_i reached walked
          split
          · exact Or.inl ⟨rfl, _, rfl⟩
          · rename_i free
            refine Or.inr ⟨reached, walked, free, rfl, ?_⟩
            cases faults.unsynced <;> nofun

theorem atomicCreate_extends : tree.Extends (atomicCreate faults tree cwd path content).1 := by
  rcases atomicCreate_cases with ⟨same, _⟩ | ⟨reached, _, free, made, _⟩
  · rw [same]
    exact fun _ _ found => found
  · rw [made]
    exact extends_update free _

theorem atomicCreate_opens {after : FileTree UInt8} {done : Unit}
    (created : atomicCreate faults tree cwd path content = (after, .ok done)) : Opens after cwd path content := by
  have cases_ := @atomicCreate_cases tree faults cwd path content
  rw [created] at cases_
  rcases cases_ with ⟨_, error, never⟩ | ⟨reached, walked, free, made, _⟩
  · cases never
  · change after = _ at made
    rw [made]
    exact nodeAt_ok_iff.mpr ⟨reached, walk_extends (extends_update free _) walked, Function.update_self ..⟩

/-- Writing a manifest changes nothing that is there. -/
theorem write_extends : tree.Extends (writeResultManifest faults tree cwd path manifest).1 := by
  have more := @atomicCreate_extends tree faults cwd path (Json.fileBytes (.obj manifest.fields))
  rw [writeResultManifest]
  split
  · exact fun _ _ found => found
  · split
    all_goals
      rename_i created
      rw [created] at more
      exact more

/-- A manifest that was written is the file, or one with its hash was there. -/
theorem write_ok {after : FileTree UInt8} {done : Unit}
    (wrote : writeResultManifest faults tree cwd path manifest = (after, .ok done)) :
    manifest.Finalized ∧ (Opens after cwd path (Json.fileBytes (.obj manifest.fields)) ∨
      ∃ existing : ResultManifest fromisoformat, after = tree ∧
        loadResultManifest tree cwd path false = .ok existing ∧ existing.manifestHash = manifest.manifestHash) := by
  rw [writeResultManifest] at wrote
  split at wrote
  · cases wrote
  · rename_i final
    refine ⟨not_not.mp final, ?_⟩
    split at wrote
    · rename_i created
      cases wrote
      exact Or.inl (atomicCreate_opens created)
    · cases wrote
    · rename_i created
      obtain ⟨kept, loaded⟩ := Prod.mk.inj wrote
      subst kept
      obtain ⟨existing, found, compared⟩ := bind_ok loaded
      have cases_ := @atomicCreate_cases tree faults cwd path (Json.fileBytes (.obj manifest.fields))
      rw [created] at cases_
      rcases cases_ with ⟨same, _⟩ | ⟨_, _, _, _, other⟩
      · dsimp only at same
        rw [same] at found
        refine Or.inr ⟨existing, same, found, ?_⟩
        by_contra differs
        rw [if_neg differs] at compared
        cases compared
      · exact absurd rfl other

end Writing

end ExaServe.State.Results
