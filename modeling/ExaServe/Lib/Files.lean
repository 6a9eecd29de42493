import Mathlib.Data.List.Infix
import Mathlib.Logic.Function.Basic

namespace Lib

/-- What a path names. -/
inductive Entry (β : Type) where
  | file (content : List β) (mode : Nat)
  | directory (mode : Nat)
  deriving DecidableEq

/-- The files of a node under the names that lead to them. -/
abbrev Files (ν β : Type) := List ν → Option (Entry β)

namespace Files

variable {ν β : Type} [DecidableEq ν] (files : Files ν β)

def set (path : List ν) (entry : Entry β) : Files ν β := Function.update files path (some entry)

/-- The owner may look names up in the directory. -/
def enterable (path : List ν) : Bool :=
  match files path with
  | some (.directory mode) => mode.testBit 6
  | _ => false

/-- The owner may make new names in the directory. -/
def writable (path : List ν) : Bool :=
  match files path with
  | some (.directory mode) => mode.testBit 6 && mode.testBit 7
  | _ => false

/-- Every directory on the way may be entered. -/
def entered (path : List ν) : Bool := path.inits.all files.enterable

/-- `mkdir`, where a directory that is there already is as good as a new one. -/
def makeDirectory (mode : Nat) (path : List ν) : Option (Files ν β) :=
  if files.entered path.dropLast then
    match files path with
    | some (.directory _) => some files
    | some (.file _ _) => none
    | none => if files.writable path.dropLast then some (files.set path (.directory mode)) else none
  else none

/-- `open` with `O_CREAT | O_EXCL`. -/
def createFile (mode : Nat) (path : List ν) : Option (Files ν β) :=
  if files.entered path.dropLast && files.writable path.dropLast && (files path).isNone then
    some (files.set path (.file [] mode))
  else none

/-- `write` at the end of an open file. -/
def append (path : List ν) (data : List β) : Option (Files ν β) :=
  match files path with
  | some (.file content mode) => some (files.set path (.file (content ++ data) mode))
  | _ => none

/-- `fchmod`. -/
def setMode (path : List ν) (mode : Nat) : Option (Files ν β) :=
  match files path with
  | some (.file content _) => some (files.set path (.file content (mode &&& 0o7777)))
  | some (.directory _) => some (files.set path (.directory (mode &&& 0o7777)))
  | none => none

def chmod (path : List ν) (mode : Nat) : Option (Files ν β) :=
  if files.entered path.dropLast then files.setMode path mode else none

/-- There is nothing at the path nor below it. -/
def Absent (path : List ν) : Prop := ∀ rest, files (path ++ rest) = none

/-- The path is that of a directory one may write to, reached through directories one may enter. -/
structure Open (path : List ν) : Prop where
  entered : files.entered path = true
  written : files.writable path = true

/-- What there is at and below the path is what the view shows. -/
def Holds (path : List ν) (view : Files ν β) : Prop := ∀ rest, files (path ++ rest) = view rest

/-- Nothing else than the path and what is below it differs. -/
def SameOutside (path : List ν) (after : Files ν β) : Prop := ∀ other, ¬ path <+: other → after other = files other

/-- Nothing else than what is strictly below the path differs. -/
def SameExceptBelow (path : List ν) (after : Files ν β) : Prop :=
  ∀ other, (path <+: other → other = path) → after other = files other

/-- At most the entry of the path differs, and a directory stays one. -/
structure Touches (path : List ν) (after : Files ν β) : Prop where
  elsewhere : ∀ other, other ≠ path → after other = files other
  directory : ∀ mode, files path = some (.directory mode) → ∃ new, after path = some (.directory new)

/-- At most what is strictly below the path differs, and a directory stays one. -/
structure Confined (path : List ν) (after : Files ν β) : Prop where
  same : files.SameExceptBelow path after
  directories : ∀ other mode, files other = some (.directory mode) → ∃ new, after other = some (.directory new)

/-- What there is stays as it is. -/
def Extends (after : Files ν β) : Prop := ∀ path entry, files path = some entry → after path = some entry

variable {files}

@[simp] theorem set_self (path : List ν) (entry : Entry β) : files.set path entry path = some entry :=
  Function.update_self ..

theorem set_of_ne {path other : List ν} (apart : other ≠ path) (entry : Entry β) :
    files.set path entry other = files other := Function.update_of_ne apart ..

@[simp] theorem set_set (path : List ν) (first second : Entry β) :
    (files.set path first).set path second = files.set path second := Function.update_idem ..

section Places

omit [DecidableEq ν]

theorem SameOutside.refl (path : List ν) : files.SameOutside path files := fun _ _ => rfl

theorem SameOutside.trans {path : List ν} {middle after : Files ν β} (first : files.SameOutside path middle)
    (second : middle.SameOutside path after) : files.SameOutside path after :=
  fun other apart => (second other apart).trans (first other apart)

/-- What differs only below a path differs only below what the path is below. -/
theorem SameOutside.mono {path below : List ν} {after : Files ν β} (within : path <+: below)
    (same : files.SameOutside below after) : files.SameOutside path after :=
  fun other apart => same other fun inside => apart (within.trans inside)

theorem Touches.refl (path : List ν) : files.Touches path files := ⟨fun _ _ => rfl, fun mode found => ⟨mode, found⟩⟩

theorem Confined.refl (path : List ν) : files.Confined path files := ⟨fun _ _ => rfl, fun _ mode found => ⟨mode, found⟩⟩

theorem Confined.trans {path : List ν} {middle after : Files ν β} (first : files.Confined path middle)
    (second : middle.Confined path after) : files.Confined path after where
  same other apart := (second.same other apart).trans (first.same other apart)
  directories other mode found := by
    obtain ⟨between, kept⟩ := first.directories other mode found
    exact second.directories other between kept

theorem Touches.confined {path below : List ν} {after : Files ν β} (touched : files.Touches below after)
    (within : path <+: below) (proper : below ≠ path) : files.Confined path after where
  same other apart := by
    refine touched.elsewhere other ?_
    rintro rfl
    exact proper (apart within)
  directories other mode found := by
    rcases Classical.em (other = below) with rfl | apart
    · exact touched.directory mode found
    · exact ⟨mode, (touched.elsewhere other apart).trans found⟩

theorem Extends.refl : files.Extends files := fun _ _ found => found

theorem Extends.trans {middle after : Files ν β} (first : files.Extends middle) (second : middle.Extends after) :
    files.Extends after := fun path entry found => second path entry (first path entry found)

theorem not_prefix_of_append {path before rest : List ν} (nonempty : rest ≠ []) (within : before <+: path) :
    ¬ path ++ rest <+: before := by
  intro extended
  have short := extended.length_le
  have long := within.length_le
  rw [List.length_append] at short
  exact nonempty (List.length_eq_zero_iff.mp (by omega))

theorem SameOutside.exceptBelow {path : List ν} {name : ν} {after : Files ν β}
    (same : files.SameOutside (path ++ [name]) after) : files.SameExceptBelow path after := by
  intro other apart
  refine same other fun within => ?_
  have inside : path <+: other := (List.prefix_append _ _).trans within
  rw [apart inside] at within
  exact not_prefix_of_append (List.cons_ne_nil _ _) (List.prefix_refl path) within

/-- A name of one directory is not below another name of it. -/
theorem sibling_apart {path rest : List ν} {name other : ν} (apart : name ≠ other) :
    ¬ path ++ [name] <+: path ++ other :: rest := by
  intro within
  rw [List.prefix_append_right_inj, List.cons_prefix_cons] at within
  exact apart within.1

theorem entered_iff {path : List ν} : files.entered path = true ↔ ∀ before, before <+: path → files.enterable before = true := by
  simp [entered, List.mem_inits]

theorem entered_of_prefix {path before : List ν} (within : before <+: path) (entered : files.entered path = true) :
    files.entered before = true :=
  entered_iff.mpr fun earlier inner => entered_iff.mp entered earlier (inner.trans within)

theorem entered_congr {after : Files ν β} {path : List ν} (same : ∀ before, before <+: path → after before = files before) :
    after.entered path = files.entered path := by
  rw [Bool.eq_iff_iff, entered_iff, entered_iff]
  refine forall_congr' fun before => forall_congr' fun within => ?_
  rw [enterable, enterable, same before within]

theorem enterable_directory {path : List ν} (entered : files.enterable path = true) :
    ∃ mode, files path = some (.directory mode) := by
  unfold enterable at entered
  split at entered
  · exact ⟨_, ‹_›⟩
  · cases entered

/-- A directory stays open whatever happens below one of its names. -/
theorem Open.kept {path rest : List ν} (opened : files.Open path) {after : Files ν β} (nonempty : rest ≠ [])
    (same : files.SameOutside (path ++ rest) after) : after.Open path where
  entered := by
    rw [entered_congr fun before within => same before (not_prefix_of_append nonempty within)]
    exact opened.entered
  written := by
    have own := same path (not_prefix_of_append nonempty (List.prefix_refl _))
    unfold writable
    rw [own]
    exact opened.written

theorem enterable_of_extends {after : Files ν β} {path : List ν} (kept : files.Extends after)
    (entered : files.enterable path = true) : after.enterable path = true := by
  obtain ⟨mode, found⟩ := enterable_directory entered
  unfold enterable at entered ⊢
  rw [kept path _ found]
  rwa [found] at entered

theorem entered_of_extends {after : Files ν β} {path : List ν} (kept : files.Extends after)
    (entered : files.entered path = true) : after.entered path = true :=
  entered_iff.mpr fun before within => enterable_of_extends kept (entered_iff.mp entered before within)

/-- Where there was nothing, what is made takes nothing away. -/
theorem Absent.extends {path : List ν} {after : Files ν β} (absent : files.Absent path)
    (same : files.SameOutside path after) : files.Extends after := by
  intro other entry found
  rw [same other ?_]
  · exact found
  · rintro ⟨rest, rfl⟩
    rw [absent rest] at found
    cases found

theorem Absent.below {path rest : List ν} (absent : files.Absent path) : files.Absent (path ++ rest) := by
  intro more
  rw [List.append_assoc]
  exact absent (rest ++ more)

theorem Absent.self {path : List ν} (absent : files.Absent path) : files path = none := by
  have at_path := absent []
  rwa [List.append_nil] at at_path

end Places

theorem sameOutside_set (path : List ν) (entry : Entry β) : files.SameOutside path (files.set path entry) := by
  intro other apart
  refine set_of_ne ?_ entry
  rintro rfl
  exact apart (List.prefix_refl _)

theorem touches_set {path : List ν} {entry : Entry β}
    (kept : ∀ mode, files path = some (.directory mode) → ∃ new, entry = .directory new) :
    files.Touches path (files.set path entry) where
  elsewhere other apart := set_of_ne apart entry
  directory mode found := by
    obtain ⟨new, rfl⟩ := kept mode found
    exact ⟨new, set_self path _⟩

theorem extends_set {path : List ν} (absent : files path = none) (entry : Entry β) :
    files.Extends (files.set path entry) := by
  intro other own found
  rw [set_of_ne ?_ entry]
  · exact found
  · rintro rfl
    rw [absent] at found
    cases found

/-- A new directory of an open one is open. -/
theorem Open.made {path : List ν} {name : ν} (opened : files.Open path) {mode : Nat} (entered : mode.testBit 6 = true)
    (written : mode.testBit 7 = true) : (files.set (path ++ [name]) (.directory mode)).Open (path ++ [name]) where
  entered := by
    rw [entered_iff]
    intro before within
    rcases List.prefix_concat_iff.mp within with rfl | inner
    · rw [enterable, set_self]
      exact entered
    · have apart : before ≠ path ++ [name] := by
        rintro rfl
        exact not_prefix_of_append (List.cons_ne_nil _ _) (List.prefix_refl path) inner
      rw [enterable, set_of_ne apart]
      exact entered_iff.mp opened.entered before inner
  written := by
    rw [writable, set_self]
    show (mode.testBit 6 && mode.testBit 7) = true
    rw [entered, written]
    rfl

theorem makeDirectory_same {mode : Nat} {path before : List ν} (entered : files.entered path = true)
    (within : before <+: path) : files.makeDirectory mode before = some files := by
  obtain ⟨own, found⟩ := enterable_directory (entered_iff.mp entered before within)
  have above := entered_of_prefix (before.dropLast_prefix.trans within) entered
  rw [makeDirectory, if_pos above, found]

theorem makeDirectory_new {mode : Nat} {path : List ν} {name : ν} (opened : files.Open path)
    (absent : files (path ++ [name]) = none) :
    files.makeDirectory mode (path ++ [name]) = some (files.set (path ++ [name]) (.directory mode)) := by
  rw [makeDirectory, List.dropLast_concat, if_pos opened.entered, absent]
  exact if_pos opened.written

theorem createFile_new {mode : Nat} {path : List ν} {name : ν} (opened : files.Open path)
    (absent : files (path ++ [name]) = none) :
    files.createFile mode (path ++ [name]) = some (files.set (path ++ [name]) (.file [] mode)) := by
  rw [createFile, List.dropLast_concat, opened.entered, opened.written, absent]
  rfl

theorem append_file {path : List ν} {content data : List β} {mode : Nat} (found : files path = some (.file content mode)) :
    files.append path data = some (files.set path (.file (content ++ data) mode)) := by
  rw [append, found]

theorem setMode_file {path : List ν} {content : List β} {old : Nat} (mode : Nat) (found : files path = some (.file content old)) :
    files.setMode path mode = some (files.set path (.file content (mode &&& 0o7777))) := by
  rw [setMode, found]

theorem chmod_directory {path : List ν} {name : ν} {old mode : Nat} (entered : files.entered path = true)
    (found : files (path ++ [name]) = some (.directory old)) :
    files.chmod (path ++ [name]) mode = some (files.set (path ++ [name]) (.directory (mode &&& 0o7777))) := by
  rw [chmod, List.dropLast_concat, if_pos entered, setMode, found]

theorem makeDirectory_cases {mode : Nat} {path : List ν} {after : Files ν β}
    (made : files.makeDirectory mode path = some after) :
    (after = files ∧ ∃ own, files path = some (.directory own)) ∨
      (files path = none ∧ after = files.set path (.directory mode)) := by
  unfold makeDirectory at made
  cases found : files path with
  | none =>
    simp only [found] at made
    split_ifs at made
    exact .inr ⟨rfl, (Option.some.inj made).symm⟩
  | some entry =>
    cases entry with
    | file content own => simp [found] at made
    | directory own =>
      simp only [found] at made
      split_ifs at made
      exact .inl ⟨(Option.some.inj made).symm, own, rfl⟩

theorem makeDirectory_touches {mode : Nat} {path : List ν} {after : Files ν β}
    (made : files.makeDirectory mode path = some after) : files.Touches path after := by
  rcases makeDirectory_cases made with ⟨rfl, -⟩ | ⟨absent, rfl⟩
  · exact .refl path
  · exact touches_set fun own found => by rw [absent] at found; cases found

theorem makeDirectory_extends {mode : Nat} {path : List ν} {after : Files ν β}
    (made : files.makeDirectory mode path = some after) : files.Extends after := by
  rcases makeDirectory_cases made with ⟨rfl, -⟩ | ⟨absent, rfl⟩
  · exact .refl
  · exact extends_set absent _

/-- A directory that was made can be reached. -/
theorem makeDirectory_reached {mode : Nat} {path : List ν} {after : Files ν β}
    (made : files.makeDirectory mode path = some after) :
    after.entered path.dropLast = true ∧ ∃ own, after path = some (.directory own) := by
  constructor
  · refine entered_of_extends (makeDirectory_extends made) ?_
    by_contra closed
    rw [makeDirectory, if_neg closed] at made
    cases made
  · rcases makeDirectory_cases made with ⟨rfl, found⟩ | ⟨-, rfl⟩
    · exact found
    · exact ⟨mode, set_self path _⟩

theorem createFile_touches {mode : Nat} {path : List ν} {after : Files ν β}
    (made : files.createFile mode path = some after) : files.Touches path after := by
  unfold createFile at made
  split_ifs at made with free
  cases made
  refine touches_set fun own found => ?_
  rw [found] at free
  simp at free

theorem append_touches {path : List ν} {data : List β} {after : Files ν β} (done : files.append path data = some after) :
    files.Touches path after := by
  unfold append at done
  split at done
  next content mode found =>
    cases done
    exact touches_set fun own directory => by rw [found] at directory; cases directory
  · cases done

theorem setMode_touches {path : List ν} {mode : Nat} {after : Files ν β} (done : files.setMode path mode = some after) :
    files.Touches path after := by
  unfold setMode at done
  split at done
  next content old found =>
    cases done
    exact touches_set fun own directory => by rw [found] at directory; cases directory
  · cases done
    exact touches_set fun own _ => ⟨_, rfl⟩
  · cases done

theorem chmod_touches {path : List ν} {mode : Nat} {after : Files ν β} (done : files.chmod path mode = some after) :
    files.Touches path after := by
  unfold chmod at done
  split_ifs at done
  exact setMode_touches done

end Files

end Lib
