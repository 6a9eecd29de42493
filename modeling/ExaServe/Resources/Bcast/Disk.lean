import ExaServe.Lib.Except
import ExaServe.Resources.Bcast.Paths

namespace ExaServe.Resources.Bcast

open Lib Lib.Files

/-- The files of one node. Its trees under a destination hold no links. -/
abbrev Disk := Files Bytes UInt8

def mkdirParts (mode : Nat) : List Bytes → List Bytes → Disk → Option Disk
  | _, [], disk => some disk
  | here, part :: rest, disk =>
    (disk.makeDirectory mode (enter here part)).bind fun made => mkdirParts mode (enter here part) rest made

def mkdirP (path : Bytes) (mode : Nat) (disk : Disk) : Option Disk :=
  if path.head? = some slash then mkdirParts mode [] (parts path) disk else none

/-- What is left of a path before its last slash. -/
def parentPath (path : Bytes) : Bytes := ((path.reverse.dropWhile (· ≠ slash)).drop 1).reverse

def orFatal {α : Type} (message : String) (outcome : Option α) : Except String α :=
  outcome.elim (.error message) .ok

def openDestinationFile (destination relative : Bytes) (disk : Disk) : Except String (List Bytes × Disk) := do
  ensure (safeRelativePath relative) "unsafe relative path in stream"
  let path := joinPath destination relative
  ensure (parentPath path ≠ []) "invalid destination parent"
  let disk ← orFatal "creating destination parent failed" (mkdirP (parentPath path) 0o700 disk)
  -- a path that ends in a slash is not a file's
  ensure (path.getLast? ≠ some slash) "creating destination file failed"
  let disk ← orFatal "creating destination file failed" (disk.createFile 0o600 (resolve path))
  return (resolve path, disk)

def beginDirectory (destination relative : Bytes) (disk : Disk) : Option Disk :=
  mkdirP (joinPath destination relative) 0o700 disk

def finishDirectory (destination relative : Bytes) (mode : Nat) (disk : Disk) : Option Disk :=
  disk.chmod (resolve (joinPath destination relative)) mode

/-- The path leads through directories. -/
def Standing (destination : Bytes) (disk : Disk) : Prop :=
  ∀ path ∈ visited [] (parts destination), ∃ mode, disk path = some (.directory mode)

/-- The directories the path leads through can be reached. -/
def Reached (here names : List Bytes) (disk : Disk) : Prop :=
  ∀ path ∈ visited here names, disk.entered path.dropLast = true ∧ ∃ mode, disk path = some (.directory mode)

variable {disk after : Disk} {mode : Nat}

theorem orFatal_some {α : Type} {message : String} {outcome : Option α} {value : α} (found : outcome = some value) :
    orFatal message outcome = .ok value := by
  rw [found]
  rfl

theorem orFatal_ok {α : Type} {message : String} {outcome : Option α} {value : α}
    (done : orFatal message outcome = .ok value) : outcome = some value := by
  cases outcome with
  | none => cases done
  | some found => exact congrArg some (Except.ok.inj done)

theorem mkdirParts_append (here first second : List Bytes) :
    mkdirParts mode here (first ++ second) disk =
      (mkdirParts mode here first disk).bind (mkdirParts mode (first.foldl enter here) second) := by
  induction first generalizing here disk with
  | nil => rfl
  | cons part rest ih =>
    rw [List.cons_append, mkdirParts, mkdirParts, Option.bind_assoc]
    exact congrArg _ (funext fun made => ih (enter here part))

theorem mkdirParts_reached {here names : List Bytes} (made : mkdirParts mode here names disk = some after) :
    disk.Extends after ∧ Reached here names after := by
  induction names generalizing here disk with
  | nil =>
    cases made
    exact ⟨.refl, fun path listed => by cases listed⟩
  | cons part rest ih =>
    obtain ⟨between, first, others⟩ := Option.bind_eq_some_iff.mp made
    obtain ⟨extended, reached⟩ := ih others
    obtain ⟨entered, own, found⟩ := makeDirectory_reached first
    refine ⟨(makeDirectory_extends first).trans extended, ?_⟩
    intro path listed
    rcases List.mem_cons.mp listed with rfl | later
    · exact ⟨entered_of_extends extended entered, own, extended _ _ found⟩
    · exact reached path later

theorem mkdirParts_same {here names : List Bytes} (reached : Reached here names disk) :
    mkdirParts mode here names disk = some disk := by
  induction names generalizing here with
  | nil => rfl
  | cons part rest ih =>
    obtain ⟨entered, own, found⟩ := reached _ List.mem_cons_self
    have made : disk.makeDirectory mode (enter here part) = some disk := by
      rw [makeDirectory, if_pos entered, found]
    rw [mkdirParts, made]
    exact ih fun path listed => reached path (List.mem_cons_of_mem _ listed)

/-- Directories that are there already are left as they are. -/
theorem mkdirParts_standing {here names : List Bytes}
    (standing : ∀ path ∈ visited here names, ∃ mode, disk path = some (.directory mode))
    (made : mkdirParts mode here names disk = some after) : after = disk := by
  induction names generalizing here disk with
  | nil => exact (Option.some.inj made).symm
  | cons part rest ih =>
    obtain ⟨between, first, others⟩ := Option.bind_eq_some_iff.mp made
    rcases makeDirectory_cases first with ⟨rfl, -⟩ | ⟨absent, -⟩
    · exact ih (fun path listed => standing path (List.mem_cons_of_mem _ listed)) others
    · obtain ⟨own, found⟩ := standing _ List.mem_cons_self
      rw [absent] at found
      cases found

theorem enter_plain {part : Bytes} (plain : isDot part = false) (here : List Bytes) : enter here part = here ++ [part] :=
  foldl_enter (fun _ listed => (List.mem_singleton.mp listed) ▸ plain) here

/-- Directories made below a place leave everything else alone. -/
theorem mkdirParts_confined {base here names : List Bytes} (within : base <+: here)
    (plain : ∀ name ∈ names, isDot name = false) (made : mkdirParts mode here names disk = some after) :
    disk.Confined base after := by
  induction names generalizing here disk with
  | nil =>
    cases made
    exact .refl base
  | cons part rest ih =>
    obtain ⟨between, first, others⟩ := Option.bind_eq_some_iff.mp made
    rw [enter_plain (plain part List.mem_cons_self)] at first others
    have below : base <+: here ++ [part] := within.trans (List.prefix_append _ _)
    have proper : here ++ [part] ≠ base := by
      rintro rfl
      exact not_prefix_of_append (List.cons_ne_nil _ _) (List.prefix_refl here) within
    exact ((makeDirectory_touches first).confined below proper).trans
      (ih below (fun name listed => plain name (List.mem_cons_of_mem _ listed)) others)

theorem mkdirParts_entered {here names : List Bytes} (plain : ∀ name ∈ names, isDot name = false)
    (entered : disk.entered (here ++ names) = true) : mkdirParts mode here names disk = some disk := by
  induction names generalizing here with
  | nil => rfl
  | cons part rest ih =>
    have path : here ++ part :: rest = here ++ [part] ++ rest := by rw [List.append_assoc]; rfl
    rw [path] at entered
    rw [mkdirParts, enter_plain (plain part List.mem_cons_self), makeDirectory_same entered (List.prefix_append _ _)]
    exact ih (fun name listed => plain name (List.mem_cons_of_mem _ listed)) entered

theorem mkdirP_joinPath {destination : Bytes} (absolute : destination.head? = some slash) (relative : Bytes) :
    mkdirP (joinPath destination relative) mode disk =
      (mkdirParts mode [] (parts destination) disk).bind (mkdirParts mode (resolve destination) (parts relative)) := by
  obtain ⟨rest, rfl⟩ := List.head?_eq_some_iff.mp absolute
  rw [mkdirP, if_pos (show (joinPath (slash :: rest) relative).head? = some slash from rfl), parts_joinPath,
    mkdirParts_append]
  rfl

theorem Standing.kept {destination : Bytes} {base : List Bytes} (standing : Standing destination disk)
    (confined : disk.Confined base after) : Standing destination after := by
  intro path listed
  obtain ⟨own, found⟩ := standing path listed
  exact confined.directories path own found

theorem Reached.kept {here names : List Bytes} (reached : Reached here names disk) (extended : disk.Extends after) :
    Reached here names after := by
  intro path listed
  obtain ⟨entered, own, found⟩ := reached path listed
  exact ⟨entered_of_extends extended entered, own, extended path _ found⟩

theorem mkdirP_confined {destination relative : Bytes} (absolute : destination.head? = some slash)
    (standing : Standing destination disk) (plain : ∀ name ∈ parts relative, isDot name = false)
    (made : mkdirP (joinPath destination relative) mode disk = some after) :
    disk.Confined (resolve destination) after := by
  rw [mkdirP_joinPath absolute] at made
  obtain ⟨between, first, others⟩ := Option.bind_eq_some_iff.mp made
  cases mkdirParts_standing standing first
  exact mkdirParts_confined (List.prefix_refl _) plain others

theorem parentPath_joinPath {left name : Bytes} (free : slash ∉ name) : parentPath (joinPath left name) = left := by
  have skipped : ((joinPath left name).reverse.dropWhile (· ≠ slash)) = slash :: left.reverse := by
    rw [joinPath, List.reverse_append, List.reverse_cons, List.append_assoc, List.dropWhile_append_of_pos]
    · rfl
    · intro byte listed
      refine decide_eq_true ?_
      rintro rfl
      exact free (List.mem_reverse.mp listed)
  rw [parentPath, skipped, List.drop_one, List.tail_cons, List.reverse_reverse]

/-- The relative path is that of the name in a directory. -/
structure Leads (relative : Bytes) (front : List Bytes) (name : Bytes) : Prop where
  sendable : Sendable relative
  named : wellNamed name = true
  shape : (front = [] ∧ relative = name) ∨ ∃ above, relative = joinPath above name ∧ Sendable above ∧ parts above = front

/-- The place of a name in an open directory where nothing is yet. -/
structure Vacant (destination : Bytes) (front : List Bytes) (name : Bytes) (disk : Disk) : Prop where
  absolute : destination.head? = some slash
  reached : Reached [] (parts destination) disk
  opened : disk.Open (resolve destination ++ front)
  absent : disk.Absent (resolve destination ++ front ++ [name])

variable {destination relative name : Bytes} {front : List Bytes}

theorem Leads.name_apart (leads : Leads relative front name) : name ≠ [] ∧ slash ∉ name := by
  obtain ⟨nonempty, -, free, -⟩ := wellNamed_iff.mp leads.named
  exact ⟨nonempty, free⟩

theorem Leads.parts_eq (leads : Leads relative front name) : parts relative = front ++ [name] := by
  obtain ⟨nonempty, free⟩ := leads.name_apart
  have own : parts name = [name] := by simp [parts, splitOn_name free, nonempty]
  rcases leads.shape with ⟨rfl, rfl⟩ | ⟨above, rfl, -, rfl⟩
  · exact own
  · rw [parts_joinPath, own]

theorem Leads.plain (leads : Leads relative front name) : ∀ other ∈ front ++ [name], isDot other = false := by
  rw [← leads.parts_eq]
  exact (safe_parts leads.sendable.safe).2

theorem Leads.resolve_eq (leads : Leads relative front name) (destination : Bytes) :
    resolve (joinPath destination relative) = resolve destination ++ front ++ [name] := by
  rw [resolve_joinPath destination leads.sendable.safe, leads.parts_eq, List.append_assoc]

theorem Leads.parent (leads : Leads relative front name) (absolute : destination.head? = some slash) :
    (parentPath (joinPath destination relative)).head? = some slash ∧
      parts (parentPath (joinPath destination relative)) = parts destination ++ front := by
  obtain ⟨rest, rfl⟩ := List.head?_eq_some_iff.mp absolute
  obtain ⟨nonempty, free⟩ := leads.name_apart
  rcases leads.shape with ⟨rfl, rfl⟩ | ⟨above, rfl, -, rfl⟩
  · rw [parentPath_joinPath free, List.append_nil]
    exact ⟨rfl, rfl⟩
  · rw [show joinPath (slash :: rest) (joinPath above name) = joinPath (joinPath (slash :: rest) above) name by
      simp [joinPath], parentPath_joinPath free, parts_joinPath]
    exact ⟨rfl, rfl⟩

/-- A name in the directory that the path leads to is led to by the longer path. -/
theorem Leads.child (leads : Leads relative front name) {child : Bytes} (named : wellNamed child = true)
    (plain : isDot child = false) : Leads (joinPath relative child) (front ++ [name]) child where
  sendable := leads.sendable.join (sendable_name named plain)
  named := named
  shape := .inr ⟨relative, rfl, leads.sendable, leads.parts_eq⟩

theorem Vacant.above (vacant : Vacant destination front name disk) (leads : Leads relative front name) :
    mkdirParts mode [] (parts destination ++ front) disk = some disk := by
  have plain : ∀ other ∈ front, isDot other = false := fun other listed =>
    leads.plain other (List.mem_append_left _ listed)
  rw [mkdirParts_append, mkdirParts_same vacant.reached]
  exact mkdirParts_entered plain vacant.opened.entered

theorem beginDirectory_new (vacant : Vacant destination front name disk) (leads : Leads relative front name) :
    beginDirectory destination relative disk =
      some (disk.set (resolve destination ++ front ++ [name]) (.directory 0o700)) := by
  have plain : ∀ other ∈ parts relative, isDot other = false := leads.parts_eq ▸ leads.plain
  have last := leads.plain name (List.mem_append_right _ (List.mem_singleton_self name))
  have above : (parts destination ++ front).foldl enter [] = resolve destination ++ front := by
    rw [List.foldl_append]
    exact foldl_enter (fun other listed => leads.plain other (List.mem_append_left _ listed)) _
  rw [beginDirectory, mkdirP_joinPath vacant.absolute, leads.parts_eq]
  refine (mkdirParts_append [] (parts destination) (front ++ [name])).symm.trans ?_
  rw [← List.append_assoc, mkdirParts_append, vacant.above leads, above]
  show ((disk.makeDirectory 0o700 (enter (resolve destination ++ front) name)).bind fun made => some made) = _
  rw [enter_plain last, makeDirectory_new vacant.opened vacant.absent.self]
  rfl

theorem openDestinationFile_new (vacant : Vacant destination front name disk) (leads : Leads relative front name) :
    openDestinationFile destination relative disk =
      .ok (resolve destination ++ front ++ [name],
        disk.set (resolve destination ++ front ++ [name]) (.file [] 0o600)) := by
  obtain ⟨absolute, above⟩ := leads.parent vacant.absolute
  obtain ⟨nonempty, free⟩ := leads.name_apart
  have parent : parentPath (joinPath destination relative) ≠ [] := by
    intro empty
    rw [empty] at absolute
    cases absolute
  have made : mkdirP (parentPath (joinPath destination relative)) 0o700 disk = some disk := by
    rw [mkdirP, if_pos absolute, above]
    exact vacant.above leads
  have last : (joinPath destination relative).getLast? ≠ some slash := by
    have ends : ∀ left : Bytes, (joinPath left name).getLast? ≠ some slash := by
      intro left closed
      rw [joinPath, List.getLast?_append_cons, List.getLast?_cons_of_ne_nil nonempty] at closed
      exact free (List.mem_of_getLast? closed)
    rcases leads.shape with ⟨-, rfl⟩ | ⟨upper, rfl, -, -⟩
    · exact ends destination
    · rw [show joinPath destination (joinPath upper name) = joinPath (joinPath destination upper) name by simp [joinPath]]
      exact ends _
  have created : disk.createFile 0o600 (resolve (joinPath destination relative)) =
      some (disk.set (resolve destination ++ front ++ [name]) (.file [] 0o600)) := by
    rw [leads.resolve_eq]
    exact createFile_new vacant.opened vacant.absent.self
  refine (ok_bind (ensure_ok leads.sendable.safe _) _).trans ?_
  refine (ok_bind (ensure_ok parent _) _).trans ?_
  refine (ok_bind (orFatal_some made) _).trans ?_
  refine (ok_bind (ensure_ok last _) _).trans ?_
  refine (ok_bind (orFatal_some created) _).trans ?_
  rw [leads.resolve_eq]
  rfl

theorem finishDirectory_made {old : Nat} (mode : Nat) (entered : disk.entered (resolve destination ++ front) = true)
    (leads : Leads relative front name)
    (found : disk (resolve destination ++ front ++ [name]) = some (.directory old)) :
    finishDirectory destination relative mode disk =
      some (disk.set (resolve destination ++ front ++ [name]) (.directory (mode &&& 0o7777))) := by
  rw [finishDirectory, leads.resolve_eq, chmod_directory entered found]

end ExaServe.Resources.Bcast
