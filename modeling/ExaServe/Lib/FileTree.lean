import Mathlib.Data.List.Basic
import Mathlib.Logic.Function.Basic
import ExaServe.Lib.Except

namespace Lib

/-- What a name of a directory stands for. -/
inductive Node (β : Type) where
  | file (content : List β)
  | directory
  | link (target : List Char)
  | special
  deriving DecidableEq

abbrev Name := List Char

/-- The nodes under the names that lead to them from the root, no links between. -/
abbrev FileTree (β : Type) := List Name → Option (Node β)

inductive Errno where
  | noEntry
  | notDirectory
  | loop
  deriving DecidableEq, Repr

namespace FileTree

variable {β : Type} (tree : FileTree β)

/-- How many links one resolution may follow. -/
def maxLinks : Nat := 40

/-- The names of a path, one directory after the other; `follow` goes on behind a link. -/
def walkWith (follow : List Name → List Name → Except Errno (Nat × List Name)) (links : Nat) :
    List Name → List Name → Except Errno (Nat × List Name)
  | directory, [] => .ok (links, directory)
  | directory, name :: rest =>
    if name = [] ∨ name = ['.'] then walkWith follow links directory rest
    else if name = ['.', '.'] then walkWith follow links directory.dropLast rest
    else match tree (directory ++ [name]) with
      | some .directory => walkWith follow links (directory ++ [name]) rest
      | some (.link target) =>
        follow (if target.head? = some '/' then [] else directory) (target.splitOn '/' ++ rest)
      | some _ => .error .notDirectory
      | none => .error .noEntry

/-- The directory a path leads to, and how many links may still be followed. -/
def walk : Nat → List Name → List Name → Except Errno (Nat × List Name)
  | 0 => tree.walkWith (fun _ _ => .error .loop) 0
  | links + 1 => tree.walkWith (walk links) (links + 1)

/-- The walk behind a link, with that many links still to follow. -/
def behind : Nat → List Name → List Name → Except Errno (Nat × List Name)
  | 0 => fun _ _ => .error .loop
  | links + 1 => tree.walk links

/-- What the last name of a path stands for; a link there is not followed. -/
def nodeAt (start directories : List Name) (name : Name) : Except Errno (Node β) := do
  let reached ← tree.walk maxLinks start directories
  match tree (reached.2 ++ [name]) with
  | some node => .ok node
  | none => .error .noEntry

/-- Each of the names is that of a directory in the one before. -/
def Directories (directory : List Name) : List Name → Prop
  | [] => True
  | name :: rest => tree (directory ++ [name]) = some .directory ∧ Directories (directory ++ [name]) rest

/-- Every name on the way leads to something that is no link. -/
def Linkless (directory : List Name) : List Name → Prop
  | [] => True
  | name :: rest => (∀ target, tree (directory ++ [name]) ≠ some (.link target)) ∧ Linkless (directory ++ [name]) rest

/-- An ordinary name of a directory. -/
def IsName (name : Name) : Prop := name ≠ [] ∧ name ≠ ['.'] ∧ name ≠ ['.', '.'] ∧ '/' ∉ name

instance (name : Name) : Decidable (IsName name) := inferInstanceAs (Decidable (_ ∧ _))

section Walks

variable {tree}

theorem walk_eq (links : Nat) : tree.walk links = tree.walkWith (tree.behind links) links := by
  cases links <;> rfl

theorem walkWith_append {follow next : List Name → List Name → Except Errno (Nat × List Name)} {later : List Name}
    {continued : Nat × List Name → Except Errno (Nat × List Name)}
    (follows : ∀ directory names, next directory (names ++ later) = follow directory names >>= continued)
    {links : Nat}
    (ends : ∀ directory, tree.walkWith next links directory later = continued (links, directory))
    (directory names : List Name) :
    tree.walkWith next links directory (names ++ later) =
      tree.walkWith follow links directory names >>= continued := by
  induction names generalizing directory with
  | nil => exact ends directory
  | cons name rest ih =>
    rw [List.cons_append, walkWith, walkWith]
    split
    · exact ih directory
    · split
      · exact ih _
      · cases tree (directory ++ [name]) with
        | none => rfl
        | some node =>
          cases node with
          | directory => exact ih _
          | link target =>
            change next _ (target.splitOn '/' ++ (rest ++ later)) = _
            rw [← List.append_assoc]
            exact follows _ _
          | file content => rfl
          | special => rfl

/-- A path of two parts is walked part after part. -/
theorem walk_append (links : Nat) (directory names later : List Name) :
    tree.walk links directory (names ++ later) =
      tree.walk links directory names >>= fun reached => tree.walk reached.1 reached.2 later := by
  induction links generalizing directory names with
  | zero =>
    apply walkWith_append
    · intro _ _
      rfl
    · intro _
      rfl
  | succ links ih =>
    apply walkWith_append
    · exact ih
    · intro _
      rfl

theorem walk_nil (links : Nat) (directory : List Name) : tree.walk links directory [] = .ok (links, directory) := by
  rw [walk_eq]
  rfl

/-- One name of a walk. -/
theorem walk_name {name : Name} (plain : IsName name) (links : Nat) (directory rest : List Name) :
    tree.walk links directory (name :: rest) = match tree (directory ++ [name]) with
      | some .directory => tree.walk links (directory ++ [name]) rest
      | some (.link target) =>
        tree.behind links (if target.head? = some '/' then [] else directory) (target.splitOn '/' ++ rest)
      | some _ => .error .notDirectory
      | none => .error .noEntry := by
  obtain ⟨nonempty, dot, dots, _⟩ := plain
  rw [walk_eq, walkWith, if_neg (not_or.mpr ⟨nonempty, dot⟩), if_neg dots]

/-- Real directories are walked without a link. -/
theorem walk_directories {names : List Name} (plain : ∀ name ∈ names, IsName name) {links : Nat}
    {directory : List Name} (found : tree.Directories directory names) :
    tree.walk links directory names = .ok (links, directory ++ names) := by
  induction names generalizing directory with
  | nil => rw [walk_nil, List.append_nil]
  | cons name rest ih =>
    obtain ⟨here, others⟩ := List.forall_mem_cons.mp plain
    obtain ⟨entered, beyond⟩ := found
    have walked := @walk_name β tree name here links directory rest
    rw [entered] at walked
    rw [walked, ih others beyond, List.append_assoc]
    rfl

/-- Without links a walk goes through real directories only. -/
theorem directories_of_walk {names : List Name} (plain : ∀ name ∈ names, IsName name) {links : Nat}
    {directory : List Name} {reached : Nat × List Name} (linkless : tree.Linkless directory names)
    (walked : tree.walk links directory names = .ok reached) : tree.Directories directory names := by
  induction names generalizing directory with
  | nil => trivial
  | cons name rest ih =>
    obtain ⟨here, others⟩ := List.forall_mem_cons.mp plain
    obtain ⟨unlinked, beyond⟩ := linkless
    rw [walk_name here] at walked
    cases found : tree (directory ++ [name]) with
    | none =>
      rw [found] at walked
      cases walked
    | some node =>
      rw [found] at walked
      cases node with
      | directory => exact ⟨found, ih others beyond walked⟩
      | link target => exact absurd found (unlinked target)
      | file content => cases walked
      | special => cases walked

/-- Whatever is in the first tree is in the second one too. -/
def Extends (tree later : FileTree β) : Prop := ∀ place node, tree place = some node → later place = some node

theorem walkWith_extends {later : FileTree β} {links : Nat}
    {follow next : List Name → List Name → Except Errno (Nat × List Name)} (more : tree.Extends later)
    (follows : ∀ directory names reached, follow directory names = .ok reached → next directory names = .ok reached)
    {directory names : List Name} {reached : Nat × List Name}
    (walked : tree.walkWith follow links directory names = .ok reached) :
    later.walkWith next links directory names = .ok reached := by
  induction names generalizing directory with
  | nil => exact walked
  | cons name rest ih =>
    rw [walkWith] at walked ⊢
    split at walked
    · rw [if_pos (by assumption)]
      exact ih walked
    · rw [if_neg (by assumption)]
      split at walked
      · rw [if_pos (by assumption)]
        exact ih walked
      · rw [if_neg (by assumption)]
        cases found : tree (directory ++ [name]) with
        | none =>
          rw [found] at walked
          cases walked
        | some node =>
          rw [found] at walked
          rw [more _ _ found]
          cases node with
          | directory => exact ih walked
          | link target => exact follows _ _ _ walked
          | file content => cases walked
          | special => cases walked

/-- A walk that arrives arrives there too in a tree that has more. -/
theorem walk_extends {later : FileTree β} (more : tree.Extends later) {links : Nat} {directory names : List Name}
    {reached : Nat × List Name} (walked : tree.walk links directory names = .ok reached) :
    later.walk links directory names = .ok reached := by
  induction links generalizing directory names reached with
  | zero =>
    apply walkWith_extends more _ walked
    intro _ _ _ ended
    exact ended
  | succ links ih =>
    apply walkWith_extends more _ walked
    intro _ _ _ ended
    exact ih ended

theorem nodeAt_eq {start names : List Name} {reached : Nat × List Name}
    (walked : tree.walk maxLinks start names = .ok reached) (name : Name) :
    tree.nodeAt start names name = match tree (reached.2 ++ [name]) with
      | some node => .ok node
      | none => .error .noEntry := by
  rw [nodeAt, walked]
  rfl

/-- A name that stands for something: the walk before it, and what is there. -/
theorem nodeAt_ok_iff {start names : List Name} {name : Name} {node : Node β} :
    tree.nodeAt start names name = .ok node ↔
      ∃ reached, tree.walk maxLinks start names = .ok reached ∧ tree (reached.2 ++ [name]) = some node := by
  constructor
  · intro found
    obtain ⟨reached, walked, ended⟩ := bind_ok found
    refine ⟨reached, walked, ?_⟩
    cases there : tree (reached.2 ++ [name]) with
    | none =>
      rw [there] at ended
      cases ended
    | some other =>
      rw [there] at ended
      cases ended
      rfl
  · intro held
    obtain ⟨reached, walked, there⟩ := held
    rw [nodeAt_eq walked, there]

theorem nodeAt_extends {later : FileTree β} (more : tree.Extends later) {start names : List Name} {name : Name}
    {node : Node β} (found : tree.nodeAt start names name = .ok node) : later.nodeAt start names name = .ok node := by
  obtain ⟨reached, walked, there⟩ := nodeAt_ok_iff.mp found
  exact nodeAt_ok_iff.mpr ⟨reached, walk_extends more walked, more _ _ there⟩

/-- What lies below the one place lies below the other one too. -/
def Moved (tree later : FileTree β) (place new : List Name) : Prop :=
  ∀ rest, later (new ++ rest) = tree (place ++ rest)

theorem Moved.under {later : FileTree β} {place new : List Name} (moved : tree.Moved later place new) (name : Name) :
    tree.Moved later (place ++ [name]) (new ++ [name]) := by
  intro rest
  rw [List.append_assoc, List.append_assoc]
  exact moved _

theorem Directories.moved {later : FileTree β} {place new names : List Name} (moved : tree.Moved later place new)
    (found : tree.Directories place names) : later.Directories new names := by
  induction names generalizing place new with
  | nil => trivial
  | cons name rest ih => exact ⟨(moved [name]).trans found.1, ih (moved.under name) found.2⟩

theorem Directories.linkless {directory names : List Name} (found : tree.Directories directory names) :
    tree.Linkless directory names := by
  induction names generalizing directory with
  | nil => trivial
  | cons name rest ih =>
    refine ⟨?_, ih found.2⟩
    intro target linked
    rw [found.1] at linked
    cases linked

end Walks

end FileTree

end Lib
