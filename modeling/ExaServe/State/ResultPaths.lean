import ExaServe.Lib.FileTree
import ExaServe.State.MountTable

namespace ExaServe.State.Results

open Lib Lib.FileTree Mounts

section Definitions

theorem free_of_mem_splitOn {text part : List Char} (member : part ∈ text.splitOn '/') : '/' ∉ part := by
  induction text generalizing part with
  | nil =>
    obtain rfl := List.mem_singleton.mp member
    exact List.not_mem_nil
  | cons c rest ih =>
    rw [List.splitOn_cons_eq_if_modifyHead] at member
    split at member
    · rcases List.mem_cons.mp member with rfl | later
      · exact List.not_mem_nil
      · exact ih later
    · rename_i other
      cases parts : rest.splitOn '/' with
      | nil => exact absurd parts (List.splitOn_ne_nil _ _)
      | cons first others =>
        rw [parts] at member ih
        rcases List.mem_cons.mp member with rfl | later
        · rw [List.mem_cons, not_or]
          exact ⟨fun same => other (beq_iff_eq.mpr same.symm), ih List.mem_cons_self⟩
        · exact ih (List.mem_cons_of_mem _ later)

def parentName : Name := ['.', '.']

/-- One name more in `posixpath.normpath`. -/
def normStep (rooted : Bool) (names : List Name) (name : Name) : List Name :=
  if name = [] ∨ name = ['.'] then names
  else if name ≠ parentName ∨ (rooted = false ∧ names = []) ∨ names.getLast? = some parentName then names ++ [name]
  else names.dropLast

def normNames (rooted : Bool) (start names : List Name) : List Name := names.foldl (normStep rooted) start

/-- `os.path.normpath`. -/
def normpath (text : List Char) : List Char :=
  let normal := List.replicate (rootOf text) '/' ++
    ['/'].intercalate (normNames (rootOf text ≠ 0) [] (text.splitOn '/'))
  if normal = [] then ['.'] else normal

/-- The check of `ResultEntry.path`. -/
def isEntryPath (path : String) : Bool :=
  let text := path.toList
  let normal := normpath text
  !(text.head? = some '/' || normal = [] || normal = ['.'] || normal = parentName ||
    (parentName ++ ['/']).isPrefixOf normal || normal ≠ text)

/-- A path as it is split at its slashes: how many stand in front, and the names that count. -/
structure Path where
  slashes : Nat
  names : List Name
  named : Named names

def Path.ofText (text : List Char) : Path where
  slashes := rootOf text
  names := (readPath text).parts
  named name member := by
    obtain ⟨inside, proper⟩ := List.mem_filter.mp member
    have kept := of_decide_eq_true proper
    exact ⟨kept.1, kept.2, free_of_mem_splitOn inside⟩

/-- A normalized absolute path. Two slashes in front stay two. -/
structure AbsPath where
  double : Bool
  names : List Name
  plain : ∀ name ∈ names, IsName name

def AbsPath.text (path : AbsPath) : List Char :=
  (if path.double then ['/', '/'] else ['/']) ++ ['/'].intercalate path.names

/-- Where a path is looked up from. -/
def Path.start (cwd : AbsPath) (path : Path) : List Name := if path.slashes = 0 then cwd.names else []

theorem normNames_plain {start names : List Name} (plain : ∀ name ∈ start, IsName name) (named : Named names) :
    ∀ name ∈ normNames true start names, IsName name := by
  induction names generalizing start with
  | nil => exact plain
  | cons name rest ih =>
    apply ih _ fun other member => named other (List.mem_cons_of_mem _ member)
    obtain ⟨nonempty, dot, free⟩ := named name List.mem_cons_self
    rw [normStep, if_neg (not_or.mpr ⟨nonempty, dot⟩)]
    split
    · rename_i pushed
      intro other member
      rcases List.mem_append.mp member with inside | same
      · exact plain other inside
      · obtain rfl := List.mem_singleton.mp same
        rcases pushed with ordinary | ⟨never, _⟩ | last
        · exact ⟨nonempty, dot, ordinary, free⟩
        · cases never
        · exact absurd rfl (plain parentName (List.mem_of_getLast? last)).2.2.1
    · intro other member
      exact plain other (List.dropLast_subset _ member)

/-- `os.path.abspath`. -/
def abspath (cwd : AbsPath) (path : Path) : AbsPath where
  double := if path.slashes = 0 then cwd.double else path.slashes = 2
  names := normNames true (path.start cwd) path.names
  plain := by
    apply normNames_plain _ path.named
    rw [Path.start]
    split
    · exact cwd.plain
    · intro _ member
      cases member

/-- The names that two paths have in common. -/
def commonNames : List Name → List Name → List Name
  | name :: left, other :: right => if name = other then name :: commonNames left right else []
  | _, _ => []

/-- `os.path.commonpath((left, right)) == left`: the common path has one slash in front. -/
def Inside (left right : AbsPath) : Prop := left.double = false ∧ commonNames left.names right.names = left.names

instance (left right : AbsPath) : Decidable (Inside left right) := inferInstanceAs (Decidable (_ ∧ _))

/-- `os.path.relpath`. -/
def relpath (path start : AbsPath) : List Char :=
  let shared := (commonNames start.names path.names).length
  let names := List.replicate (start.names.length - shared) parentName ++ path.names.drop shared
  if names = [] then ['.'] else ['/'].intercalate names

/-- `os.path.abspath(os.path.join(root, path))`. -/
def candidate (root : AbsPath) (path : String) : AbsPath := abspath root (Path.ofText path.toList)

def entryNames (path : String) : List Name := path.toList.splitOn '/'

end Definitions

section Names

theorem commonNames_prefix {left right : List Name} : commonNames left right = left ↔ left <+: right := by
  induction left generalizing right with
  | nil =>
    simp [commonNames]
  | cons name left ih =>
    cases right with
    | nil => simp [commonNames]
    | cons other right =>
      rw [commonNames, List.cons_prefix_cons]
      split_ifs with same
      · simp [same, ih]
      · simp [same]

theorem named_of_plain {names : List Name} (plain : ∀ name ∈ names, IsName name) : Named names :=
  fun name member => ⟨(plain name member).1, (plain name member).2.1, (plain name member).2.2.2⟩

/-- Ordinary names are added as they are. -/
theorem normNames_append (rooted : Bool) (start : List Name) {names : List Name}
    (plain : ∀ name ∈ names, IsName name) :
    normNames rooted start names = start ++ names := by
  induction names generalizing start with
  | nil => exact (List.append_nil start).symm
  | cons name rest ih =>
    obtain ⟨here, others⟩ := List.forall_mem_cons.mp plain
    have step : normStep rooted start name = start ++ [name] := by
      exact (if_neg (not_or.mpr ⟨here.1, here.2.1⟩)).trans (if_pos (Or.inl here.2.2.1))
    change normNames rooted (normStep rooted start name) rest = _
    rw [step, ih _ others, List.append_assoc]
    rfl

/-- A relative path is normalized to steps upwards and then ordinary names. -/
theorem normNames_shape {names : List Name} (free : ∀ name ∈ names, '/' ∉ name) :
    ∃ up rest, normNames false [] names = List.replicate up parentName ++ rest ∧ ∀ name ∈ rest, IsName name := by
  have along : ∀ up rest, (∀ name ∈ rest, IsName name) → ∃ up' rest',
      normNames false (List.replicate up parentName ++ rest) names = List.replicate up' parentName ++ rest' ∧
        ∀ name ∈ rest', IsName name := by
    induction names with
    | nil => exact fun up rest plain => ⟨up, rest, rfl, plain⟩
    | cons name names ih =>
      intro up rest plain
      obtain ⟨here, others⟩ := List.forall_mem_cons.mp free
      have go := ih others
      change ∃ up' rest', normNames false (normStep false (List.replicate up parentName ++ rest) name) names = _ ∧ _
      rw [normStep]
      split_ifs with skipped pushed
      · exact go up rest plain
      · by_cases upward : name = parentName
        · have top : rest = [] := by
            rcases rest.eq_nil_or_concat with empty | ⟨front, last, rfl⟩
            · exact empty
            · rcases pushed with ordinary | ⟨_, empty⟩ | last_parent
              · exact absurd upward ordinary
              · simp at empty
              · rw [List.concat_eq_append, ← List.append_assoc, List.getLast?_concat] at last_parent
                exact absurd (Option.some.inj last_parent) (plain last (by simp)).2.2.1
          rw [top, List.append_nil, upward, ← List.replicate_succ']
          have more := go (up + 1) [] (by simp)
          rw [List.append_nil] at more
          exact more
        · rw [List.append_assoc]
          apply go
          intro other member
          rcases List.mem_append.mp member with inside | same
          · exact plain other inside
          · obtain rfl := List.mem_singleton.mp same
            exact ⟨fun empty => skipped (Or.inl empty), fun dot => skipped (Or.inr dot), upward, here⟩
      · rw [not_or, not_or] at pushed
        obtain ⟨upward, below_root, not_last⟩ := pushed
        rcases rest.eq_nil_or_concat with rfl | ⟨front, last, rfl⟩
        · exfalso
          cases up with
          | zero => exact below_root ⟨rfl, rfl⟩
          | succ up =>
            rw [List.append_nil, List.replicate_succ', List.getLast?_concat] at not_last
            exact not_last rfl
        · rw [List.concat_eq_append, ← List.append_assoc, List.dropLast_concat]
          exact go up front fun other member => plain other (by simp [member])
  simpa using along 0 [] (by simp)

end Names

section Entries

theorem entryPath_facts {path : String} (placed : isEntryPath path = true) :
    rootOf path.toList = 0 ∧ entryNames path ≠ [] ∧ ∀ name ∈ entryNames path, IsName name := by
  rw [isEntryPath] at placed
  simp only [Bool.not_eq_true', Bool.or_eq_false_iff, decide_eq_false_iff_not, not_not] at placed
  obtain ⟨⟨⟨⟨⟨relative, _⟩, here⟩, upward⟩, above⟩, normal⟩ := placed
  have root : rootOf path.toList = 0 := by
    unfold rootOf
    split <;> first | rfl | exact absurd (by simp_all) relative
  have free : ∀ name ∈ path.toList.splitOn '/', '/' ∉ name := fun name member => free_of_mem_splitOn member
  obtain ⟨up, rest, shape, plain⟩ := normNames_shape free
  have printed : ['/'].intercalate (normNames false [] (path.toList.splitOn '/')) = path.toList ∧
      path.toList ≠ [] := by
    unfold normpath at normal here
    simp only [root, ne_eq, not_true_eq_false, decide_false, List.replicate_zero, List.nil_append] at normal here
    split at normal
    · rename_i empty
      rw [if_pos empty] at here
      exact absurd rfl here
    · rename_i nonempty
      exact ⟨normal, normal ▸ nonempty⟩
  rw [normal] at upward above
  rw [shape] at printed
  obtain ⟨text, nonempty⟩ := printed
  have free_shape : ∀ name ∈ List.replicate up parentName ++ rest, '/' ∉ name := by
    intro name member
    rcases List.mem_append.mp member with upwards | ordinary
    · obtain rfl := List.eq_of_mem_replicate upwards
      decide
    · exact (plain name ordinary).2.2.2
  have some_name : List.replicate up parentName ++ rest ≠ [] := by
    intro none
    rw [none] at text
    exact nonempty text.symm
  have names : entryNames path = List.replicate up parentName ++ rest := by
    rw [entryNames, ← text]
    exact List.splitOn_intercalate '/' free_shape some_name
  cases up with
  | zero => exact ⟨root, names ▸ some_name, names ▸ plain⟩
  | succ up =>
    rw [List.replicate_succ, List.cons_append] at text
    cases more : List.replicate up parentName ++ rest with
    | nil =>
      rw [more] at text
      exact absurd text.symm upward
    | cons next others =>
      rw [more, List.intercalate_cons_cons] at text
      rw [← text] at above
      exact absurd (List.isPrefixOf_iff_prefix.mpr (List.prefix_append _ _)) (Bool.eq_false_iff.mp above)

theorem candidate_names {path : String} (placed : isEntryPath path = true) (root : AbsPath) :
    (candidate root path).double = root.double ∧ (candidate root path).names = root.names ++ entryNames path := by
  obtain ⟨relative, _, plain⟩ := entryPath_facts placed
  have read : (readPath path.toList).parts = entryNames path := by
    apply List.filter_eq_self.mpr
    intro name member
    exact decide_eq_true ⟨(plain name member).1, (plain name member).2.1⟩
  constructor
  · exact if_pos relative
  · change normNames true (if rootOf path.toList = 0 then root.names else []) (readPath path.toList).parts = _
    rw [if_pos relative, read]
    exact normNames_append true _ plain

/-- The path of a file inside the root is written so that it is found again. -/
theorem relpath_inside {path start : AbsPath} {rest : List Name} (split : path.names = start.names ++ rest)
    (nonempty : rest ≠ []) : entryNames (String.ofList (relpath path start)) = rest := by
  have plain : ∀ name ∈ rest, IsName name :=
    fun name member => path.plain name (split ▸ List.mem_append_right _ member)
  have shared : commonNames start.names (start.names ++ rest) = start.names :=
    commonNames_prefix.mpr (List.prefix_append _ _)
  rw [relpath, split]
  simp only [shared, Nat.sub_self, List.replicate_zero, List.nil_append, List.drop_left]
  rw [if_neg nonempty, entryNames, String.toList_ofList]
  exact List.splitOn_intercalate '/' (fun name member => (plain name member).2.2.2) nonempty

theorem inside_iff {root path : AbsPath} : Inside root path ↔ root.double = false ∧ root.names <+: path.names := by
  rw [Inside, commonNames_prefix]

end Entries

end ExaServe.State.Results
