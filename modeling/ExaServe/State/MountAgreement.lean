import Mathlib.Data.Set.Finite.Basic
import ExaServe.Lib.Except
import ExaServe.State.MountTable

namespace ExaServe.State.Mounts

open Lib Control

section Selection

variable {α β : Type} [LinearOrder β] {f : α → β} {items : List α}

/-- The items none of the others exceeds. -/
def greatest (f : α → β) (items : List α) : List α := items.filter fun item => ∀ other ∈ items, f other ≤ f item

theorem mem_greatest {item : α} :
    item ∈ greatest f items ↔ item ∈ items ∧ ∀ other ∈ items, f other ≤ f item := by
  rw [greatest, List.mem_filter, decide_eq_true_iff]

/-- `max` with a key picks the first of the greatest. -/
theorem argmax_eq_head? : items.argmax f = (greatest f items).head? := by
  induction items using List.reverseRecOn with
  | nil => rfl
  | append_singleton items item ih =>
    have split : greatest f (items ++ [item]) =
        (greatest f items).filter (fun first => f item ≤ f first) ++
          (if ∀ other ∈ items, f other ≤ f item then [item] else []) := by
      rw [greatest, List.filter_append, greatest, List.filter_filter]
      congr 1
      · apply List.filter_congr
        intro first member
        simp [and_comm, or_imp, forall_and]
      · rw [List.filter_singleton]
        simp [or_imp, forall_and]
    rw [List.argmax_concat, ih, split]
    cases front : greatest f items with
    | nil =>
      have empty : items = [] := by
        have unchosen : items.argmax f = none := by rw [ih, front, List.head?_nil]
        exact List.argmax_eq_none.mp unchosen
      subst empty
      simp
    | cons first rest =>
      have top := mem_greatest.mp (front ▸ List.mem_cons_self : first ∈ greatest f items)
      simp only [List.head?_cons]
      by_cases beaten : f first < f item
      · have none_left : (first :: rest).filter (fun first => f item ≤ f first) = [] := by
          apply List.filter_eq_nil_iff.mpr
          intro other member
          have equal := mem_greatest.mp (front ▸ member : other ∈ greatest f items)
          simpa using lt_of_le_of_lt (top.2 other equal.1) beaten
        have all_below : ∀ other ∈ items, f other ≤ f item := fun other member => (top.2 other member).trans beaten.le
        rw [if_pos beaten, none_left, if_pos all_below]
        rfl
      · rw [if_neg beaten, List.filter_cons_of_pos (by simpa using beaten)]
        rfl

theorem greatest_map {γ : Type} {g : γ → α} {sources : List γ} :
    greatest f (sources.map g) = (greatest (f ∘ g) sources).map g := by
  rw [greatest, List.filter_map, greatest]
  congr 1
  apply List.filter_congr
  intro source member
  simp

end Selection

section Cover

variable {names others resolved : List (List Char)}

theorem pathText_append (some_name : names ≠ []) (others : List (List Char)) :
    pathText (names ++ others) = pathText names ++ others.flatMap fun name => '/' :: name := by
  obtain ⟨name, rest, rfl⟩ := List.exists_cons_of_ne_nil some_name
  rw [List.cons_append, pathText_cons, pathText_cons, List.flatMap_append, List.cons_append, List.append_assoc]

/-- A longer path has the longer text. -/
theorem pathText_length_lt (named : Named others) (inside : names <+: others)
    (shorter : names.length < others.length) :
    (pathText names).length < (pathText others).length := by
  obtain ⟨rest, rfl⟩ := inside
  cases rest with
  | nil => simp at shorter
  | cons name rest =>
    by_cases root : names = []
    · subst root
      have letters := List.length_pos_iff.mpr (named name (by simp)).1
      rw [List.nil_append, pathText_cons, pathText, List.length_singleton, List.length_cons, List.length_append]
      omega
    · rw [pathText_append root, List.length_append, List.flatMap_cons, List.cons_append, List.length_cons]
      omega

theorem stripSlashes_pathText (named : Named names) (some_name : names ≠ []) :
    stripSlashes (pathText names) = pathText names := by
  have ends : ∃ front letter, pathText names = front ++ [letter] ∧ letter ≠ '/' := by
    obtain ⟨others, name, rfl⟩ := (List.eq_nil_or_concat names).resolve_left some_name
    rw [List.concat_eq_append] at named ⊢
    have last := named name (by simp)
    obtain ⟨letters, letter, rfl⟩ := (List.eq_nil_or_concat name).resolve_left last.1
    rw [List.concat_eq_append] at last ⊢
    have other : letter ≠ '/' := by
      rintro rfl
      exact last.2.2 (by simp)
    by_cases single : others = []
    · subst single
      exact ⟨'/' :: letters, letter, by simp [pathText], other⟩
    · rw [pathText_append single]
      exact ⟨pathText others ++ '/' :: letters, letter, by simp, other⟩
  obtain ⟨front, letter, spelled, other⟩ := ends
  rw [spelled, stripSlashes, List.reverse_append, List.reverse_singleton, List.singleton_append,
    List.dropWhile_cons_of_neg (by simpa using other), List.reverse_cons, List.reverse_reverse]

theorem readPath_parts (text : List Char) :
    (readPath text).parts = (text.splitOn '/').filter fun part => part ≠ [] ∧ part ≠ ['.'] := rfl

/-- The text prefix test is the one of the components. -/
theorem covers_iff (mount : Named names) (path : Named resolved) :
    Covers (pathText names) (pathText resolved) ↔ names <+: resolved := by
  have parts_names : (readPath (pathText names)).parts = names := by rw [readPath_pathText mount]
  have parts_resolved : (readPath (pathText resolved)).parts = resolved := by rw [readPath_pathText path]
  by_cases root : names = []
  · subst root
    have opens : ∃ rest, pathText resolved = '/' :: rest := by
      unfold pathText
      split
      · exact ⟨[], rfl⟩
      · rename_i some_name
        obtain ⟨name, rest, rfl⟩ := List.exists_cons_of_ne_nil some_name
        exact ⟨_, rfl⟩
    obtain ⟨rest, opened⟩ := opens
    refine iff_of_true (.inr ?_) (List.nil_prefix)
    rw [opened]
    exact ⟨rest, rfl⟩
  · rw [Covers, stripSlashes_pathText mount root]
    constructor
    · intro covered
      rcases covered with same | ⟨rest, spelled⟩
      · rw [← parts_names, ← parts_resolved, same]
      · rw [← parts_names, ← parts_resolved, ← spelled, List.append_assoc, List.singleton_append, readPath_parts,
          readPath_parts, List.splitOn_append_cons_self, List.filter_append]
        exact List.prefix_append _ _
    · rintro ⟨rest, rfl⟩
      cases rest with
      | nil => exact .inl (by rw [List.append_nil])
      | cons name rest =>
        refine .inr ⟨name ++ rest.flatMap fun name => '/' :: name, ?_⟩
        rw [pathText_append root, List.flatMap_cons, List.append_assoc, List.singleton_append, List.cons_append]

end Cover

section Agreement

variable (entries : List MountEntry) (resolved : List (List Char))

def covering : List MountEntry := entries.filter fun entry => entry.mountPoint <+: resolved

/-- The mounts stacked on the longest mount point that covers the path. -/
def stack : List MountEntry := greatest (fun entry => entry.mountPoint.length) (covering entries resolved)

/-- The mount the path is on: the last one put on its mount point. -/
def attributed : Option MountEntry := (stack entries resolved).getLast?

variable {decimal : Char → Option Nat} {entries resolved} (named : ∀ entry ∈ entries, entry.WellNamed decimal)

theorem mem_covering {entry : MountEntry} :
    entry ∈ covering entries resolved ↔ entry ∈ entries ∧ entry.mountPoint <+: resolved := by
  rw [covering, List.mem_filter, decide_eq_true_iff]

theorem mem_stack {entry : MountEntry} : entry ∈ stack entries resolved ↔
    entry ∈ covering entries resolved ∧
      ∀ other ∈ covering entries resolved, other.mountPoint.length ≤ entry.mountPoint.length :=
  mem_greatest

theorem mountPoint_eq {first second : MountEntry} (left : first ∈ covering entries resolved)
    (right : second ∈ covering entries resolved) (long : first.mountPoint.length = second.mountPoint.length) :
    first.mountPoint = second.mountPoint :=
  (List.prefix_of_prefix_length_le (mem_covering.mp left).2 (mem_covering.mp right).2 long.le).eq_of_length long

variable {resolver : Resolver} {path : List (List Char)}

include named in
/-- The reader that compares texts takes the greatest type of the stack. -/
theorem filesystemType_ok_iff (found : resolver path = some resolved) (absolute : Named resolved) {kind : List Char} :
    filesystemType (mountTable entries) resolver path = .ok kind ↔
      ∃ entry ∈ stack entries resolved,
        entry.fstype = kind ∧ ∀ other ∈ stack entries resolved, other.fstype ≤ kind := by
  let pair : MountEntry → Nat × List Char := fun entry => ((pathText entry.mountPoint).length, entry.fstype)
  have listed : (((linesBy (· = '\n') (universalNewlines (mountTable entries))).filterMap matchLine).filter
      fun mount => decide (Covers mount.1 (pathText resolved))).map (fun mount => (mount.1.length, mount.2)) =
      (covering entries resolved).map pair := by
    rw [matched_mountTable named, List.filter_map, List.map_map, covering]
    congr 1
    apply List.filter_congr
    intro entry member
    exact decide_eq_decide.mpr (covers_iff (named entry member).names absolute)
  have value : filesystemType (mountTable entries) resolver path = .ok kind ↔
      ∃ best, maxPair ((covering entries resolved).map pair) = some best ∧ best.2 = kind := by
    rw [filesystemType, found]
    simp only
    rw [listed]
    cases maxPair ((covering entries resolved).map pair) with
    | none => simp
    | some best => simp
  have longer : ∀ first ∈ covering entries resolved, ∀ second ∈ covering entries resolved,
      first.mountPoint.length < second.mountPoint.length → (pair first).1 < (pair second).1 := by
    intro first left second right shorter
    have proper := (named second (mem_covering.mp right).1).names
    exact pathText_length_lt proper (List.prefix_of_prefix_length_le (mem_covering.mp left).2
      (mem_covering.mp right).2 shorter.le) shorter
  rw [value]
  constructor
  · rintro ⟨best, chosen, rfl⟩
    have member := List.argmax_mem chosen
    obtain ⟨entry, among, rfl⟩ := List.mem_map.mp member
    have top : ∀ other ∈ covering entries resolved, toLex (pair other) ≤ toLex (pair entry) := fun other inside =>
      List.le_of_mem_argmax (List.mem_map_of_mem inside) chosen
    have stacked : entry ∈ stack entries resolved := by
      refine mem_stack.mpr ⟨among, fun other inside => ?_⟩
      by_contra more
      have above := longer entry among other inside (by omega)
      rcases Prod.Lex.toLex_le_toLex.mp (top other inside) with less | ⟨same, -⟩
      · omega
      · omega
    refine ⟨entry, stacked, rfl, fun other inside => ?_⟩
    have long : other.mountPoint = entry.mountPoint := mountPoint_eq (mem_stack.mp inside).1 among
      (le_antisymm ((mem_stack.mp stacked).2 other (mem_stack.mp inside).1) ((mem_stack.mp inside).2 entry among))
    rcases Prod.Lex.toLex_le_toLex.mp (top other (mem_stack.mp inside).1) with less | ⟨-, below⟩
    · rw [show (pair other).1 = (pair entry).1 from congrArg (fun names => (pathText names).length) long] at less
      exact absurd less (lt_irrefl _)
    · exact below
  · rintro ⟨entry, stacked, rfl, greatest_type⟩
    have among := (mem_stack.mp stacked).1
    have top : ∀ other ∈ covering entries resolved, toLex (pair other) ≤ toLex (pair entry) := by
      intro other inside
      rcases ((mem_stack.mp stacked).2 other inside).lt_or_eq with shorter | long
      · exact (Prod.Lex.toLex_lt_toLex.mpr (.inl (longer other inside entry among shorter))).le
      · have same := mountPoint_eq inside among long
        have other_stacked : other ∈ stack entries resolved :=
          mem_stack.mpr ⟨inside, fun third within => long ▸ (mem_stack.mp stacked).2 third within⟩
        exact Prod.Lex.toLex_le_toLex.mpr
          (.inr ⟨congrArg (fun names => (pathText names).length) same, greatest_type other other_stacked⟩)
    have some_pair : (covering entries resolved).map pair ≠ [] := List.ne_nil_of_mem (List.mem_map_of_mem among)
    have some_best : maxPair ((covering entries resolved).map pair) ≠ none := mt List.argmax_eq_none.mp some_pair
    obtain ⟨best, chosen⟩ := Option.ne_none_iff_exists'.mp some_best
    have above : toLex (pair entry) ≤ toLex best := List.le_of_mem_argmax (List.mem_map_of_mem among) chosen
    obtain ⟨other, inside, rfl⟩ := List.mem_map.mp (List.argmax_mem chosen)
    have same : pair other = pair entry := toLex.injective (le_antisymm (top other inside) above)
    exact ⟨pair other, chosen, congrArg Prod.snd same⟩

include named in
/-- The reader that compares components takes the first of the stack. -/
theorem filesystemIdentity_eq (found : resolver path = some resolved) :
    (filesystemIdentity decimal (mountTable entries) resolver path).toOption =
      (stack entries resolved).head?.map fun entry => entry.info decimal := by
  have within : (entries.map fun entry => entry.info decimal).filter
      (fun mount => decide (PurePath.Within ⟨1, resolved⟩ mount.mountPoint)) =
      (covering entries resolved).map fun entry => entry.info decimal := by
    rw [List.filter_map, covering]
    congr 1
    apply List.filter_congr
    intro entry member
    exact decide_eq_decide.mpr (and_iff_right rfl)
  have deep : deepest ((covering entries resolved).map fun entry => entry.info decimal) =
      (stack entries resolved).head?.map fun entry => entry.info decimal := by
    rw [deepest, argmax_eq_head?, greatest_map, List.head?_map]
    congr 2
    apply List.filter_congr
    intro entry member
    simp [PurePath.partCount, MountEntry.info]
  have probed : probe resolver path.length path = some resolved := by
    cases path with
    | nil => exact found
    | cons name rest => rw [List.length_cons, probe, found, Option.some_or]
  cases empty : entries with
  | nil => rfl
  | cons entry rest =>
    have read : readMountinfo decimal (mountTable entries) = .ok (entries.map fun entry => entry.info decimal) := by
      rw [readMountinfo, read_mountTable named, empty]
      rfl
    rw [← empty, filesystemIdentity, ok_bind read, probed]
    simp only
    rw [within, deep]
    cases (stack entries resolved).head? with
    | none => rfl
    | some first => rfl

/-- Both readers name the type of the mount a path is on. -/
def IdentitiesAgree (decimal : Char → Option Nat) (entries : List MountEntry) (resolver : Resolver)
    (path : List (List Char)) : Prop :=
  ∃ resolved mount, resolver path = some resolved ∧ attributed entries resolved = some mount ∧
    filesystemType (mountTable entries) resolver path = .ok mount.fstype ∧
    ∃ found, filesystemIdentity decimal (mountTable entries) resolver path = .ok found ∧ found.fstype = mount.fstype

/-- On the longest mount point the last type is the first one, and the greatest. -/
theorem identities_agree_iff {decimal : Char → Option Nat} {entries : List MountEntry}
    (named : ∀ entry ∈ entries, entry.WellNamed decimal) {resolver : Resolver}
    (absolute : ∀ path resolved, resolver path = some resolved → Named resolved) (path : List (List Char)) :
    IdentitiesAgree decimal entries resolver path ↔
      ∃ resolved first last, resolver path = some resolved ∧ (stack entries resolved).head? = some first ∧
        (stack entries resolved).getLast? = some last ∧ first.fstype = last.fstype ∧
        ∀ other ∈ stack entries resolved, other.fstype ≤ last.fstype := by
  constructor
  · rintro ⟨resolved, last, found, on, typed, identity, identified, same⟩
    obtain ⟨entry, -, -, greatest_type⟩ := (filesystemType_ok_iff named found (absolute _ _ found)).mp typed
    have taken := filesystemIdentity_eq named found
    rw [identified] at taken
    obtain ⟨first, front, spelled⟩ := Option.map_eq_some_iff.mp taken.symm
    have kind : first.fstype = last.fstype := by
      rw [← same, ← spelled]
      rfl
    exact ⟨resolved, first, last, found, front, on, kind, greatest_type⟩
  · rintro ⟨resolved, first, last, found, front, on, same, greatest_type⟩
    have typed := (filesystemType_ok_iff named found (absolute _ _ found)).mpr
      ⟨last, List.mem_of_getLast? on, rfl, greatest_type⟩
    have taken := filesystemIdentity_eq named found
    rw [front] at taken
    exact ⟨resolved, last, found, on, typed, first.info decimal, Lib.eq_ok_of_toOption taken, same⟩

section Example

def asciiDecimal (c : Char) : Option Nat := if c.isDigit then some (c.toNat - 48) else none

def mountOf (number kind source : String) (names : List String) : MountEntry where
  mountId := number.toList
  parentId := ['1']
  device := "0:40".toList
  root := ['/']
  mountPoint := names.map String.toList
  options := "rw,relatime".toList
  tags := ["shared:5".toList]
  fstype := kind.toList
  source := source.toList
  superOptions := ['r', 'w']

def rootMount : MountEntry := mountOf "30" "ext4" "/dev/sda1" []

/-- Only the one path is there. -/
def onlyPath (names : List (List Char)) : Resolver := fun path => if path = names then some names else none

def homePath : List (List Char) := ["home".toList, "alice".toList]

/-- An automount point with the file system mounted on it. -/
def automounted : List MountEntry :=
  [rootMount, mountOf "41" "autofs" "systemd-1" ["home"], mountOf "52" "nfs4" "server:/home" ["home"]]

theorem automount_misread : ¬ IdentitiesAgree asciiDecimal automounted (onlyPath homePath) homePath := by
  rintro ⟨resolved, mount, found, on, -, identity, identified, same⟩
  have here : resolved = homePath := (Option.some.inj ((if_pos rfl).symm.trans found)).symm
  subst here
  have last : attributed automounted homePath = some (mountOf "52" "nfs4" "server:/home" ["home"]) := rfl
  have read : (filesystemIdentity asciiDecimal (mountTable automounted) (onlyPath homePath)
      homePath).toOption.map MountInfo.fstype = some "autofs".toList := by decide +kernel
  rw [identified] at read
  rw [last] at on
  have kinds : "autofs".toList = "nfs4".toList := by
    calc "autofs".toList = identity.fstype := (Option.some.inj read).symm
      _ = mount.fstype := same
      _ = "nfs4".toList := by rw [← Option.some.inj on]; rfl
  exact absurd kinds (by decide)

/-- A disk whose mount point has a blank in its name, under the root. -/
def labelled : List MountEntry := [rootMount, mountOf "77" "xfs" "/dev/sdb1" ["media", "my disk"]]

def diskPath : List (List Char) := ["media".toList, "my disk".toList, "models".toList]

theorem labelled_identities_agree : IdentitiesAgree asciiDecimal labelled (onlyPath diskPath) diskPath := by
  have named : ∀ entry ∈ labelled, entry.WellNamed asciiDecimal := by
    have blanks : (labelled.all fun entry => entry.mountPoint.all fun name => name.all fun c =>
        !Plan.isSpace c || decide (c ∈ escapedChars)) = true := by decide +kernel
    have tail : (labelled.all fun entry => (encode escapedChars entry.source ++ entry.superOptions).all fun c =>
        !isLineBreak c) = true := by decide +kernel
    intro entry member
    refine ⟨?_, ?_, ?_, ?_, ?_, ?_⟩
    case refine_5 =>
      intro name among c inside blank
      have names := List.all_eq_true.mp (List.all_eq_true.mp blanks entry member) name among
      have checked := List.all_eq_true.mp names c inside
      simpa [blank] using checked
    case refine_6 =>
      intro c inside
      have checked := List.all_eq_true.mp (List.all_eq_true.mp tail entry member) c inside
      simpa using checked
    all_goals
      revert entry
      decide +kernel
  have absolute : ∀ path resolved, onlyPath diskPath path = some resolved → Named resolved := by
    intro path resolved found
    unfold onlyPath at found
    split at found
    · rw [← Option.some.inj found]
      unfold Named
      decide +kernel
    · cases found
  apply (identities_agree_iff named absolute diskPath).mpr
  refine ⟨diskPath, mountOf "77" "xfs" "/dev/sdb1" ["media", "my disk"], mountOf "77" "xfs" "/dev/sdb1"
    ["media", "my disk"], if_pos rfl, rfl, rfl, rfl, ?_⟩
  intro other member
  have only : stack labelled diskPath = [mountOf "77" "xfs" "/dev/sdb1" ["media", "my disk"]] := rfl
  rw [only, List.mem_singleton] at member
  rw [member]

end Example

end Agreement

end ExaServe.State.Mounts
