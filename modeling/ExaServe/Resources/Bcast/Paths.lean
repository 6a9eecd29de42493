import ExaServe.Lib.Files
import Mathlib.Data.List.TakeWhile

namespace ExaServe.Resources.Bcast

open Lib

abbrev Bytes := List UInt8

def slash : UInt8 := 47

def isDot (name : Bytes) : Bool := name = [46] || name = [46, 46]

/-- What a string handed to C is read as. -/
def cString (buffer : Bytes) : Bytes := buffer.takeWhile (· ≠ 0)

def safeComponents : List Bytes → Bool
  | [] => true
  -- after a last slash the loop is at the end of the string
  | [last] => !isDot last
  | component :: rest => component ≠ [] && !isDot component && safeComponents rest

def safeRelativePath (path : Bytes) : Bool :=
  path ≠ [] && path.head? ≠ some slash && !decide ([slash, slash] <:+: path) && safeComponents (path.splitOn slash)

def joinPath (left right : Bytes) : Bytes := left ++ slash :: right

/-- The names of a path; a run of slashes is one. -/
def parts (path : Bytes) : List Bytes := (path.splitOn slash).filter (· ≠ [])

/-- Where one more name of a path leads to. -/
def enter (here : List Bytes) (part : Bytes) : List Bytes :=
  if part = [46] then here else if part = [46, 46] then here.dropLast else here ++ [part]

def resolve (path : Bytes) : List Bytes := (parts path).foldl enter []

/-- The places a path leads through. -/
def visited : List Bytes → List Bytes → List (List Bytes)
  | _, [] => []
  | here, part :: rest => enter here part :: visited (enter here part) rest

/-- A name a directory may hold. -/
def wellNamed (name : Bytes) : Bool := name ≠ [] && name.length ≤ 255 && !name.contains slash && !name.contains 0

/-- A path all of whose names may be sent. -/
structure Sendable (path : Bytes) : Prop where
  names : ∀ name ∈ path.splitOn slash, name ≠ [] ∧ isDot name = false
  plain : 0 ∉ path

theorem splitOn_joinPath (left right : Bytes) :
    (joinPath left right).splitOn slash = left.splitOn slash ++ right.splitOn slash :=
  List.splitOn_append_cons_self left right

theorem parts_joinPath (left right : Bytes) : parts (joinPath left right) = parts left ++ parts right := by
  rw [parts, splitOn_joinPath, List.filter_append]
  rfl

theorem splitOn_name {name : Bytes} (free : slash ∉ name) : name.splitOn slash = [name] :=
  List.splitOn_eq_singleton free

theorem wellNamed_iff {name : Bytes} :
    wellNamed name = true ↔ name ≠ [] ∧ name.length ≤ 255 ∧ slash ∉ name ∧ 0 ∉ name := by
  simp [wellNamed, and_assoc]

theorem sendable_name {name : Bytes} (good : wellNamed name = true) (plain : isDot name = false) : Sendable name := by
  obtain ⟨nonempty, -, free, nul⟩ := wellNamed_iff.mp good
  refine ⟨?_, nul⟩
  intro other listed
  rw [splitOn_name free, List.mem_singleton] at listed
  rw [listed]
  exact ⟨nonempty, plain⟩

theorem Sendable.join {left right : Bytes} (first : Sendable left) (second : Sendable right) :
    Sendable (joinPath left right) where
  names name listed := by
    rw [splitOn_joinPath, List.mem_append] at listed
    rcases listed with listed | listed
    · exact first.names name listed
    · exact second.names name listed
  plain := by
    have apart : (0 : UInt8) ≠ slash := by decide
    simp [joinPath, first.plain, second.plain, apart]

theorem Sendable.parts_eq {path : Bytes} (sendable : Sendable path) : parts path = path.splitOn slash := by
  rw [parts, List.filter_eq_self]
  intro name listed
  exact decide_eq_true (sendable.names name listed).1

theorem Sendable.cString_eq {path : Bytes} (sendable : Sendable path) : cString path = path := by
  rw [cString, List.takeWhile_eq_self_iff]
  intro byte listed
  refine decide_eq_true ?_
  rintro rfl
  exact sendable.plain listed

theorem safeComponents_of_all {components : List Bytes}
    (all : ∀ name ∈ components, name ≠ [] ∧ isDot name = false) : safeComponents components = true := by
  induction components with
  | nil => rfl
  | cons first rest ih =>
    obtain ⟨nonempty, plain⟩ := all first List.mem_cons_self
    cases rest with
    | nil => simp [safeComponents, plain]
    | cons second others =>
      simp only [safeComponents, nonempty, plain, ne_eq, not_false_eq_true, decide_true, Bool.not_false, Bool.true_and]
      exact ih fun name listed => all name (List.mem_cons_of_mem _ listed)

theorem Sendable.safe {path : Bytes} (sendable : Sendable path) : safeRelativePath path = true := by
  have nonempty : path ≠ [] := by
    rintro rfl
    exact (sendable.names [] (by decide)).1 rfl
  have relative : path.head? ≠ some slash := by
    intro absolute
    obtain ⟨rest, rfl⟩ := List.head?_eq_some_iff.mp absolute
    refine (sendable.names [] ?_).1 rfl
    rw [show slash :: rest = joinPath [] rest from rfl, splitOn_joinPath]
    exact List.mem_append_left _ (by decide)
  have single : ¬ [slash, slash] <:+: path := by
    rintro ⟨before, after, rfl⟩
    refine (sendable.names [] ?_).1 rfl
    rw [show before ++ [slash, slash] ++ after = joinPath before (joinPath [] after) by simp [joinPath],
      splitOn_joinPath, splitOn_joinPath]
    exact List.mem_append_right _ (List.mem_append_left _ (by decide))
  simp only [safeRelativePath, nonempty, relative, single, safeComponents_of_all sendable.names, ne_eq,
    not_false_eq_true, decide_true, decide_false, Bool.not_false, Bool.and_self]

theorem plain_of_safeComponents {components : List Bytes} (safe : safeComponents components = true) :
    ∀ name ∈ components, isDot name = false := by
  induction components with
  | nil => simp
  | cons first rest ih =>
    cases rest with
    | nil => simpa [safeComponents] using safe
    | cons second others =>
      simp only [safeComponents, Bool.and_eq_true, Bool.not_eq_true'] at safe
      intro name listed
      rcases List.mem_cons.mp listed with rfl | later
      · exact safe.1.2
      · exact ih safe.2 name later

theorem foldl_enter {names : List Bytes} (plain : ∀ name ∈ names, isDot name = false) (here : List Bytes) :
    names.foldl enter here = here ++ names := by
  induction names generalizing here with
  | nil => exact (List.append_nil here).symm
  | cons first rest ih =>
    have proper := plain first List.mem_cons_self
    have entered : enter here first = here ++ [first] := by
      simp only [isDot, Bool.or_eq_false_iff, decide_eq_false_iff_not] at proper
      rw [enter, if_neg proper.1, if_neg proper.2]
    rw [List.foldl_cons, entered, ih fun name listed => plain name (List.mem_cons_of_mem _ listed), List.append_assoc]
    rfl

theorem safe_parts {path : Bytes} (safe : safeRelativePath path = true) :
    parts path ≠ [] ∧ ∀ name ∈ parts path, isDot name = false := by
  simp only [safeRelativePath, Bool.and_eq_true, ne_eq, decide_not, Bool.not_eq_true', decide_eq_false_iff_not] at safe
  obtain ⟨⟨⟨nonempty, relative⟩, -⟩, components⟩ := safe
  refine ⟨?_, fun name listed => plain_of_safeComponents components name (List.mem_of_mem_filter listed)⟩
  intro none
  rw [parts, List.filter_eq_nil_iff] at none
  have joined : [slash].intercalate (path.splitOn slash) = path := List.intercalate_splitOn slash
  cases split : path.splitOn slash with
  | nil => exact List.splitOn_ne_nil slash path split
  | cons first rest =>
    have empty : first = [] := by simpa using none first (by rw [split]; exact List.mem_cons_self)
    subst empty
    rw [split] at joined
    cases rest with
    | nil => exact nonempty (by simpa using joined.symm)
    | cons second others =>
      refine relative ?_
      rw [← joined]
      simp [List.intercalate]

/-- A safe relative path leads strictly below the directory it is joined to. -/
theorem resolve_joinPath (destination : Bytes) {path : Bytes} (safe : safeRelativePath path = true) :
    resolve (joinPath destination path) = resolve destination ++ parts path := by
  rw [resolve, parts_joinPath, List.foldl_append, foldl_enter (safe_parts safe).2]
  rfl

end ExaServe.Resources.Bcast
