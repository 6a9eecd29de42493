import Mathlib.Data.List.Lex
import Mathlib.Data.List.MinMax
import Mathlib.Data.Prod.Lex
import ExaServe.Lib.Digits
import ExaServe.Lib.Words
import ExaServe.Control.Contracts

namespace ExaServe.State.Mounts

open Lib Control

section Paths

/-- A path as `PurePosixPath` reads it: the number of slashes it is rooted at, and its parts. -/
structure PurePath where
  root : Nat
  parts : List (List Char)
  deriving DecidableEq

/-- Exactly two slashes in front are a root of their own. -/
def rootOf : List Char → Nat
  | '/' :: '/' :: '/' :: _ => 1
  | '/' :: '/' :: _ => 2
  | '/' :: _ => 1
  | _ => 0

def readPath (text : List Char) : PurePath where
  root := rootOf text
  parts := (text.splitOn '/').filter fun part => part ≠ [] ∧ part ≠ ['.']

/-- The number of `path.parts`; the root counts as one. -/
def PurePath.partCount (path : PurePath) : Nat := path.parts.length + if path.root = 0 then 0 else 1

/-- `path == other or other in path.parents`. -/
def PurePath.Within (path other : PurePath) : Prop := other.root = path.root ∧ other.parts <+: path.parts

instance (path other : PurePath) : Decidable (path.Within other) := inferInstanceAs (Decidable (_ ∧ _))

/-- The text of an absolute path with these names. -/
def pathText : List (List Char) → List Char
  | [] => ['/']
  | names => names.flatMap fun name => '/' :: name

end Paths

section Readers

variable (decimal : Char → Option Nat)

/-- A text file is read with every kind of newline as `\n`. -/
def universalNewlines : List Char → List Char
  | [] => []
  | '\r' :: '\n' :: rest => '\n' :: universalNewlines rest
  | '\r' :: rest => '\n' :: universalNewlines rest
  | c :: rest => c :: universalNewlines rest

/-- Where `str.splitlines` ends a line. -/
def isLineBreak (c : Char) : Bool :=
  let n := c.toNat
  (10 ≤ n && n ≤ 13) || (28 ≤ n && n ≤ 30) || n = 133 || n = 8232 || n = 8233

def dashMark : List Char := [' ', '-', ' ']

/-- The replacements both readers make, in their order. -/
def mountinfoUnescape (text : List Char) : List Char :=
  let spaces := replaceAll ['\\', '0', '4', '0'] [' '] text
  let tabs := replaceAll ['\\', '0', '1', '1'] ['\t'] spaces
  let newlines := replaceAll ['\\', '0', '1', '2'] ['\n'] tabs
  replaceAll ['\\', '1', '3', '4'] ['\\'] newlines

/-- The mount point and type of a line, as `_filesystem_type` takes them. -/
def matchLine (line : List Char) : Option (List Char × List Char) :=
  match partitionAt dashMark line with
  | none => none
  | some (left, right) =>
    match wordsBy Plan.isSpace left, wordsBy Plan.isSpace right with
    | _ :: _ :: _ :: _ :: mount :: _, fstype :: _ => some (mountinfoUnescape mount, fstype)
    | _, _ => none

def stripSlashes (text : List Char) : List Char := (text.reverse.dropWhile (· = '/')).reverse

/-- The text of the path is the mount's or continues it after a slash. -/
def Covers (mount resolved : List Char) : Prop := resolved = mount ∨ stripSlashes mount ++ ['/'] <+: resolved

instance (mount resolved : List Char) : Decidable (Covers mount resolved) := inferInstanceAs (Decidable (_ ∨ _))

/-- `max(pairs)`, the pairs in their lexicographic order. -/
def maxPair (pairs : List (Nat × List Char)) : Option (Nat × List Char) := pairs.argmax toLex

structure MountInfo where
  mountId : Int
  mountPoint : PurePath
  fstype : List Char
  readonly : Bool

/-- Words are compared by their characters. -/
instance lawfulWords : LawfulBEq (List Char) := inferInstance

/-- A line of `_read_mountinfo`; what does not parse is skipped. -/
def readMountLine (line : List Char) : Option MountInfo :=
  match partitionAt dashMark line with
  | none => none
  | some (left, right) =>
    match wordsBy Plan.isSpace left, wordsBy Plan.isSpace right with
    | mountId :: _ :: _ :: _ :: mount :: options :: _, fstype :: super =>
      (readSigned decimal (Plan.strip mountId)).map fun mountId => {
        mountId
        mountPoint := readPath (mountinfoUnescape mount)
        fstype
        readonly := ['r', 'o'] ∈ options.splitOn ',' ∨
          ['r', 'o'] ∈ ((super[1]?.map fun set => set.splitOn ',').getD []) }
    | _, _ => none

def readMountinfo (text : List Char) : Except Raised (List MountInfo) :=
  match (linesBy isLineBreak (universalNewlines text)).filterMap (readMountLine decimal) with
  | [] => .error (.other "RuntimePathError" "Linux mountinfo contains no usable entries")
  | mounts => .ok mounts

/-- `max(matches, key=...)`: the first with the most parts. -/
def deepest (mounts : List MountInfo) : Option MountInfo := mounts.argmax fun mount => mount.mountPoint.partCount

/-- What `resolve(strict=True)` makes of an absolute path, names for names; none where
    something on the way is missing. -/
abbrev Resolver := List (List Char) → Option (List (List Char))

def filesystemType (text : List Char) (resolver : Resolver) (path : List (List Char)) : Except Raised (List Char) :=
  match resolver path with
  | none => .error (.other "FileNotFoundError" (String.ofList (pathText path)))
  | some resolved =>
    let covering := ((linesBy (· = '\n') (universalNewlines text)).filterMap matchLine).filter fun mount =>
      decide (Covers mount.1 (pathText resolved))
    match maxPair (covering.map fun mount => (mount.1.length, mount.2)) with
    | none => .error (.other "SourceStagingError"
        s!"no mount identity covers node-local path: {String.ofList (pathText resolved)}")
    | some best => .ok best.2

/-- The nearest ancestor that exists, resolved. -/
def probe (resolver : Resolver) : Nat → List (List Char) → Option (List (List Char))
  | 0, path => resolver path
  | steps + 1, path => (resolver path).or (if path = [] then none else probe resolver steps path.dropLast)

def filesystemIdentity (text : List Char) (resolver : Resolver) (path : List (List Char)) :
    Except Raised MountInfo := do
  let mounts ← readMountinfo decimal text
  match probe resolver path.length path with
  | none => .error (.other "RuntimePathError"
      s!"could not inspect filesystem identity for {String.ofList (pathText path)}")
  | some resolved =>
    match deepest (mounts.filter fun mount => decide (PurePath.Within ⟨1, resolved⟩ mount.mountPoint)) with
    | none => .error (.other "RuntimePathError"
        s!"no mountinfo entry covers filesystem path: {String.ofList (pathText resolved)}")
    | some selected => .ok selected

end Readers

end ExaServe.State.Mounts
