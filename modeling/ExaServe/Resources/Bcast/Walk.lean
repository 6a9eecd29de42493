import ExaServe.Resources.Bcast.Stream

namespace ExaServe.Resources.Bcast

open Lib

def maxWalkDepth : Nat := 1024

/-- The names `scandir` gives of a directory. -/
structure Listing where
  names : List Bytes
  distinct : names.Nodup
  named : ∀ name ∈ names, wellNamed name = true

/-- What `stat` gives of a path. -/
inductive Stat (ι : Type) where
  | failed
  | unsupported
  | file (content : Bytes) (mode : Nat)
  | directory (node : ι) (mode : Nat) (listing : Listing)

/-- The source under the names that lead to its entries; links are followed. -/
abbrev Source (ι : Type) := List Bytes → Stat ι

structure Root where
  calls : List Payload
  /-- The files of the root, when it is a recipient itself. -/
  own : Option Disk

inductive Outcome where
  | going (root : Root)
  | aborted (root : Root) (message : String)

def Outcome.root : Outcome → Root
  | .going root => root
  | .aborted root _ => root

def Outcome.Aborts (outcome : Outcome) : Prop := ∃ root message, outcome = .aborted root message

def Outcome.andThen : Outcome → (Root → Outcome) → Outcome
  | .going root, next => next root
  | .aborted root message, _ => .aborted root message

def Root.broadcast (root : Root) (calls : List Payload) : Root := { root with calls := root.calls ++ calls }

def broadcastHeader (kind : EntryKind) (path : Bytes) (size mode : Nat) (root : Root) : Outcome :=
  if path.length > intMax then .aborted root "streamed path exceeds MPI count limit"
  else .going (root.broadcast (headerCalls kind path size mode))

def writeOwn (write : Disk → Except String Disk) (root : Root) : Outcome :=
  match root.own with
  | none => .going root
  | some disk => match write disk with
    | .ok written => .going { root with own := some written }
    | .error message => .aborted root message

/-- Each buffer of the file is broadcast, then written. -/
def emitData (output : List Bytes) : List Bytes → Root → Outcome
  | [], root => .going root
  | chunk :: rest, root =>
    (writeOwn (fun disk => orFatal "writing destination file failed" (disk.append output chunk))
      (root.broadcast [.bytes chunk])).andThen (emitData output rest)

def emitFile (destination relative content : Bytes) (mode : Nat) (root : Root) : Outcome :=
  let output := resolve (joinPath destination relative)
  (broadcastHeader .file relative content.length mode root).andThen fun root =>
    (writeOwn (fun disk => (openDestinationFile destination relative disk).map Prod.snd) root).andThen fun root =>
      (emitData output (slices bufferSize content) root).andThen
        (writeOwn fun disk => orFatal "publishing destination file failed" (disk.setMode output mode))

def emitNames (child : Bytes → Root → Outcome) : List Bytes → Root → Outcome
  | [], root => .going root
  | name :: rest, root => (if isDot name then .going root else child name root).andThen (emitNames child rest)

section Emission

variable {ι : Type} [DecidableEq ι] (source : Source ι) (destination : Bytes)

/-- `emit_entry`, with how far its depth still is from the maximum. -/
def emitEntry : Nat → List ι → List Bytes → Bytes → Root → Outcome
  | 0, _, _, _, root => .aborted root "source tree exceeds maximum depth"
  | left + 1, ancestors, path, relative, root =>
    match source path with
    | .failed => .aborted root "stating source entry failed"
    | .unsupported => .aborted root "source contains unsupported entry"
    | .file content mode => emitFile destination relative content (mode &&& 0o7777) root
    | .directory node mode listing =>
      if node ∈ ancestors then .aborted root "source directory contains a symlink cycle"
      else
        (broadcastHeader .directoryBegin relative 0 (mode &&& 0o7777) root).andThen fun root =>
          (writeOwn (fun disk => orFatal "creating destination directory failed" (beginDirectory destination relative disk))
            root).andThen fun root =>
            (emitNames (fun name => emitEntry left (ancestors ++ [node]) (path ++ [name]) (joinPath relative name))
              listing.names root).andThen fun root =>
              (broadcastHeader .directoryEnd relative 0 (mode &&& 0o7777) root).andThen
                (writeOwn fun disk => orFatal "finalizing destination directory failed"
                  (finishDirectory destination relative (mode &&& 0o7777) disk))

/-- What the root does with a source of the given name. -/
def emit (basename : Bytes) (own : Option Disk) : Outcome :=
  (emitEntry source destination maxWalkDepth [] [] basename ⟨[], own⟩).andThen (broadcastHeader .end_ [] 0 0)

end Emission

/-- The records of a walk, and why it stopped short. -/
abbrev Walked := List Record × Option String

def Walked.andThen (first second : Walked) : Walked :=
  match first.2 with
  | some _ => first
  | none => (first.1 ++ second.1, second.2)

def walkNames (child : Bytes → Walked) : List Bytes → Walked
  | [] => ([], none)
  | name :: rest => Walked.andThen (if isDot name then ([], none) else child name) (walkNames child rest)

/-- The records of an entry, in the order they are sent. -/
def walk {ι : Type} [DecidableEq ι] (source : Source ι) : Nat → List ι → List Bytes → Bytes → Walked
  | 0, _, _, _ => ([], some "source tree exceeds maximum depth")
  | left + 1, ancestors, path, relative =>
    match source path with
    | .failed => ([], some "stating source entry failed")
    | .unsupported => ([], some "source contains unsupported entry")
    | .file content mode => ([.file relative content (mode &&& 0o7777)], none)
    | .directory node mode listing =>
      if node ∈ ancestors then ([], some "source directory contains a symlink cycle")
      else
        Walked.andThen ([.beginDirectory relative (mode &&& 0o7777)], none)
          (Walked.andThen
            (walkNames (fun name => walk source left (ancestors ++ [node]) (path ++ [name]) (joinPath relative name))
              listing.names)
            ([.finishDirectory relative (mode &&& 0o7777)], none))

def applyAll (destination : Bytes) (records : List Record) (disk : Disk) : Except String Disk :=
  records.foldlM (fun disk record => record.apply destination disk) disk

/-- What a write does to the files of a node that may not be there. -/
def Wrote (write : Disk → Except String Disk) (before after : Option Disk) : Prop :=
  (before = none ∧ after = none) ∨ ∃ disk written, before = some disk ∧ write disk = .ok written ∧ after = some written

def finish (stopped : Option String) (root : Root) : Outcome :=
  match stopped with
  | none => .going root
  | some message => .aborted root message

variable {destination relative : Bytes} {own : Option Disk} {root : Root}

theorem applyAll_append {first second : List Record} {disk : Disk} :
    applyAll destination (first ++ second) disk = applyAll destination first disk >>= applyAll destination second :=
  List.foldlM_append

theorem Wrote.split {first second : Disk → Except String Disk} {before after : Option Disk}
    (wrote : Wrote (fun disk => first disk >>= second) before after) :
    ∃ between, Wrote first before between ∧ Wrote second between after := by
  rcases wrote with ⟨rfl, rfl⟩ | ⟨disk, written, rfl, done, rfl⟩
  · exact ⟨none, .inl ⟨rfl, rfl⟩, .inl ⟨rfl, rfl⟩⟩
  · obtain ⟨between, one, two⟩ := bind_ok done
    exact ⟨some between, .inr ⟨disk, between, rfl, one, rfl⟩, .inr ⟨between, written, rfl, two, rfl⟩⟩

theorem wrote_append {first second : List Record} {before after : Option Disk}
    (wrote : Wrote (applyAll destination (first ++ second)) before after) :
    ∃ between, Wrote (applyAll destination first) before between ∧ Wrote (applyAll destination second) between after := by
  have sequence : applyAll destination (first ++ second) =
      fun disk => applyAll destination first disk >>= applyAll destination second := funext fun _ => applyAll_append
  rw [sequence] at wrote
  exact wrote.split

theorem wrote_one {record : Record} {before after : Option Disk} (wrote : Wrote (applyAll destination [record]) before after) :
    Wrote (record.apply destination) before after := by
  have sequence : Wrote (fun disk => record.apply destination disk >>= .ok) before after := wrote
  obtain ⟨between, one, two⟩ := sequence.split
  rcases two with ⟨rfl, rfl⟩ | ⟨disk, written, rfl, done, rfl⟩
  · exact one
  · cases done
    exact one

theorem wrote_nil {before after : Option Disk} (wrote : Wrote (applyAll destination []) before after) : after = before := by
  rcases wrote with ⟨rfl, rfl⟩ | ⟨disk, written, rfl, done, rfl⟩
  · rfl
  · cases done
    rfl

theorem Outcome.andThen_assoc (first : Outcome) (second third : Root → Outcome) :
    (first.andThen second).andThen third = first.andThen fun root => (second root).andThen third := by
  cases first <;> rfl

theorem broadcastHeader_short {kind : EntryKind} {size mode : Nat} (short : relative.length < intMax) :
    broadcastHeader kind relative size mode root = .going (root.broadcast (headerCalls kind relative size mode)) :=
  if_neg (by omega)

theorem writeOwn_done {write : Disk → Except String Disk} (root : Root) {after : Option Disk} (wrote : Wrote write root.own after) :
    writeOwn write root = .going { root with own := after } := by
  obtain ⟨calls, own⟩ := root
  rcases wrote with ⟨rfl, rfl⟩ | ⟨disk, written, rfl, done, rfl⟩
  · rfl
  · simp only [writeOwn, done]

theorem emitData_done {output : List Bytes} {chunks : List Bytes} {after : Option Disk}
    (wrote : Wrote (writeChunks output chunks) root.own after) :
    emitData output chunks root = .going ⟨root.calls ++ chunks.map .bytes, after⟩ := by
  induction chunks generalizing root with
  | nil =>
    have same : after = root.own := by
      rcases wrote with ⟨none, rfl⟩ | ⟨disk, written, own, done, rfl⟩
      · exact none.symm
      · cases done
        exact own.symm
    rw [emitData, same, List.map_nil, List.append_nil]
  | cons chunk rest ih =>
    have sequence : Wrote (fun disk =>
        orFatal "writing destination file failed" (disk.append output chunk) >>= writeChunks output rest) root.own after :=
      wrote
    obtain ⟨between, one, others⟩ := sequence.split
    rw [emitData, writeOwn_done (root.broadcast [.bytes chunk]) one]
    refine (ih others).trans ?_
    simp [Root.broadcast]

theorem emitOutput_done (root : Root) {chunks : List Bytes} {mode : Nat} {after : Option Disk}
    (wrote : Wrote (putFile destination relative chunks mode) root.own after) :
    ((writeOwn (fun disk => (openDestinationFile destination relative disk).map Prod.snd) root).andThen fun root =>
      (emitData (resolve (joinPath destination relative)) chunks root).andThen
        (writeOwn fun disk => orFatal "publishing destination file failed"
          (disk.setMode (resolve (joinPath destination relative)) mode))) =
      .going ⟨root.calls ++ chunks.map .bytes, after⟩ := by
  have split : Wrote (fun disk => ((openDestinationFile destination relative disk).map Prod.snd >>= fun opened =>
      writeChunks (resolve (joinPath destination relative)) chunks opened) >>= fun written =>
      orFatal "publishing destination file failed" (written.setMode (resolve (joinPath destination relative)) mode))
      root.own after := by
    rcases wrote with none | ⟨disk, written, own, done, rfl⟩
    · exact .inl none
    · refine .inr ⟨disk, written, own, ?_, rfl⟩
      obtain ⟨opened, filled, one, two, three⟩ := putFile_steps done
      have created : (openDestinationFile destination relative disk).map Prod.snd = .ok opened := by
        rw [one]
        rfl
      exact (ok_bind ((ok_bind created _).trans two) _).trans (orFatal_some three)
  obtain ⟨between, filled, published⟩ := split.split
  obtain ⟨opened, one, two⟩ := Wrote.split filled
  rw [writeOwn_done root one]
  show (emitData _ chunks ⟨root.calls, opened⟩).andThen _ = _
  rw [emitData_done two]
  exact writeOwn_done _ published

theorem emitFile_done {content : Bytes} {mode : Nat} {after : Option Disk} (streamable : Streamable relative)
    (wrote : Wrote ((Record.file relative content mode).apply destination) root.own after) :
    emitFile destination relative content mode root =
      .going ⟨root.calls ++ (Record.file relative content mode).calls, after⟩ := by
  have output := emitOutput_done (root.broadcast (headerCalls .file relative content.length mode)) wrote
  rw [emitFile, broadcastHeader_short streamable.short, Outcome.andThen, output, Root.broadcast, List.append_assoc,
    Record.calls, dataCalls]

/-- A walk is emitted record by record. -/
def Emits (destination : Bytes) (emission : Root → Outcome) (walked : Walked) : Prop :=
  ∀ root after, Wrote (applyAll destination walked.1) root.own after →
    emission root = finish walked.2 ⟨root.calls ++ walked.1.flatMap Record.calls, after⟩

theorem emits_nil : Emits destination .going ([], none) := by
  intro root after wrote
  rw [wrote_nil wrote, List.flatMap_nil, List.append_nil]
  rfl

theorem emits_stopped (message : String) : Emits destination (.aborted · message) ([], some message) := by
  intro root after wrote
  rw [wrote_nil wrote, List.flatMap_nil, List.append_nil]
  rfl

theorem Emits.andThen {first second : Root → Outcome} {one two : Walked} (head : Emits destination first one)
    (tail : Emits destination second two) :
    Emits destination (fun root => (first root).andThen second) (one.andThen two) := by
  intro root after wrote
  obtain ⟨records, stopped⟩ := one
  cases stopped with
  | some message =>
    have begun := head root after wrote
    show (first root).andThen second = _
    rw [begun]
    rfl
  | none =>
    obtain ⟨between, before, later⟩ := wrote_append wrote
    have begun := head root between before
    show (first root).andThen second = _
    rw [begun]
    refine (tail ⟨_, between⟩ after later).trans ?_
    simp [Walked.andThen]

theorem emits_begin (mode : Nat) (streamable : Streamable relative) :
    Emits destination (fun root => (broadcastHeader .directoryBegin relative 0 mode root).andThen
      (writeOwn fun disk => orFatal "creating destination directory failed" (beginDirectory destination relative disk)))
      ([.beginDirectory relative mode], none) := by
  intro root after wrote
  show (broadcastHeader _ relative 0 mode root).andThen _ = _
  rw [broadcastHeader_short streamable.short]
  refine (writeOwn_done (root.broadcast _) (wrote_one wrote)).trans ?_
  simp [Root.broadcast, Record.calls, finish]

theorem emits_finish (mode : Nat) (streamable : Streamable relative) :
    Emits destination (fun root => (broadcastHeader .directoryEnd relative 0 mode root).andThen
      (writeOwn fun disk => orFatal "finalizing destination directory failed"
        (finishDirectory destination relative mode disk)))
      ([.finishDirectory relative mode], none) := by
  intro root after wrote
  show (broadcastHeader _ relative 0 mode root).andThen _ = _
  rw [broadcastHeader_short streamable.short]
  refine (writeOwn_done (root.broadcast _) (wrote_one wrote)).trans ?_
  simp [Root.broadcast, Record.calls, finish]

theorem emits_names {child : Bytes → Root → Outcome} {walked : Bytes → Walked} {names : List Bytes}
    (each : ∀ name ∈ names, isDot name = false → Emits destination (child name) (walked name)) :
    Emits destination (emitNames child names) (walkNames walked names) := by
  induction names with
  | nil => exact emits_nil
  | cons name rest ih =>
    have others := ih fun other listed => each other (List.mem_cons_of_mem _ listed)
    have own : Emits destination (fun root => if isDot name then .going root else child name root)
        (if isDot name then ([], none) else walked name) := by
      cases dot : isDot name with
      | true => exact emits_nil
      | false => exact each name List.mem_cons_self dot
    exact own.andThen others

theorem short_of_depth {left depth : Nat} (bounded : relative.length ≤ 255 + 256 * depth)
    (budget : depth + (left + 1) = maxWalkDepth) : relative.length < intMax := by
  have deep : depth < 1024 := by
    rw [maxWalkDepth] at budget
    omega
  rw [intMax]
  omega

theorem length_child {name : Bytes} {path : List Bytes} (bounded : relative.length ≤ 255 + 256 * path.length)
    (named : wellNamed name = true) : (joinPath relative name).length ≤ 255 + 256 * (path ++ [name]).length := by
  obtain ⟨-, short, -, -⟩ := wellNamed_iff.mp named
  simp only [joinPath, List.length_append, List.length_cons, List.length_nil]
  omega

section Emission

variable {ι : Type} [DecidableEq ι] {source : Source ι}

theorem emits_entry {left : Nat} {ancestors : List ι} {path : List Bytes} (sendable : Sendable relative)
    (bounded : relative.length ≤ 255 + 256 * path.length) (budget : path.length + left = maxWalkDepth) :
    Emits destination (emitEntry source destination left ancestors path relative)
      (walk source left ancestors path relative) := by
  induction left generalizing ancestors path relative with
  | zero => exact emits_stopped _
  | succ left ih =>
    have streamable : Streamable relative := ⟨sendable, short_of_depth bounded budget⟩
    cases entry : source path with
    | failed =>
      simp only [emitEntry, walk, entry]
      exact emits_stopped _
    | unsupported =>
      simp only [emitEntry, walk, entry]
      exact emits_stopped _
    | file content mode =>
      simp only [emitEntry, walk, entry]
      intro root after wrote
      refine (emitFile_done streamable (wrote_one wrote)).trans ?_
      simp [finish]
    | directory node mode listing =>
      by_cases cycle : node ∈ ancestors
      · simp only [emitEntry, walk, entry, if_pos cycle]
        exact emits_stopped _
      · simp only [emitEntry, walk, entry, if_neg cycle]
        have children : Emits destination
            (emitNames (fun name => emitEntry source destination left (ancestors ++ [node]) (path ++ [name])
              (joinPath relative name)) listing.names)
            (walkNames (fun name => walk source left (ancestors ++ [node]) (path ++ [name]) (joinPath relative name))
              listing.names) := by
          refine emits_names fun name listed plain => ?_
          have named := listing.named name listed
          exact ih (sendable.join (sendable_name named plain)) (length_child bounded named) (by simp; omega)
        have whole := (emits_begin (mode &&& 0o7777) streamable).andThen (children.andThen (emits_finish (mode &&& 0o7777) streamable))
        intro root after wrote
        refine Eq.trans ?_ (whole root after wrote)
        exact (Outcome.andThen_assoc _ _ _).symm

theorem records_andThen {first second : Walked} {record : Record} (listed : record ∈ (first.andThen second).1) :
    record ∈ first.1 ∨ record ∈ second.1 := by
  obtain ⟨records, stopped⟩ := first
  cases stopped with
  | none => exact List.mem_append.mp listed
  | some message => exact .inl listed

theorem records_names {walked : Bytes → Walked} {names : List Bytes} {record : Record}
    (listed : record ∈ (walkNames walked names).1) : ∃ name ∈ names, isDot name = false ∧ record ∈ (walked name).1 := by
  induction names with
  | nil => cases listed
  | cons name rest ih =>
    rcases records_andThen listed with own | later
    · cases dot : isDot name with
      | true => rw [dot] at own; cases own
      | false =>
        rw [dot] at own
        exact ⟨name, List.mem_cons_self, dot, own⟩
    · obtain ⟨other, among, found⟩ := ih later
      exact ⟨other, List.mem_cons_of_mem _ among, found⟩

theorem walk_streamable {left : Nat} {ancestors : List ι} {path : List Bytes} (sendable : Sendable relative)
    (bounded : relative.length ≤ 255 + 256 * path.length) (budget : path.length + left = maxWalkDepth) :
    ∀ record ∈ (walk source left ancestors path relative).1, Streamable record.relative := by
  induction left generalizing ancestors path relative with
  | zero => exact fun record listed => by cases listed
  | succ left ih =>
    have streamable : Streamable relative := ⟨sendable, short_of_depth bounded budget⟩
    intro record listed
    rw [walk] at listed
    split at listed
    · cases listed
    · cases listed
    · rw [List.mem_singleton.mp listed]
      exact streamable
    next node mode listing entry =>
      split_ifs at listed with cycle
      · cases listed
      rcases records_andThen listed with first | later
      · rw [List.mem_singleton.mp first]
        exact streamable
      rcases records_andThen later with inner | last
      · obtain ⟨name, among, plain, found⟩ := records_names inner
        have named := listing.named name among
        exact ih (sendable.join (sendable_name named plain)) (length_child bounded named) (by simp; omega) record found
      · rw [List.mem_singleton.mp last]
        exact streamable

end Emission

section Refusal

variable {ι : Type}

/-- The names lead from directory to directory of the source. -/
def Listed (source : Source ι) : List Bytes → List Bytes → Prop
  | _, [] => True
  | path, name :: rest =>
    (∃ node mode listing, source path = .directory node mode listing ∧ name ∈ listing.names ∧ isDot name = false) ∧
      Listed source (path ++ [name]) rest

/-- The entry of the path may not be sent. -/
inductive Refused (source : Source ι) (path : List Bytes) : Prop
  | deep (depth : path.length = maxWalkDepth)
  | failed (entry : source path = .failed)
  | unsupported (entry : source path = .unsupported)
  | cycle (before : List Bytes) (above : before <+: path) (proper : before ≠ path) (node : ι) (outer inner : Nat)
      (outside inside : Listing) (first : source before = .directory node outer outside)
      (second : source path = .directory node inner inside)

/-- The walk of the source meets an entry that may not be sent. -/
def Meets (source : Source ι) : Prop := ∃ path, Listed source [] path ∧ Refused source path

def Above (source : Source ι) (path : List Bytes) (node : ι) : Prop :=
  ∃ before, before <+: path ∧ before ≠ path ∧ ∃ mode listing, source before = .directory node mode listing

theorem above_child {source : Source ι} {path : List Bytes} {name : Bytes} {own node : ι} {mode : Nat} {listing : Listing}
    (entry : source path = .directory own mode listing) :
    Above source (path ++ [name]) node ↔ Above source path node ∨ node = own := by
  constructor
  · rintro ⟨before, within, proper, found⟩
    rcases List.prefix_concat_iff.mp within with same | inner
    · exact absurd same proper
    · rcases Classical.em (before = path) with rfl | apart
      · obtain ⟨other, entries, found⟩ := found
        rw [entry] at found
        cases found
        exact .inr rfl
      · exact .inl ⟨before, inner, apart, found⟩
  · have longer : ∀ before, before <+: path → before ≠ path ++ [name] := by
      rintro before inner rfl
      exact Files.not_prefix_of_append (List.cons_ne_nil _ _) (List.prefix_refl path) inner
    rintro (⟨before, within, -, found⟩ | rfl)
    · exact ⟨before, within.trans (List.prefix_append _ _), longer before within, found⟩
    · exact ⟨path, List.prefix_append _ _, longer path (List.prefix_refl _), mode, listing, entry⟩

theorem andThen_whole {first second : Walked} : (first.andThen second).2 = none ↔ first.2 = none ∧ second.2 = none := by
  obtain ⟨records, stopped⟩ := first
  cases stopped <;> simp [Walked.andThen]

theorem names_whole {walked : Bytes → Walked} {names : List Bytes} :
    (walkNames walked names).2 = none ↔ ∀ name ∈ names, isDot name = false → (walked name).2 = none := by
  induction names with
  | nil => simp [walkNames]
  | cons name rest ih =>
    rw [walkNames, andThen_whole, ih, List.forall_mem_cons]
    cases isDot name <;> simp

/-- A walk goes through exactly when nothing it is led to may not be sent. -/
theorem walk_whole [DecidableEq ι] {source : Source ι} {left : Nat} {ancestors : List ι} {path : List Bytes}
    {relative : Bytes} (above : ∀ node, node ∈ ancestors ↔ Above source path node)
    (budget : path.length + left = maxWalkDepth) :
    (walk source left ancestors path relative).2 = none ↔ ∀ rest, Listed source path rest → ¬ Refused source (path ++ rest) := by
  induction left generalizing ancestors path relative with
  | zero =>
    simp only [walk, reduceCtorEq, false_iff, not_forall, not_not]
    exact ⟨[], trivial, .deep (by rw [List.append_nil]; exact budget)⟩
  | succ left ih =>
    have shallow : path.length ≠ maxWalkDepth := by omega
    cases entry : source path with
    | failed =>
      simp only [walk, entry, reduceCtorEq, false_iff, not_forall, not_not]
      exact ⟨[], trivial, .failed (by rw [List.append_nil]; exact entry)⟩
    | unsupported =>
      simp only [walk, entry, reduceCtorEq, false_iff, not_forall, not_not]
      exact ⟨[], trivial, .unsupported (by rw [List.append_nil]; exact entry)⟩
    | file content mode =>
      simp only [walk, entry, true_iff]
      intro rest listed refused
      cases rest with
      | nil =>
        rw [List.append_nil] at refused
        cases refused with
        | deep depth => exact shallow depth
        | failed found => rw [entry] at found; cases found
        | unsupported found => rw [entry] at found; cases found
        | cycle _ _ _ _ _ _ _ _ _ found => rw [entry] at found; cases found
      | cons name others =>
        obtain ⟨⟨_, _, _, found, _⟩, _⟩ := listed
        rw [entry] at found
        cases found
    | directory node mode listing =>
      by_cases cycle : node ∈ ancestors
      · simp only [walk, entry, if_pos cycle, reduceCtorEq, false_iff, not_forall, not_not]
        obtain ⟨before, within, proper, outer, outside, found⟩ := (above node).mp cycle
        refine ⟨[], trivial, ?_⟩
        rw [List.append_nil]
        exact .cycle before within proper node outer mode outside listing found entry
      · have next : ∀ name other, other ∈ ancestors ++ [node] ↔ Above source (path ++ [name]) other := by
          intro name other
          rw [above_child entry, List.mem_append, above other, List.mem_singleton]
        have child : ∀ name, (walk source left (ancestors ++ [node]) (path ++ [name]) (joinPath relative name)).2 = none ↔
            ∀ rest, Listed source (path ++ [name]) rest → ¬ Refused source (path ++ [name] ++ rest) :=
          fun name => ih (next name) (by simp; omega)
        simp only [walk, entry, if_neg cycle, andThen_whole, names_whole, and_true, true_and, child]
        constructor
        · intro through rest listed refused
          cases rest with
          | nil =>
            rw [List.append_nil] at refused
            cases refused with
            | deep depth => exact shallow depth
            | failed found => rw [entry] at found; cases found
            | unsupported found => rw [entry] at found; cases found
            | cycle before within proper other outer inner outside inside first second =>
              rw [entry] at second
              cases second
              exact cycle ((above node).mpr ⟨before, within, proper, outer, outside, first⟩)
          | cons name others =>
            obtain ⟨⟨other, _, entries, found, among, plain⟩, further⟩ := listed
            rw [entry] at found
            cases found
            refine through name among plain others further ?_
            rwa [List.append_assoc]
        · intro none name among plain rest listed refused
          refine none (name :: rest) ⟨⟨node, mode, listing, entry, among, plain⟩, listed⟩ ?_
          rwa [List.append_assoc] at refused

end Refusal

end ExaServe.Resources.Bcast
