import ExaServe.Lib.Chunks
import ExaServe.Lib.Run
import ExaServe.Resources.Bcast.Disk
import Mathlib.Algebra.Group.Nat.Defs

namespace ExaServe.Resources.Bcast

open Lib Lib.Files

@[irreducible] def bufferSize : Nat := 64 * 2 ^ 20

@[irreducible] def intMax : Nat := 2147483647

theorem bufferSize_pos : 0 < bufferSize := by
  rw [bufferSize]
  omega

inductive EntryKind where
  | end_
  | directoryBegin
  | directoryEnd
  | file
  deriving DecidableEq

def EntryKind.code : EntryKind → Int
  | .end_ => 0
  | .directoryBegin => 1
  | .directoryEnd => 2
  | .file => 3

inductive Datatype where
  | int
  | unsignedLongLong
  | unsigned
  | byte
  deriving DecidableEq

/-- What one broadcast carries. -/
inductive Payload where
  | int (value : Int)
  | unsignedLongLong (value : Nat)
  | unsigned (value : Nat)
  | bytes (data : Bytes)
  deriving DecidableEq

/-- The type and the count its two sides must agree on. -/
def Payload.signature : Payload → Datatype × Nat
  | .int _ => (.int, 1)
  | .unsignedLongLong _ => (.unsignedLongLong, 1)
  | .unsigned _ => (.unsigned, 1)
  | .bytes data => (.byte, data.length)

/-- The broadcasts of `broadcast_header`. -/
def headerCalls (kind : EntryKind) (path : Bytes) (size mode : Nat) : List Payload :=
  [.int kind.code, .int path.length, .unsignedLongLong size, .unsigned mode] ++
    if path.length > 0 then [.bytes path] else []

def dataCalls (content : Bytes) : List Payload := (slices bufferSize content).map .bytes

structure Header where
  kind : Int
  pathLength : Int
  size : Nat
  mode : Nat

/-- The broadcast a participant waits in. -/
inductive Phase where
  | kind
  | pathLength (kind : Int)
  | size (kind pathLength : Int)
  | mode (kind pathLength : Int) (size : Nat)
  | path (header : Header)
  | data (file : List Bytes) (remaining mode : Nat)
  | ended
  | aborted (message : String)

def Phase.next : Phase → Option (Datatype × Nat)
  | .kind | .pathLength _ => some (.int, 1)
  | .size _ _ => some (.unsignedLongLong, 1)
  | .mode _ _ _ => some (.unsigned, 1)
  | .path header => some (.byte, header.pathLength.toNat)
  | .data _ remaining _ => some (.byte, min remaining bufferSize)
  | .ended | .aborted _ => none

structure Receiver where
  phase : Phase
  disk : Disk

def afterHeader (header : Header) : Phase :=
  if header.kind = EntryKind.end_.code then
    if header.pathLength ≠ 0 ∨ header.size ≠ 0 then .aborted "invalid end record" else .ended
  else if header.pathLength < 1 ∨ header.pathLength > intMax - 1 then .aborted "invalid streamed path length"
  else .path header

/-- The head of the loop over the data of a file. -/
def receiveData (file : List Bytes) (remaining mode : Nat) (disk : Disk) : Receiver :=
  if remaining > 0 then ⟨.data file remaining mode, disk⟩
  else match disk.setMode file mode with
    | some published => ⟨.kind, published⟩
    | none => ⟨.aborted "publishing streamed file failed", disk⟩

def receiveRecord (destination : Bytes) (header : Header) (relative : Bytes) (disk : Disk) : Receiver :=
  if safeRelativePath relative = false then ⟨.aborted "unsafe streamed relative path", disk⟩
  else if header.kind = EntryKind.directoryBegin.code then
    match if header.size ≠ 0 then none else beginDirectory destination relative disk with
    | some made => ⟨.kind, made⟩
    | none => ⟨.aborted "creating streamed directory failed", disk⟩
  else if header.kind = EntryKind.directoryEnd.code then
    match if header.size ≠ 0 then none else finishDirectory destination relative header.mode disk with
    | some finished => ⟨.kind, finished⟩
    | none => ⟨.aborted "finalizing streamed directory failed", disk⟩
  else if header.kind = EntryKind.file.code then
    match openDestinationFile destination relative disk with
    | .ok (file, opened) => receiveData file header.size header.mode opened
    | .error message => ⟨.aborted message, disk⟩
  else ⟨.aborted "unknown stream entry kind", disk⟩

/-- `receive_stream`, one broadcast at a time. -/
def deliver (destination : Bytes) (receiver : Receiver) (payload : Payload) : Receiver :=
  match receiver.phase, payload with
  | .kind, .int kind => { receiver with phase := .pathLength kind }
  | .pathLength kind, .int length => { receiver with phase := .size kind length }
  | .size kind length, .unsignedLongLong size => { receiver with phase := .mode kind length size }
  | .mode kind length size, .unsigned mode => { receiver with phase := afterHeader ⟨kind, length, size, mode⟩ }
  | .path header, .bytes buffer => receiveRecord destination header (cString buffer) receiver.disk
  | .data file remaining mode, .bytes buffer =>
    let wanted := min remaining bufferSize
    match receiver.disk.append file (buffer.take wanted) with
    | some written => receiveData file (remaining - wanted) mode written
    | none => { receiver with phase := .aborted "writing destination file failed" }
  | _, _ => receiver

/-- The participant waits in a broadcast of the same kind and count. -/
def Matches (receiver : Receiver) (payload : Payload) : Prop := receiver.phase.next = some payload.signature

instance (receiver : Receiver) (payload : Payload) : Decidable (Matches receiver payload) :=
  inferInstanceAs (Decidable (_ = _))

/-- What the root sends of one entry. -/
inductive Record where
  | beginDirectory (relative : Bytes) (mode : Nat)
  | file (relative content : Bytes) (mode : Nat)
  | finishDirectory (relative : Bytes) (mode : Nat)

def Record.relative : Record → Bytes
  | .beginDirectory relative _ => relative
  | .file relative _ _ => relative
  | .finishDirectory relative _ => relative

def Record.calls : Record → List Payload
  | .beginDirectory relative mode => headerCalls .directoryBegin relative 0 mode
  | .file relative content mode => headerCalls .file relative content.length mode ++ dataCalls content
  | .finishDirectory relative mode => headerCalls .directoryEnd relative 0 mode

def writeChunks (file : List Bytes) : List Bytes → Disk → Except String Disk
  | [], disk => .ok disk
  | chunk :: rest, disk => do writeChunks file rest (← orFatal "writing destination file failed" (disk.append file chunk))

def putFile (destination relative : Bytes) (chunks : List Bytes) (mode : Nat) (disk : Disk) : Except String Disk := do
  let (output, disk) ← openDestinationFile destination relative disk
  let disk ← writeChunks output chunks disk
  orFatal "publishing destination file failed" (disk.setMode output mode)

/-- What an entry is on a node that writes it. -/
def Record.apply (destination : Bytes) : Record → Disk → Except String Disk
  | .beginDirectory relative _, disk =>
    orFatal "creating destination directory failed" (Bcast.beginDirectory destination relative disk)
  | .file relative content mode, disk => putFile destination relative (slices bufferSize content) mode disk
  | .finishDirectory relative mode, disk =>
    orFatal "finalizing destination directory failed" (Bcast.finishDirectory destination relative mode disk)

/-- The path can be sent, and the length it is sent with can be received. -/
structure Streamable (relative : Bytes) : Prop where
  sendable : Sendable relative
  short : relative.length < intMax

variable {destination relative : Bytes} {disk after : Disk}

theorem Streamable.length_pos (streamable : Streamable relative) : 0 < relative.length := by
  refine List.length_pos_iff.mpr ?_
  rintro rfl
  exact (streamable.sendable.names [] (by decide)).1 rfl

theorem afterHeader_entry (streamable : Streamable relative) {kind : EntryKind} (entry : kind ≠ .end_) (size mode : Nat) :
    afterHeader ⟨kind.code, relative.length, size, mode⟩ = .path ⟨kind.code, relative.length, size, mode⟩ := by
  have positive := streamable.length_pos
  have short := streamable.short
  have other : kind.code ≠ EntryKind.end_.code := by cases kind <;> first | exact absurd rfl entry | decide
  have fits : ¬ ((relative.length : Int) < 1 ∨ (relative.length : Int) > intMax - 1) := by omega
  rw [afterHeader, if_neg other, if_neg fits]

theorem numbers_delivered (destination : Bytes) (disk : Disk) (header : Header) :
    let calls : List Payload :=
      [.int header.kind, .int header.pathLength, .unsignedLongLong header.size, .unsigned header.mode]
    Along (deliver destination) Matches ⟨.kind, disk⟩ calls ∧
      run (deliver destination) ⟨.kind, disk⟩ calls = ⟨afterHeader header, disk⟩ :=
  ⟨⟨rfl, rfl, rfl, rfl, trivial⟩, rfl⟩

/-- A header other than the last is received as it is sent. -/
theorem header_delivered (destination : Bytes) (disk : Disk) (streamable : Streamable relative) (kind : EntryKind) (entry : kind ≠ .end_) (size mode : Nat) :
    Along (deliver destination) Matches ⟨.kind, disk⟩ (headerCalls kind relative size mode) ∧
      run (deliver destination) ⟨.kind, disk⟩ (headerCalls kind relative size mode) =
        receiveRecord destination ⟨kind.code, relative.length, size, mode⟩ relative disk := by
  obtain ⟨along, reached⟩ :=
    numbers_delivered destination disk ⟨kind.code, relative.length, size, mode⟩
  rw [headerCalls, if_pos streamable.length_pos, along_append, run_append, reached,
    afterHeader_entry streamable entry size mode]
  refine ⟨⟨along, rfl, trivial⟩, ?_⟩
  show receiveRecord destination ⟨kind.code, relative.length, size, mode⟩ (cString relative) disk = _
  rw [streamable.sendable.cString_eq]

theorem end_delivered :
    Along (deliver destination) Matches ⟨.kind, disk⟩ (headerCalls .end_ [] 0 0) ∧
      run (deliver destination) ⟨.kind, disk⟩ (headerCalls .end_ [] 0 0) = ⟨.ended, disk⟩ := by
  obtain ⟨along, reached⟩ := numbers_delivered destination disk ⟨EntryKind.end_.code, 0, 0, 0⟩
  exact ⟨along, reached.trans (by rw [afterHeader, if_pos rfl, if_neg (by simp)])⟩

theorem chunk_delivered (destination : Bytes) {file : List Bytes} {remaining : Nat} (mode : Nat) {chunk : Bytes} (left : 0 < remaining)
    (whole : chunk.length = min remaining bufferSize) (appended : disk.append file chunk = some after) :
    Matches (receiveData file remaining mode disk) (.bytes chunk) ∧
      deliver destination (receiveData file remaining mode disk) (.bytes chunk) =
        receiveData file (remaining - chunk.length) mode after := by
  have waiting : receiveData file remaining mode disk = ⟨.data file remaining mode, disk⟩ := if_pos left
  rw [waiting]
  constructor
  · show some (Datatype.byte, min remaining bufferSize) = some (Datatype.byte, chunk.length)
    rw [whole]
  · simp only [deliver, ← whole, List.take_length, appended]

theorem data_delivered (destination : Bytes) {file : List Bytes} {mode : Nat} {content : Bytes} {written : Disk}
    (done : writeChunks file (slices bufferSize content) disk = .ok written)
    (published : written.setMode file mode = some after) :
    Along (deliver destination) Matches (receiveData file content.length mode disk) (dataCalls content) ∧
      run (deliver destination) (receiveData file content.length mode disk) (dataCalls content) = ⟨.kind, after⟩ := by
  induction count : content.length using Nat.strong_induction_on generalizing content disk with
  | _ count ih =>
    subst count
    rcases List.eq_nil_or_concat content with rfl | ⟨front, last, shape⟩
    · rw [slices_nil, writeChunks] at done
      cases done
      rw [dataCalls, slices_nil, List.map_nil, run_nil, List.length_nil, receiveData, if_neg (Nat.lt_irrefl 0), published]
      exact ⟨trivial, rfl⟩
    · have nonempty : content ≠ [] := by rw [shape]; simp
      have left : 0 < content.length := List.length_pos_iff.mpr nonempty
      rw [slices_of_ne_nil bufferSize_pos nonempty, writeChunks] at done
      obtain ⟨between, first, rest⟩ := bind_ok done
      have appended : disk.append file (content.take bufferSize) = some between := orFatal_ok first
      have whole : (content.take bufferSize).length = min content.length bufferSize := by
        rw [List.length_take, Nat.min_comm]
      have shorter : content.length - (content.take bufferSize).length = (content.drop bufferSize).length := by
        rw [whole, List.length_drop]
        omega
      obtain ⟨matched, stepped⟩ := chunk_delivered destination mode left whole appended
      have fewer : (content.drop bufferSize).length < content.length := by
        have positive := bufferSize_pos
        rw [List.length_drop]
        omega
      obtain ⟨along, reached⟩ := ih _ fewer rest rfl
      rw [dataCalls, slices_of_ne_nil bufferSize_pos nonempty, List.map_cons, run_cons, Along, stepped, shorter]
      exact ⟨⟨matched, along⟩, reached⟩

theorem putFile_steps {chunks : List Bytes} {mode : Nat} (done : putFile destination relative chunks mode disk = .ok after) :
    ∃ opened written,
      openDestinationFile destination relative disk = .ok (resolve (joinPath destination relative), opened) ∧
      writeChunks (resolve (joinPath destination relative)) chunks opened = .ok written ∧
      written.setMode (resolve (joinPath destination relative)) mode = some after := by
  obtain ⟨⟨output, opened⟩, created, rest⟩ := bind_ok done
  obtain ⟨written, wrote, published⟩ := bind_ok rest
  have place : output = resolve (joinPath destination relative) := by
    obtain ⟨⟨⟩, -, created⟩ := bind_ok created
    obtain ⟨⟨⟩, -, created⟩ := bind_ok created
    obtain ⟨parent, -, created⟩ := bind_ok created
    obtain ⟨⟨⟩, -, created⟩ := bind_ok created
    obtain ⟨made, -, created⟩ := bind_ok created
    cases created
    rfl
  subst place
  exact ⟨opened, written, created, wrote, orFatal_ok published⟩

/-- A record is received in step with its sending, and leaves what it is applied to. -/
theorem record_delivered (record : Record) (streamable : Streamable record.relative)
    (applied : record.apply destination disk = .ok after) :
    Along (deliver destination) Matches ⟨.kind, disk⟩ record.calls ∧
      run (deliver destination) ⟨.kind, disk⟩ record.calls = ⟨.kind, after⟩ := by
  cases record with
  | beginDirectory relative mode =>
    have streamable : Streamable relative := streamable
    have safe : ¬ safeRelativePath relative = false := by simp [streamable.sendable.safe]
    obtain ⟨along, reached⟩ := header_delivered destination disk streamable .directoryBegin
      (by decide) 0 mode
    refine ⟨along, reached.trans ?_⟩
    rw [Record.apply] at applied
    have made : beginDirectory destination relative disk = some after := orFatal_ok applied
    rw [receiveRecord, if_neg safe]
    simp [made]
  | file relative content mode =>
    have streamable : Streamable relative := streamable
    have safe : ¬ safeRelativePath relative = false := by simp [streamable.sendable.safe]
    obtain ⟨along, reached⟩ := header_delivered destination disk streamable .file
      (by decide) content.length mode
    rw [Record.apply] at applied
    obtain ⟨opened, written, created, wrote, finished⟩ := putFile_steps applied
    have start : receiveRecord destination ⟨EntryKind.file.code, relative.length, content.length, mode⟩ relative disk =
        receiveData (resolve (joinPath destination relative)) content.length mode opened := by
      rw [receiveRecord, if_neg safe]
      simp [EntryKind.code, created]
    obtain ⟨data_along, data_reached⟩ := data_delivered destination wrote finished
    rw [Record.calls, along_append, run_append, reached, start]
    exact ⟨⟨along, data_along⟩, data_reached⟩
  | finishDirectory relative mode =>
    have streamable : Streamable relative := streamable
    have safe : ¬ safeRelativePath relative = false := by simp [streamable.sendable.safe]
    obtain ⟨along, reached⟩ := header_delivered destination disk streamable .directoryEnd
      (by decide) 0 mode
    refine ⟨along, reached.trans ?_⟩
    rw [Record.apply] at applied
    have made : finishDirectory destination relative mode disk = some after := orFatal_ok applied
    rw [receiveRecord, if_neg safe]
    simp [EntryKind.code, made]

end ExaServe.Resources.Bcast
