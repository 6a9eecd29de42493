import ExaServe.Resources.Bcast.Walk

namespace ExaServe.Resources.Bcast

open Lib Lib.Files

section Delivery

variable {ι : Type} [DecidableEq ι]

/-- What the source shows below a path, its links followed. -/
def deref (source : Source ι) : List Bytes → List Bytes → Option (Entry UInt8)
  | path, [] => match source path with
    | .file content mode => some (.file content (mode &&& 0o7777))
    | .directory _ mode _ => some (.directory (mode &&& 0o7777))
    | _ => none
  | path, name :: rest => match source path with
    | .directory _ _ listing =>
      if name ∈ listing.names ∧ isDot name = false then deref source (path ++ [name]) rest else none
    | _ => none

variable {source : Source ι} {destination relative name : Bytes} {front : List Bytes} {disk : Disk}

theorem masked (mode : Nat) : mode &&& 0o7777 &&& 0o7777 = mode &&& 0o7777 := by
  rw [Nat.and_assoc, Nat.and_self]

theorem writeChunks_set {place : List Bytes} {chunks : List Bytes} {written : Bytes} {mode : Nat} :
    writeChunks place chunks (disk.set place (.file written mode)) =
      .ok (disk.set place (.file (written ++ chunks.flatten) mode)) := by
  induction chunks generalizing written with
  | nil => rw [writeChunks, List.flatten_nil, List.append_nil]
  | cons chunk rest ih =>
    have appended : (disk.set place (.file written mode)).append place chunk =
        some (disk.set place (.file (written ++ chunk) mode)) := by
      rw [append_file (set_self place _), set_set]
    refine (ok_bind (orFatal_some appended) _).trans ?_
    rw [ih, List.flatten_cons, List.append_assoc]

theorem putFile_new (chunks : List Bytes) (mode : Nat) (vacant : Vacant destination front name disk)
    (leads : Leads relative front name) :
    putFile destination relative chunks mode disk =
      .ok (disk.set (resolve destination ++ front ++ [name]) (.file chunks.flatten (mode &&& 0o7777))) := by
  refine (ok_bind (openDestinationFile_new vacant leads) _).trans ?_
  refine (ok_bind writeChunks_set _).trans ?_
  have filled : disk.set (resolve destination ++ front ++ [name]) (.file chunks.flatten 0o600)
      (resolve destination ++ front ++ [name]) = some (.file chunks.flatten 0o600) := set_self _ _
  have published := setMode_file mode filled
  rw [set_set] at published
  exact orFatal_some published

/-- What the names of a directory leave behind. -/
theorem names_applied (front : List Bytes) (walked : Bytes → Walked) (view : Bytes → Files Bytes UInt8)
    {names : List Bytes} (distinct : names.Nodup)
    (each : ∀ child ∈ names, isDot child = false → ∀ disk, Vacant destination front child disk →
      ∃ after, applyAll destination (walked child).1 disk = .ok after ∧
        disk.SameOutside (resolve destination ++ front ++ [child]) after ∧
        ((walked child).2 = none → after.Holds (resolve destination ++ front ++ [child]) (view child)))
    (absolute : destination.head? = some slash) (reached : Reached [] (parts destination) disk)
    (opened : disk.Open (resolve destination ++ front))
    (absent : ∀ child ∈ names, disk.Absent (resolve destination ++ front ++ [child])) :
    ∃ after, applyAll destination (walkNames walked names).1 disk = .ok after ∧
      (∀ other, (∀ child ∈ names, isDot child = false → ¬ resolve destination ++ front ++ [child] <+: other) →
        after other = disk other) ∧
      ((walkNames walked names).2 = none → ∀ child ∈ names, isDot child = false →
        after.Holds (resolve destination ++ front ++ [child]) (view child)) := by
  induction names generalizing disk with
  | nil => exact ⟨disk, rfl, fun _ _ => rfl, fun _ child listed => by cases listed⟩
  | cons child rest ih =>
    have fresh := List.nodup_cons.mp distinct
    have others := fun other listed => each other (List.mem_cons_of_mem child listed)
    have absent_rest := fun other listed => absent other (List.mem_cons_of_mem child listed)
    cases dot : isDot child with
    | true =>
      obtain ⟨after, applied, same, holds⟩ := ih fresh.2 others reached opened absent_rest
      have skipped : walkNames walked (child :: rest) = walkNames walked rest := by
        rw [walkNames, dot]
        rfl
      rw [skipped]
      refine ⟨after, applied, ?_, ?_⟩
      · exact fun other apart => same other fun name listed => apart name (List.mem_cons_of_mem _ listed)
      · intro whole other listed plain
        rcases List.mem_cons.mp listed with rfl | later
        · rw [dot] at plain
          cases plain
        · exact holds whole other later plain
    | false =>
      have vacant : Vacant destination front child disk := ⟨absolute, reached, opened, absent child List.mem_cons_self⟩
      obtain ⟨middle, first, same, holds⟩ := each child List.mem_cons_self dot disk vacant
      have walks : walkNames walked (child :: rest) = (walked child).andThen (walkNames walked rest) := by
        rw [walkNames, dot]
        rfl
      cases stopped : (walked child).2 with
      | some message =>
        have short : walkNames walked (child :: rest) = walked child := by
          rw [walks, Walked.andThen, stopped]
        rw [short, stopped]
        refine ⟨middle, first, ?_, fun none => by cases none⟩
        exact fun other apart => same other (apart child List.mem_cons_self dot)
      | none =>
        have apart_of : ∀ other ∈ rest, ∀ below, resolve destination ++ front ++ [child] <+: below →
            ¬ resolve destination ++ front ++ [other] <+: below := by
          rintro other listed below ⟨more, rfl⟩ within
          rw [List.append_assoc (resolve destination ++ front) [child] more] at within
          have apart : other ≠ child := by
            rintro rfl
            exact fresh.1 listed
          exact sibling_apart apart within
        have middle_absent : ∀ other ∈ rest, middle.Absent (resolve destination ++ front ++ [other]) := by
          intro other listed below
          rw [same _ fun within => apart_of other listed _ within (List.prefix_append _ _)]
          exact absent_rest other listed below
        have middle_open : middle.Open (resolve destination ++ front) := opened.kept (List.cons_ne_nil _ _) same
        obtain ⟨after, applied, later_same, later_holds⟩ :=
          ih fresh.2 others (reached.kept (vacant.absent.extends same)) middle_open middle_absent
        have walks_on : (walkNames walked (child :: rest)).1 = (walked child).1 ++ (walkNames walked rest).1 := by
          rw [walks, Walked.andThen, stopped]
        have whole_on : (walkNames walked (child :: rest)).2 = (walkNames walked rest).2 := by
          rw [walks, Walked.andThen, stopped]
        rw [walks_on, whole_on, applyAll_append]
        refine ⟨after, (ok_bind first _).trans applied, ?_, ?_⟩
        · intro other apart
          rw [later_same other fun name listed => apart name (List.mem_cons_of_mem _ listed)]
          exact same other (apart child List.mem_cons_self dot)
        · intro whole other listed plain
          rcases List.mem_cons.mp listed with rfl | later
          · intro below
            rw [later_same _ fun name among _ => apart_of name among _ (List.prefix_append _ _)]
            exact holds stopped below
          · exact later_holds whole other later plain

/-- Applied to a vacant place, a walk leaves there what the source shows, and nothing elsewhere. -/
theorem walk_applied (source : Source ι) (left : Nat) (ancestors : List ι) (path : List Bytes)
    (vacant : Vacant destination front name disk)
    (leads : Leads relative front name) :
    ∃ after, applyAll destination (walk source left ancestors path relative).1 disk = .ok after ∧
      disk.SameOutside (resolve destination ++ front ++ [name]) after ∧
      ((walk source left ancestors path relative).2 = none →
        after.Holds (resolve destination ++ front ++ [name]) (deref source path)) := by
  induction left generalizing ancestors path relative front name disk with
  | zero => exact ⟨disk, rfl, .refl _, fun whole => by cases whole⟩
  | succ left ih =>
    cases entry : source path with
    | failed =>
      simp only [walk, entry]
      exact ⟨disk, rfl, .refl _, fun whole => by cases whole⟩
    | unsupported =>
      simp only [walk, entry]
      exact ⟨disk, rfl, .refl _, fun whole => by cases whole⟩
    | file content mode =>
      simp only [walk, entry]
      have put := putFile_new (slices bufferSize content) (mode &&& 0o7777) vacant leads
      rw [flatten_slices bufferSize_pos, masked] at put
      refine ⟨_, (ok_bind put _).trans rfl, sameOutside_set _ _, ?_⟩
      intro _ rest
      cases rest with
      | nil =>
        rw [List.append_nil, set_self, deref]
        simp only [entry]
      | cons child others =>
        have apart : resolve destination ++ front ++ [name] ++ child :: others ≠ resolve destination ++ front ++ [name] := by
          simp
        rw [set_of_ne apart, vacant.absent, deref]
        simp only [entry]
    | directory node mode listing =>
      by_cases cycle : node ∈ ancestors
      · simp only [walk, entry, if_pos cycle]
        exact ⟨disk, rfl, .refl _, fun whole => by cases whole⟩
      · simp only [walk, entry, if_neg cycle]
        generalize inside : walkNames (fun child => walk source left (ancestors ++ [node]) (path ++ [child])
          (joinPath relative child)) listing.names = children
        have begun := beginDirectory_new vacant leads
        have place : resolve destination ++ (front ++ [name]) = resolve destination ++ front ++ [name] :=
          (List.append_assoc _ _ _).symm
        have made_same : disk.SameOutside (resolve destination ++ front ++ [name])
            (disk.set (resolve destination ++ front ++ [name]) (.directory 0o700)) := sameOutside_set _ _
        have made_open : (disk.set (resolve destination ++ front ++ [name]) (.directory 0o700)).Open
            (resolve destination ++ front ++ [name]) := vacant.opened.made (by decide) (by decide)
        have made_absent : ∀ child rest, (disk.set (resolve destination ++ front ++ [name]) (.directory 0o700))
            (resolve destination ++ front ++ [name] ++ child :: rest) = none := by
          intro child rest
          rw [set_of_ne (by simp)]
          exact vacant.absent _
        obtain ⟨filled, applied, same, holds⟩ := names_applied (front ++ [name])
          (fun child => walk source left (ancestors ++ [node]) (path ++ [child]) (joinPath relative child))
          (fun child => deref source (path ++ [child])) listing.distinct
          (fun child listed plain other free => ih _ _ free (leads.child (listing.named child listed) plain))
          vacant.absolute (vacant.reached.kept (vacant.absent.extends made_same))
          (by rw [place]; exact made_open)
          (fun child _ rest => by
            rw [place, List.append_assoc (resolve destination ++ front ++ [name])]
            exact made_absent child rest)
        rw [inside] at applied holds
        rw [place] at same holds
        have filled_same : disk.SameOutside (resolve destination ++ front ++ [name]) filled := by
          intro other apart
          rw [same other fun child _ _ within => apart ((List.prefix_append _ _).trans within)]
          exact made_same other apart
        have own_same : filled (resolve destination ++ front ++ [name]) = some (.directory 0o700) := by
          rw [same _ fun child _ _ within =>
            not_prefix_of_append (List.cons_ne_nil child []) (List.prefix_refl _) within]
          exact set_self _ _
        obtain ⟨records, stopped⟩ := children
        cases stopped with
        | some message =>
          refine ⟨filled, ?_, filled_same, fun whole => by cases whole⟩
          exact (ok_bind (orFatal_some begun) _).trans applied
        | none =>
          have opened : filled.entered (resolve destination ++ front) = true :=
            (vacant.opened.kept (List.cons_ne_nil _ _) filled_same).entered
          have finished := finishDirectory_made (mode &&& 0o7777) opened leads own_same
          rw [masked] at finished
          refine ⟨filled.set (resolve destination ++ front ++ [name]) (.directory (mode &&& 0o7777)), ?_,
            filled_same.trans (sameOutside_set _ _), ?_⟩
          · refine (ok_bind (orFatal_some begun) _).trans ?_
            show applyAll destination (records ++ [Record.finishDirectory relative (mode &&& 0o7777)]) _ = _
            rw [applyAll_append]
            exact (ok_bind applied _).trans ((ok_bind (orFatal_some finished) _).trans rfl)
          · intro _ rest
            cases rest with
            | nil =>
              rw [List.append_nil, set_self, deref]
              simp only [entry]
            | cons child others =>
              rw [set_of_ne (by simp), deref]
              simp only [entry]
              split_ifs with found
              · have inner := holds rfl child found.1 found.2 others
                rwa [List.append_assoc] at inner
              · rw [same _ ?_]
                · exact made_absent child others
                · intro other listed plain within
                  have apart : other ≠ child := by
                    rintro rfl
                    exact found ⟨listed, plain⟩
                  exact sibling_apart apart within

end Delivery

section Confinement

variable {destination relative : Bytes} {start disk after : Disk} {mode : Nat}

/-- Strictly below the destination. -/
def Below (destination : Bytes) (path : List Bytes) : Prop := resolve destination <+: path ∧ path ≠ resolve destination

theorem below_joinPath (destination : Bytes) (safe : safeRelativePath relative = true) :
    Below destination (resolve (joinPath destination relative)) := by
  rw [resolve_joinPath destination safe]
  refine ⟨List.prefix_append _ _, ?_⟩
  intro same
  exact (safe_parts safe).1 (List.append_right_eq_self.mp same)

theorem mkdirP_parent_confined (absolute : destination.head? = some slash) (standing : Standing destination disk)
    (safe : safeRelativePath relative = true)
    (made : mkdirP (parentPath (joinPath destination relative)) mode disk = some after) :
    disk.Confined (resolve destination) after := by
  rcases Classical.em (slash ∈ relative) with inner | free
  · obtain ⟨tail, head, shape, free⟩ := List.eq_append_cons_of_mem (List.mem_reverse.mpr inner)
    have split : relative = joinPath head.reverse tail.reverse := by
      have flipped := congrArg List.reverse shape
      rw [List.reverse_reverse] at flipped
      rw [flipped, joinPath]
      simp
    have plain : ∀ name ∈ parts head.reverse, isDot name = false := by
      intro name listed
      refine (safe_parts safe).2 name ?_
      rw [split, parts_joinPath]
      exact List.mem_append_left _ listed
    rw [split, show joinPath destination (joinPath head.reverse tail.reverse) =
      joinPath (joinPath destination head.reverse) tail.reverse by simp [joinPath],
      parentPath_joinPath (by rwa [List.mem_reverse])] at made
    exact mkdirP_confined absolute standing plain made
  · rw [parentPath_joinPath free, mkdirP, if_pos absolute] at made
    rw [mkdirParts_standing standing made]
    exact .refl _

theorem openDestinationFile_confined {output : List Bytes} (absolute : destination.head? = some slash)
    (standing : Standing destination disk)
    (opened : openDestinationFile destination relative disk = .ok (output, after)) :
    Below destination output ∧ disk.Confined (resolve destination) after := by
  obtain ⟨⟨⟩, checked, opened⟩ := bind_ok opened
  obtain ⟨⟨⟩, -, opened⟩ := bind_ok opened
  obtain ⟨made, parents, opened⟩ := bind_ok opened
  obtain ⟨⟨⟩, -, opened⟩ := bind_ok opened
  obtain ⟨created, fresh, opened⟩ := bind_ok opened
  cases opened
  have safe : safeRelativePath relative = true := ensure_holds checked
  have below := below_joinPath destination safe
  exact ⟨below, (mkdirP_parent_confined absolute standing safe (orFatal_ok parents)).trans
    ((createFile_touches (orFatal_ok fresh)).confined below.1 below.2)⟩

/-- A participant has written below its destination only, and will. -/
structure Bounded (destination : Bytes) (start : Disk) (receiver : Receiver) : Prop where
  standing : Standing destination receiver.disk
  confined : start.Confined (resolve destination) receiver.disk
  output : ∀ file remaining mode, receiver.phase = .data file remaining mode → Below destination file

theorem Bounded.stays {receiver : Receiver} (bounded : Bounded destination start receiver) {phase : Phase}
    (idle : ∀ file remaining mode, phase ≠ .data file remaining mode) :
    Bounded destination start { receiver with phase := phase } :=
  ⟨bounded.standing, bounded.confined, fun file remaining mode data => absurd data (idle file remaining mode)⟩

theorem Bounded.moves {receiver : Receiver} (bounded : Bounded destination start receiver) {phase : Phase}
    (confined : receiver.disk.Confined (resolve destination) after)
    (output : ∀ file remaining mode, phase = .data file remaining mode → Below destination file) :
    Bounded destination start ⟨phase, after⟩ :=
  ⟨bounded.standing.kept confined, bounded.confined.trans confined, output⟩

theorem receiveData_bounded {receiver : Receiver} (bounded : Bounded destination start receiver) {file : List Bytes}
    {remaining : Nat} (confined : receiver.disk.Confined (resolve destination) after) (below : Below destination file) :
    Bounded destination start (receiveData file remaining mode after) := by
  unfold receiveData
  split_ifs with left
  · refine bounded.moves confined fun other rest mode data => ?_
    cases data
    exact below
  · split
    next published done =>
      exact bounded.moves (confined.trans ((setMode_touches done).confined below.1 below.2))
        (fun _ _ _ data => by cases data)
    · exact bounded.moves confined (fun _ _ _ data => by cases data)

theorem receiveRecord_bounded {receiver : Receiver} (absolute : destination.head? = some slash)
    (bounded : Bounded destination start receiver) (header : Header) :
    Bounded destination start (receiveRecord destination header relative receiver.disk) := by
  have aborts : ∀ message, Bounded destination start ⟨.aborted message, receiver.disk⟩ := fun message =>
    bounded.stays fun _ _ _ data => by cases data
  unfold receiveRecord
  split_ifs with refused begins sized finishes sized files
  · exact aborts _
  · exact aborts _
  · have safe : safeRelativePath relative = true := by simpa using refused
    split
    next made done =>
      exact bounded.moves (mkdirP_confined absolute bounded.standing (safe_parts safe).2 done)
        (fun _ _ _ data => by cases data)
    · exact aborts _
  · exact aborts _
  · have safe : safeRelativePath relative = true := by simpa using refused
    have below := below_joinPath destination safe
    split
    next made done =>
      exact bounded.moves ((chmod_touches done).confined below.1 below.2) (fun _ _ _ data => by cases data)
    · exact aborts _
  · split
    next output opened done =>
      obtain ⟨below, confined⟩ := openDestinationFile_confined absolute bounded.standing done
      exact receiveData_bounded bounded confined below
    · exact aborts _
  · exact aborts _

theorem deliver_bounded (absolute : destination.head? = some slash) {receiver : Receiver} (payload : Payload)
    (bounded : Bounded destination start receiver) : Bounded destination start (deliver destination receiver payload) := by
  have idle : ∀ header : Header, ∀ file remaining mode, afterHeader header ≠ .data file remaining mode := by
    intro header file remaining mode
    unfold afterHeader
    split_ifs <;> simp
  unfold deliver
  split
  · exact bounded.stays fun _ _ _ data => by cases data
  · exact bounded.stays fun _ _ _ data => by cases data
  · exact bounded.stays fun _ _ _ data => by cases data
  · exact bounded.stays (idle _)
  · exact receiveRecord_bounded absolute bounded _
  next file remaining mode buffer phase =>
    have below := bounded.output file remaining mode phase
    dsimp only
    split
    next written done =>
      exact receiveData_bounded bounded ((append_touches done).confined below.1 below.2) below
    · exact bounded.stays fun _ _ _ data => by cases data
  · exact bounded

/-- Whatever is sent, a participant writes strictly below its destination. -/
theorem received_below (absolute : destination.head? = some slash) (standing : Standing destination disk)
    (payloads : List Payload) :
    disk.SameExceptBelow (resolve destination) (run (deliver destination) ⟨.kind, disk⟩ payloads).disk := by
  have initial : Bounded destination disk ⟨.kind, disk⟩ :=
    ⟨standing, .refl _, fun _ _ _ data => by cases data⟩
  exact (run_invariant (fun receiver payload => deliver_bounded absolute payload) initial payloads).confined.same

end Confinement

section Broadcast

variable {ι : Type} [DecidableEq ι] {source : Source ι} {destination basename : Bytes}

/-- The destination has been made and nothing is yet where the source will be. -/
structure Fresh (destination basename : Bytes) (disk : Disk) : Prop where
  made : ∃ before, mkdirP destination 0o700 before = some disk
  opened : disk.Open (resolve destination)
  absent : disk.Absent (resolve destination ++ [basename])

/-- The recipient holds the source, and nothing else has changed. -/
structure Delivered (source : Source ι) (destination basename : Bytes) (before after : Disk) : Prop where
  holds : after.Holds (resolve destination ++ [basename]) (deref source [])
  same : before.SameOutside (resolve destination ++ [basename]) after

theorem Fresh.absolute {disk : Disk} (fresh : Fresh destination basename disk) : destination.head? = some slash := by
  obtain ⟨before, made⟩ := fresh.made
  by_contra relative
  rw [mkdirP, if_neg relative] at made
  cases made

theorem Fresh.reached {disk : Disk} (fresh : Fresh destination basename disk) : Reached [] (parts destination) disk := by
  obtain ⟨before, made⟩ := fresh.made
  rw [mkdirP, if_pos fresh.absolute] at made
  exact (mkdirParts_reached made).2

theorem Fresh.vacant {disk : Disk} (fresh : Fresh destination basename disk) : Vacant destination [] basename disk where
  absolute := fresh.absolute
  reached := fresh.reached
  opened := by
    rw [List.append_nil]
    exact fresh.opened
  absent := by
    rw [List.append_nil]
    exact fresh.absent

theorem leads_basename (named : wellNamed basename = true) (safe : safeRelativePath basename = true) :
    Leads basename [] basename := by
  obtain ⟨nonempty, -, free, -⟩ := wellNamed_iff.mp named
  have own : parts basename = [basename] := by simp [parts, splitOn_name free, nonempty]
  have plain := (safe_parts safe).2 basename (by rw [own]; exact List.mem_singleton_self _)
  exact ⟨sendable_name named plain, named, .inl ⟨rfl, rfl⟩⟩

/-- The whole walk of the source. -/
def walkAll (source : Source ι) (basename : Bytes) : Walked := walk source maxWalkDepth [] [] basename

theorem walkAll_applied (source : Source ι) {disk : Disk} (named : wellNamed basename = true) (safe : safeRelativePath basename = true)
    (fresh : Fresh destination basename disk) :
    ∃ after, applyAll destination (walkAll source basename).1 disk = .ok after ∧
      disk.SameOutside (resolve destination ++ [basename]) after ∧
      ((walkAll source basename).2 = none → Delivered source destination basename disk after) := by
  obtain ⟨after, applied, same, holds⟩ :=
    walk_applied source maxWalkDepth [] [] fresh.vacant (leads_basename named safe)
  rw [List.append_nil] at same holds
  exact ⟨after, applied, same, fun whole => ⟨holds whole, same⟩⟩

/-- Records that can be applied are received in step. -/
theorem records_delivered {records : List Record} {disk after : Disk}
    (streamable : ∀ record ∈ records, Streamable record.relative) (applied : applyAll destination records disk = .ok after) :
    Along (deliver destination) Matches ⟨.kind, disk⟩ (records.flatMap Record.calls) ∧
      run (deliver destination) ⟨.kind, disk⟩ (records.flatMap Record.calls) = ⟨.kind, after⟩ := by
  induction records generalizing disk with
  | nil =>
    cases applied
    exact ⟨trivial, rfl⟩
  | cons record rest ih =>
    rw [applyAll, List.foldlM_cons] at applied
    obtain ⟨between, one, others⟩ := bind_ok applied
    obtain ⟨along, reached⟩ := record_delivered record (streamable record List.mem_cons_self) one
    obtain ⟨later, final⟩ := ih (fun other listed => streamable other (List.mem_cons_of_mem _ listed)) others
    rw [List.flatMap_cons, along_append, run_append, reached]
    exact ⟨⟨along, later⟩, final⟩

theorem emit_eq {own after : Option Disk} (named : wellNamed basename = true) (safe : safeRelativePath basename = true)
    (wrote : Wrote (applyAll destination (walkAll source basename).1) own after) :
    emit source destination basename own =
      match (walkAll source basename).2 with
      | none => .going ⟨(walkAll source basename).1.flatMap Record.calls ++ headerCalls .end_ [] 0 0, after⟩
      | some message => .aborted ⟨(walkAll source basename).1.flatMap Record.calls, after⟩ message := by
  have sendable := (leads_basename named safe).sendable
  obtain ⟨-, short, -, -⟩ := wellNamed_iff.mp named
  have entries : Emits destination (emitEntry source destination maxWalkDepth [] [] basename) (walkAll source basename) :=
    emits_entry sendable (by simpa using short) (by simp)
  have emission := entries ⟨[], own⟩ after wrote
  rw [emit, emission]
  show (finish (walkAll source basename).2 _).andThen _ = _
  cases (walkAll source basename).2 with
  | none =>
    have short : ([] : Bytes).length < intMax := by
      rw [intMax, List.length_nil]
      omega
    exact broadcastHeader_short short
  | some message => rfl

end Broadcast

section Sample

def sampleListing : Listing := ⟨[[102]], by decide, by decide⟩

def sampleSource : Source Nat
  | [] => .directory 0 0o555 sampleListing
  | [[102]] => .file [104, 105] 0o444
  | _ => .failed

def sampleDisk : Disk := fun path => if path = [] ∨ path = [[100]] then some (.directory 0o700) else none

theorem sampleDisk_fresh : Fresh [47, 100] [115] sampleDisk where
  made := ⟨sampleDisk, rfl⟩
  opened := ⟨by decide, by decide⟩
  absent rest := if_neg (by simp [show resolve [47, 100] = [[100]] by decide])

end Sample

end ExaServe.Resources.Bcast
