import ExaServe.Replay.Accounting
import ExaServe.Replay.ResultChunks
import Mathlib.Algebra.BigOperators.Group.Finset.Basic
import Mathlib.Algebra.Order.BigOperators.Group.Finset
import Mathlib.Logic.Relation

namespace ExaServe.Replay.Gather

open Lib

/-- The ranks of a run, each with the results that it has read. -/
structure World where
  float : PythonFloat
  mpiSize : Nat
  some_rank : 0 < mpiSize
  runIndex : Nat
  held : Nat → List ResultTuple
  readable : ∀ rank < mpiSize, ∀ item ∈ held rank, Readable float.of item

def evidenceOf (rank size : Nat) (digested : Bytes) : List (String × Json) :=
  [("rank", .int rank), ("size_bytes", .int size), ("sha256", .str (Sha256.hexdigest digested)),
    ("transport", .str "mpi_chunked")]

/-- Messages sent one after another, up to the first that is refused. -/
def sendAll : List Message → List Bytes × Option Failure
  | [] => ([], none)
  | message :: rest => match encodeMpiMessage message with
    | .error failure => ([], some failure)
    | .ok frame =>
      let later := sendAll rest
      (frame :: later.1, later.2)

/-- What the root keeps of a rank while it receives. -/
structure RankState where
  next : Nat
  records : List ResultTuple
  digest : Bytes
  size : Nat

structure Root where
  states : Nat → RankState
  collected : Nat → Option (List ResultTuple)

inductive Phase where
  | receiving (root : Root)
  | raised (failure : Failure)
  | returned (results : List (List ResultTuple))

variable (world : World)

def World.chunks (rank : Nat) : List Bytes × Option Failure := resultChunks (world.held rank)

/-- What a rank has to send: its chunks, and its terminal unless a record was too large for a chunk. -/
def World.messages (rank : Nat) : List Message :=
  (world.chunks rank).1.mapIdx (fun sequence content => .data world.runIndex sequence content) ++
    match (world.chunks rank).2 with
    | some _ => []
    | none => [.terminal world.runIndex (world.chunks rank).1.length (world.held rank).length
        (evidenceOf rank (world.chunks rank).1.flatten.length (world.chunks rank).1.flatten)]

/-- The frames that a rank other than the root sends, and the failure that ends them. -/
def World.sends (rank : Nat) : List Bytes × Option Failure :=
  let sent := sendAll (world.messages rank)
  (sent.1, sent.2.orElse fun _ => (world.chunks rank).2)

def World.isPending (root : Root) (other : Nat) : Prop :=
  0 < other ∧ other < world.mpiSize ∧ root.collected other = none

def World.takeMessage (root : Root) (other : Nat) : Message → Except Failure Root
  | .data runIndex sequence content =>
    if runIndex ≠ world.runIndex ∨ sequence ≠ (root.states other).next then
      .error (.runtime s!"rank {other} sent an invalid result chunk")
    else do
      let decoded ← decodeResultChunk world.float.of content
      let state := root.states other
      return { root with
        states := Function.update root.states other
          ⟨state.next + 1, state.records ++ decoded, state.digest ++ content, state.size + content.length⟩ }
  | .terminal runIndex chunks records claimed =>
    if runIndex ≠ world.runIndex then .error (.runtime s!"rank {other} sent an invalid result terminal")
    else
      let state := root.states other
      if chunks ≠ state.next ∨ records ≠ state.records.length ∨
          Json.pyEq (.obj claimed) (.obj (evidenceOf other state.size state.digest)) = false then
        .error (.runtime s!"rank {other} result terminal is inconsistent")
      else .ok { root with collected := Function.update root.collected other (some state.records) }
  | .summary .. => .error (.runtime s!"rank {other} sent an unknown result message")

/-- The root takes the message that a rank's receive completed with. -/
def World.complete (root : Root) (other : Nat) (frame : Bytes) : Phase :=
  match decodeMpiMessage frame >>= world.takeMessage root other with
  | .ok root => .receiving root
  | .error failure => .raised failure

def World.collectedAll (root : Root) : List (List ResultTuple) :=
  (List.range world.mpiSize).map fun rank => (root.collected rank).getD []

def World.firstRoot : Root where
  states _ := ⟨0, [], [], 0⟩
  collected rank := if rank = 0 then some (world.held 0) else none

/-- `_gather_raw_results_via_mpi` of the root, up to its first receive. -/
def World.begin : Phase :=
  if world.mpiSize ≤ 1 then .returned [world.held 0]
  else match (world.chunks 0).2 with
    | some failure => .raised failure
    | none => .receiving world.firstRoot

/-- The lists the ranks hold. -/
def World.gathered : List (List ResultTuple) := (List.range world.mpiSize).map world.held

section Delivery

/-- How many frames of each rank were sent and were taken, and the root. -/
structure State where
  sent : Nat → Nat
  taken : Nat → Nat
  phase : Phase

def World.start : State := ⟨fun _ => 0, fun _ => 0, world.begin⟩

/-- A step of the ranks within the deadline: the frames of one rank arrive in their order, those of different ranks in
    any. -/
inductive Step : State → State → Prop where
  | send {state : State} {rank : Nat} (other : 0 < rank) (inside : rank < world.mpiSize)
    (left : state.sent rank < (world.sends rank).1.length) :
    Step state { state with sent := Function.update state.sent rank (state.sent rank + 1) }
  | complete {sent taken : Nat → Nat} {root : Root} {rank : Nat} {frame : Bytes} (pending : world.isPending root rank)
    (arrived : taken rank < sent rank) (next : (world.sends rank).1[taken rank]? = some frame) :
    Step ⟨sent, taken, .receiving root⟩
      ⟨sent, Function.update taken rank (taken rank + 1), world.complete root rank frame⟩
  | finish {sent taken : Nat → Nat} {root : Root} (none_left : ∀ rank, ¬ world.isPending root rank) :
    Step ⟨sent, taken, .receiving root⟩ ⟨sent, taken, .returned (world.collectedAll root)⟩

def Reachable (state : State) : Prop := Relation.ReflTransGen (Step world) world.start state

/-- Whatever the order, no rank raises and every run ends with what the ranks hold. -/
structure Lossless : Prop where
  senders : ∀ rank, 0 < rank → rank < world.mpiSize → (world.sends rank).2 = none
  safe : ∀ state, Reachable world state → ∀ failure, state.phase ≠ .raised failure
  exact_lists : ∀ state lists, Reachable world state → state.phase = .returned lists → lists = world.gathered
  progress : ∀ state, Reachable world state → (∃ lists, state.phase = .returned lists) ∨ ∃ next, Step world state next
  finite : ∀ state, Acc (fun next before => Step world before next) state

end Delivery

section Faults

/-- A frame that a rank may have sent: one of this run, or one of another run. -/
inductive Frame (rank : Nat) : Bytes → Prop where
  | own {frame : Bytes} (sent : frame ∈ (world.sends rank).1) : Frame rank frame
  | foreign {message : Message} {frame : Bytes} (other : message.runIndex ≠ world.runIndex) (keyed : message.WellKeyed)
    (encoded : encodeMpiMessage message = .ok frame) : Frame rank frame

/-- What may arrive of a rank: such a frame, whole or without its end. -/
inductive Arrives (rank : Nat) : Bytes → Prop where
  | whole {frame : Bytes} (sent : Frame world rank frame) : Arrives rank frame
  | truncated {frame : Bytes} (sent : Frame world rank frame) {size : Nat} (short : size < frame.length) :
    Arrives rank (frame.take size)

/-- What the root comes to when frames are lost, repeated, reordered or cut. -/
inductive Comes : Phase → Prop where
  | begin : Comes world.begin
  | complete {root : Root} {rank : Nat} {frame : Bytes} (before : Comes (.receiving root))
    (pending : world.isPending root rank) (arrives : Arrives world rank frame) : Comes (world.complete root rank frame)
  | finish {root : Root} (before : Comes (.receiving root)) (none_left : ∀ rank, ¬ world.isPending root rank) :
    Comes (.returned (world.collectedAll root))
  | timeout {root : Root} {rank : Nat} (before : Comes (.receiving root)) (pending : world.isPending root rank) :
    Comes (.raised (.runtime s!"run {world.runIndex} MPI result transfer timed out"))

def AllOrNothing : Prop := ∀ lists, Comes world (.returned lists) → lists = world.gathered

end Faults

/-- Every record fits a chunk, and every header of a message its bound. -/
structure Fits : Prop where
  records : ∀ rank < world.mpiSize, ∀ item ∈ world.held rank, RecordFits item
  headers : ∀ rank, 0 < rank → rank < world.mpiSize → ∀ message ∈ world.messages rank,
    (headerBytes message.header).length ≤ mpiHeaderBytes

section Sending

theorem sendAll_sent {messages : List Message} {index : Nat} {frame : Bytes}
    (sent : (sendAll messages).1[index]? = some frame) :
    ∃ message, messages[index]? = some message ∧ encodeMpiMessage message = .ok frame := by
  induction messages generalizing index with
  | nil => cases sent
  | cons message rest ih =>
    rw [sendAll] at sent
    cases encoded : encodeMpiMessage message with
    | error failure =>
      rw [encoded] at sent
      cases sent
    | ok first =>
      simp only [encoded] at sent
      cases index with
      | zero =>
        cases sent
        exact ⟨message, rfl, encoded⟩
      | succ index => exact ih sent

theorem sendAll_all {messages : List Message} (all : ∀ message ∈ messages, encodeMpiMessage message = .ok (frameOf message)) :
    sendAll messages = (messages.map frameOf, none) := by
  induction messages with
  | nil => rfl
  | cons message rest ih =>
    obtain ⟨here, later⟩ := List.forall_mem_cons.mp all
    rw [sendAll, here]
    simp only [ih later]
    rfl

theorem evidence_keyed (rank size : Nat) (digested : Bytes) :
    Json.wellKeyed (.obj (evidenceOf rank size digested)) = true := by
  simp [Json.wellKeyed, Json.wellKeyedFields, Json.fieldNames, evidenceOf]

theorem evidence_stored (rank size : Nat) (digested : Bytes) :
    Json.pyEq (.obj (Json.sortFields (Json.canonicalFields (evidenceOf rank size digested))))
      (.obj (evidenceOf rank size digested)) = true := by
  simp [evidenceOf, Json.canonicalFields, Json.canonical, Json.sortFields, Json.pyEq, Json.pyEqFields, Json.lookup,
    Json.number?]

variable (world : World)

/-- The groups of records that the chunks of every rank carry. -/
structure Carried (groups : Nat → List (List ResultTuple)) : Prop where
  grouped : ∀ rank, Grouped [] (world.held rank) (world.chunks rank) (groups rank)

theorem exists_carried : ∃ groups, Carried world groups := by
  have each (rank : Nat) : ∃ groups, Grouped [] (world.held rank) (world.chunks rank) groups :=
    iterResultChunks_grouped 0 [] (world.held rank) (Nat.zero_le _)
  choose groups grouped using each
  exact ⟨groups, ⟨grouped⟩⟩

def groupBytes (group : List ResultTuple) : Bytes := group.flatMap encodeRecord

/-- The terminal of a rank whose chunks are these. -/
def World.terminal (rank : Nat) (groups : List (List ResultTuple)) : Message :=
  .terminal world.runIndex groups.length (world.held rank).length
    (evidenceOf rank (groups.map groupBytes).flatten.length (groups.map groupBytes).flatten)

variable {world} {groups : Nat → List (List ResultTuple)}

theorem Carried.messages (carried : Carried world groups) {rank index : Nat} {message : Message}
    (listed : (world.messages rank)[index]? = some message) :
    (∃ group, (groups rank)[index]? = some group ∧ message = .data world.runIndex index (groupBytes group)) ∨
      (world.chunks rank).2 = none ∧ index = (groups rank).length ∧ message = world.terminal rank (groups rank) := by
  have chunks := (carried.grouped rank).chunks
  have width : (world.chunks rank).1.length = (groups rank).length := by
    rw [chunks, List.length_map]
  rw [World.messages, List.getElem?_append] at listed
  split_ifs at listed with inside
  · rw [List.getElem?_mapIdx, chunks, List.getElem?_map] at listed
    cases found : (groups rank)[index]? with
    | none =>
      rw [found] at listed
      cases listed
    | some group =>
      rw [found] at listed
      cases listed
      exact Or.inl ⟨group, rfl, rfl⟩
  · rw [List.length_mapIdx, width] at listed
    rw [List.length_mapIdx, width, not_lt] at inside
    cases ended : (world.chunks rank).2 with
    | some failure =>
      rw [ended] at listed
      cases listed
    | none =>
      rw [ended] at listed
      obtain ⟨last, same⟩ := List.getElem?_eq_some_iff.mp listed
      rw [List.length_singleton] at last
      refine Or.inr ⟨rfl, by omega, ?_⟩
      simp only [List.getElem_singleton] at same
      rw [← same, chunks]
      rfl

theorem Carried.keyed (carried : Carried world groups) {rank : Nat} {message : Message}
    (listed : message ∈ world.messages rank) : message.WellKeyed := by
  obtain ⟨index, found⟩ := List.mem_iff_getElem?.mp listed
  rcases carried.messages found with ⟨group, -, rfl⟩ | ⟨-, -, rfl⟩
  · exact data_keyed _ _ _
  · exact terminal_keyed _ _ _ (evidence_keyed _ _ _)

theorem Carried.sent_message (carried : Carried world groups) {rank : Nat} {frame : Bytes}
    (sent : frame ∈ (world.sends rank).1) :
    ∃ (index : Nat) (message : Message), (world.messages rank)[index]? = some message ∧ message.WellKeyed ∧
      encodeMpiMessage message = .ok frame := by
  obtain ⟨index, found⟩ := List.mem_iff_getElem?.mp sent
  obtain ⟨message, listed, encoded⟩ := sendAll_sent found
  exact ⟨index, message, listed, carried.keyed (List.mem_of_getElem? listed), encoded⟩

end Sending

section Root

variable {world : World} {groups : Nat → List (List ResultTuple)}

/-- The state of a rank after the root has taken some of its groups. -/
structure Taken (groups : List (List ResultTuple)) (state : RankState) : Prop where
  next_le : state.next ≤ groups.length
  records : state.records = (groups.take state.next).flatten
  digest : state.digest = ((groups.take state.next).map groupBytes).flatten
  size : state.size = state.digest.length

variable (world groups) in
structure Follows (root : Root) : Prop where
  states : ∀ other, 0 < other → other < world.mpiSize → Taken (groups other) (root.states other)
  own : root.collected 0 = some (world.held 0)
  collected : ∀ other, 0 < other → other < world.mpiSize → ∀ results, root.collected other = some results →
    results = world.held other

theorem firstRoot_follows : Follows world groups world.firstRoot where
  states _ _ _ := ⟨Nat.zero_le _, rfl, rfl, rfl⟩
  own := rfl
  collected other positive _ results held := by
    have none_held : world.firstRoot.collected other = none := if_neg (Nat.ne_of_gt positive)
    rw [none_held] at held
    cases held

/-- The root after the next group of a rank. -/
def Root.takeGroup (root : Root) (other : Nat) (group : List ResultTuple) : Root :=
  let state := root.states other
  { root with
    states := Function.update root.states other
      ⟨state.next + 1, state.records ++ group, state.digest ++ groupBytes group, state.size + (groupBytes group).length⟩ }

def Root.collect (root : Root) (other : Nat) : Root :=
  { root with collected := Function.update root.collected other (some (root.states other).records) }

theorem takeGroup_self (root : Root) (other : Nat) (group : List ResultTuple) :
    (root.takeGroup other group).states other = ⟨(root.states other).next + 1, (root.states other).records ++ group,
      (root.states other).digest ++ groupBytes group, (root.states other).size + (groupBytes group).length⟩ :=
  Function.update_self _ _ _

theorem takeGroup_other (root : Root) {rank other : Nat} (apart : rank ≠ other) (group : List ResultTuple) :
    (root.takeGroup other group).states rank = root.states rank := Function.update_of_ne apart _ _

theorem collect_self (root : Root) (other : Nat) :
    (root.collect other).collected other = some (root.states other).records := Function.update_self _ _ _

theorem collect_other (root : Root) {rank other : Nat} (apart : rank ≠ other) :
    (root.collect other).collected rank = root.collected rank := Function.update_of_ne apart _ _

theorem takeMessage_data (carried : Carried world groups) {root : Root} {other : Nat} (inside : other < world.mpiSize)
    {group : List ResultTuple} (next : (groups other)[(root.states other).next]? = some group) :
    world.takeMessage root other (.data world.runIndex (root.states other).next (groupBytes group)) =
      .ok (root.takeGroup other group) := by
  have grouped := carried.grouped other
  have listed := List.mem_of_getElem? next
  have sound : ∀ item ∈ group, @Sound world.float.of item := fun item member =>
    readable_sound world.float (world.readable other inside item (grouped.inside group listed item member))
  have decoded := decodeResultChunk_rows sound (grouped.bounded group listed)
  rw [World.takeMessage, if_neg (by simp)]
  exact ok_bind decoded _

theorem Follows.takeGroup {root : Root} (follows : Follows world groups root) {other : Nat}
    {group : List ResultTuple} (next : (groups other)[(root.states other).next]? = some group) :
    Follows world groups (root.takeGroup other group) where
  own := follows.own
  collected := follows.collected
  states rank positive inside := by
    by_cases same : rank = other
    · subst same
      have taken := follows.states rank positive inside
      obtain ⟨within, rfl⟩ := List.getElem?_eq_some_iff.mp next
      have longer : (groups rank).take ((root.states rank).next + 1) =
          (groups rank).take (root.states rank).next ++ [(groups rank)[(root.states rank).next]] :=
        List.take_succ_eq_append_getElem within
      rw [takeGroup_self]
      constructor
      · exact within
      · simp only
        rw [longer, taken.records, List.flatten_append, List.flatten_singleton]
      · simp only
        rw [longer, taken.digest, List.map_append, List.flatten_append, List.map_singleton, List.flatten_singleton]
      · simp only
        rw [taken.size, List.length_append]
    · rw [takeGroup_other root same]
      exact follows.states rank positive inside

/-- The root has taken every group of a rank when it has as many as the rank's terminal says. -/
theorem Follows.whole (carried : Carried world groups) {root : Root} (follows : Follows world groups root) {other : Nat}
    (positive : 0 < other) (inside : other < world.mpiSize) (ended : (world.chunks other).2 = none)
    (last : (root.states other).next = (groups other).length) : (root.states other).records = world.held other ∧
      (root.states other).digest = ((groups other).map groupBytes).flatten ∧
      (root.states other).size = ((groups other).map groupBytes).flatten.length := by
  have taken := follows.states other positive inside
  have records := taken.records
  have digest := taken.digest
  rw [last, List.take_length] at records digest
  rw [(carried.grouped other).whole ended, List.nil_append] at records
  exact ⟨records, digest, by rw [taken.size, digest]⟩

theorem takeMessage_terminal (carried : Carried world groups) {root : Root} (follows : Follows world groups root)
    {other : Nat} (positive : 0 < other) (inside : other < world.mpiSize) (ended : (world.chunks other).2 = none)
    (last : (root.states other).next = (groups other).length) :
    world.takeMessage root other (world.terminal other (groups other)).stored = .ok (root.collect other) := by
  obtain ⟨records, digest, size⟩ := follows.whole carried positive inside ended last
  rw [World.terminal, Message.stored, World.takeMessage, if_neg (not_not.mpr rfl)]
  simp only [records, digest, size, last, evidence_stored]
  rw [if_neg (by simp), Root.collect, records]

theorem Follows.collect (carried : Carried world groups) {root : Root} (follows : Follows world groups root)
    {other : Nat} (positive : 0 < other) (inside : other < world.mpiSize) (ended : (world.chunks other).2 = none)
    (last : (root.states other).next = (groups other).length) : Follows world groups (root.collect other) where
  states := follows.states
  own := by
    rw [collect_other root (Nat.ne_of_lt positive)]
    exact follows.own
  collected rank above below results held := by
    by_cases same : rank = other
    · subst same
      rw [collect_self] at held
      rw [← Option.some.inj held]
      exact (follows.whole carried positive inside ended last).1
    · rw [collect_other root same] at held
      exact follows.collected rank above below results held

theorem Follows.returned {root : Root} (follows : Follows world groups root)
    (none_left : ∀ rank, ¬ world.isPending root rank) : world.collectedAll root = world.gathered := by
  apply List.map_congr_left
  intro rank listed
  have inside := List.mem_range.mp listed
  rcases Nat.eq_zero_or_pos rank with rfl | positive
  · rw [follows.own]
    rfl
  · cases held : root.collected rank with
    | none => exact absurd ⟨positive, inside, held⟩ (none_left rank)
    | some results => exact follows.collected rank positive inside results held

/-- A message of another run is refused. -/
theorem takeMessage_foreign (root : Root) (other : Nat) {message : Message} (foreign : message.runIndex ≠ world.runIndex)
    (after : Root) : world.takeMessage root other message.stored ≠ .ok after := by
  intro done
  cases message with
  | data runIndex sequence content =>
    have apart : runIndex ≠ world.runIndex := foreign
    rw [Message.stored, World.takeMessage, if_pos (Or.inl apart)] at done
    · cases done
    · exact fun _ _ _ _ same => by cases same
  | summary => cases done
  | terminal runIndex chunks records evidence =>
    have apart : runIndex ≠ world.runIndex := foreign
    rw [Message.stored, World.takeMessage, if_pos apart] at done
    cases done

/-- Of the messages of a rank, the root takes the one that is next. -/
theorem takeMessage_own (carried : Carried world groups) {root : Root} (follows : Follows world groups root) {other : Nat}
    (positive : 0 < other) (inside : other < world.mpiSize) {index : Nat} {message : Message}
    (listed : (world.messages other)[index]? = some message) {after : Root}
    (done : world.takeMessage root other message.stored = .ok after) : Follows world groups after := by
  rcases carried.messages listed with ⟨group, found, rfl⟩ | ⟨ended, -, rfl⟩
  · by_cases next : index = (root.states other).next
    · subst next
      rw [Message.stored, takeMessage_data carried inside found] at done
      · cases done
        exact follows.takeGroup found
      · exact fun _ _ _ _ same => by cases same
    · rw [Message.stored, World.takeMessage, if_pos (Or.inr next)] at done
      · cases done
      · exact fun _ _ _ _ same => by cases same
  · by_cases last : (root.states other).next = (groups other).length
    · rw [takeMessage_terminal carried follows positive inside ended last] at done
      cases done
      exact follows.collect carried positive inside ended last
    · have short : (groups other).length ≠ (root.states other).next := Ne.symm last
      rw [World.terminal, Message.stored, World.takeMessage, if_neg (not_not.mpr rfl)] at done
      simp only [if_pos (Or.inl short : _ ∨ _ ∨ _)] at done
      cases done

def PhaseHolds (world : World) (groups : Nat → List (List ResultTuple)) : Phase → Prop
  | .receiving root => Follows world groups root
  | .raised _ => True
  | .returned lists => lists = world.gathered

theorem complete_holds (carried : Carried world groups) {root : Root} (follows : Follows world groups root)
    {other : Nat} (pending : world.isPending root other) {frame : Bytes} (arrives : Arrives world other frame) :
    PhaseHolds world groups (world.complete root other frame) := by
  unfold World.complete
  cases outcome : decodeMpiMessage frame >>= world.takeMessage root other with
  | error failure => trivial
  | ok after =>
    obtain ⟨received, decoded, done⟩ := bind_ok outcome
    have whole {frame : Bytes} (sent : Frame world other frame) : ∃ message : Message, message.WellKeyed ∧
        encodeMpiMessage message = .ok frame ∧ (message.runIndex ≠ world.runIndex ∨
          ∃ index : Nat, (world.messages other)[index]? = some message) := by
      cases sent with
      | own sent =>
        obtain ⟨index, message, listed, keyed, encoded⟩ := carried.sent_message sent
        exact ⟨message, keyed, encoded, Or.inr ⟨index, listed⟩⟩
      | foreign other keyed encoded => exact ⟨_, keyed, encoded, Or.inl other⟩
    cases arrives with
    | whole sent =>
      obtain ⟨message, keyed, encoded, origin⟩ := whole sent
      obtain ⟨-, -, opened⟩ := decode_encode keyed encoded
      rw [opened] at decoded
      cases decoded
      rcases origin with foreign | ⟨index, listed⟩
      · exact absurd done (takeMessage_foreign root other foreign after)
      · exact takeMessage_own carried follows pending.1 pending.2.1 listed done
    | truncated sent short =>
      obtain ⟨message, keyed, encoded, -⟩ := whole sent
      obtain ⟨rfl, header, -⟩ := decode_encode keyed encoded
      obtain ⟨_, payload, -⟩ := bind_ok encoded
      exact absurd decoded (decode_truncated keyed header (ensure_holds payload) short received)

theorem begin_holds : PhaseHolds world groups world.begin := by
  unfold World.begin
  split_ifs with single
  · have one : world.mpiSize = 1 := le_antisymm single world.some_rank
    show [world.held 0] = world.gathered
    rw [World.gathered, one]
    rfl
  · cases (world.chunks 0).2 with
    | some failure => trivial
    | none => exact firstRoot_follows

theorem comes_holds (carried : Carried world groups) {phase : Phase} (comes : Comes world phase) :
    PhaseHolds world groups phase := by
  induction comes with
  | begin => exact begin_holds
  | complete _ pending arrives ih => exact complete_holds carried ih pending arrives
  | finish _ none_left ih => exact ih.returned none_left
  | timeout => trivial

theorem allOrNothing (world : World) : AllOrNothing world := by
  obtain ⟨groups, carried⟩ := exists_carried world
  exact fun lists comes => comes_holds carried comes

end Root

section Whole

variable {world : World} {groups : Nat → List (List ResultTuple)}

theorem Fits.chunks (carried : Carried world groups) (fits : Fits world) {rank : Nat} (inside : rank < world.mpiSize) :
    (world.chunks rank).2 = none :=
  (carried.grouped rank).fits.mpr (fits.records rank inside)

theorem groupBytes_nonempty {group : List ResultTuple} (nonempty : group ≠ []) : groupBytes group ≠ [] := by
  obtain ⟨item, items, rfl⟩ := List.exists_cons_of_ne_nil nonempty
  rw [groupBytes, List.flatMap_cons]
  exact List.append_ne_nil_of_left_ne_nil (encodeRecord_nonempty item) _

theorem Carried.inBounds (carried : Carried world groups) {rank : Nat} {message : Message}
    (listed : message ∈ world.messages rank) : message.InBounds := by
  obtain ⟨index, found⟩ := List.mem_iff_getElem?.mp listed
  rcases carried.messages found with ⟨group, carries, rfl⟩ | ⟨-, -, rfl⟩
  · have member := List.mem_of_getElem? carries
    exact ⟨groupBytes_nonempty ((carried.grouped rank).nonempty group member), (carried.grouped rank).bounded group member⟩
  · trivial

theorem Fits.sends (carried : Carried world groups) (fits : Fits world) {rank : Nat} (positive : 0 < rank)
    (inside : rank < world.mpiSize) : world.sends rank = ((world.messages rank).map frameOf, none) := by
  have all : ∀ message ∈ world.messages rank, encodeMpiMessage message = .ok (frameOf message) := fun message listed =>
    encode_ok (carried.keyed listed) (carried.inBounds listed) (fits.headers rank positive inside message listed)
  rw [World.sends, sendAll_all all, fits.chunks carried inside]
  rfl

theorem Fits.messages_length (carried : Carried world groups) (fits : Fits world) {rank : Nat}
    (inside : rank < world.mpiSize) : (world.messages rank).length = (groups rank).length + 1 := by
  rw [World.messages, fits.chunks carried inside, List.length_append, List.length_mapIdx, (carried.grouped rank).chunks,
    List.length_map]
  rfl

theorem Fits.frames_length (carried : Carried world groups) (fits : Fits world) {rank : Nat} (positive : 0 < rank)
    (inside : rank < world.mpiSize) : (world.sends rank).1.length = (groups rank).length + 1 := by
  rw [fits.sends carried positive inside, List.length_map, fits.messages_length carried inside]

variable (world groups) in
/-- What holds between the ranks and the root, while no frame is lost. -/
structure Kept (state : State) : Prop where
  taken_le : ∀ rank, state.taken rank ≤ state.sent rank
  sent_le : ∀ rank, 0 < rank → rank < world.mpiSize → state.sent rank ≤ (groups rank).length + 1
  phase : PhaseHolds world groups state.phase
  not_raised : ∀ failure, state.phase ≠ .raised failure
  next : ∀ root, state.phase = .receiving root → ∀ other, world.isPending root other →
    state.taken other = (root.states other).next

theorem start_kept (carried : Carried world groups) (fits : Fits world) : Kept world groups world.start where
  taken_le _ := Nat.le_refl _
  sent_le _ _ _ := Nat.zero_le _
  phase := begin_holds
  not_raised failure := by
    show world.begin ≠ _
    rw [World.begin, fits.chunks carried world.some_rank]
    split_ifs <;> nofun
  next root begun other _ := by
    have begun : world.begin = .receiving root := begun
    rw [World.begin, fits.chunks carried world.some_rank] at begun
    split_ifs at begun
    cases begun
    rfl

/-- What the root does with the next frame of a rank. -/
theorem complete_next (carried : Carried world groups) {root : Root}
    (follows : Follows world groups root) {rank : Nat} {frame : Bytes} (pending : world.isPending root rank)
    (next : (world.sends rank).1[(root.states rank).next]? = some frame) :
    (∃ group, (groups rank)[(root.states rank).next]? = some group ∧
      world.complete root rank frame = .receiving (root.takeGroup rank group)) ∨
        world.complete root rank frame = .receiving (root.collect rank) := by
  obtain ⟨positive, inside, -⟩ := pending
  obtain ⟨message, listed, encoded⟩ := sendAll_sent next
  have keyed := carried.keyed (List.mem_of_getElem? listed)
  obtain ⟨-, -, opened⟩ := decode_encode keyed encoded
  unfold World.complete
  rw [ok_bind opened]
  rcases carried.messages listed with ⟨group, found, rfl⟩ | ⟨ended, last, rfl⟩
  · rw [Message.stored, takeMessage_data carried inside found]
    · exact Or.inl ⟨group, found, rfl⟩
    · exact fun _ _ _ _ same => by cases same
  · rw [takeMessage_terminal carried follows positive inside ended last]
    exact Or.inr rfl

theorem isPending_collect {root : Root} {rank other : Nat} (pending : world.isPending (root.collect rank) other) :
    other ≠ rank ∧ world.isPending root other := by
  have apart : other ≠ rank := by
    rintro rfl
    have held := pending.2.2
    rw [collect_self] at held
    cases held
  refine ⟨apart, pending.1, pending.2.1, ?_⟩
  rw [← collect_other root apart]
  exact pending.2.2

theorem step_kept (carried : Carried world groups) (fits : Fits world) {before after : State}
    (kept : Kept world groups before) (step : Step world before after) : Kept world groups after := by
  cases step with
  | @send _ rank positive inside left =>
    rw [fits.frames_length carried positive inside] at left
    refine ⟨?_, ?_, kept.phase, kept.not_raised, kept.next⟩
    · intro other
      show before.taken other ≤ Function.update before.sent rank (before.sent rank + 1) other
      by_cases same : other = rank
      · subst same
        rw [Function.update_self]
        exact Nat.le_succ_of_le (kept.taken_le other)
      · rw [Function.update_of_ne same]
        exact kept.taken_le other
    · intro other above below
      show Function.update before.sent rank (before.sent rank + 1) other ≤ (groups other).length + 1
      by_cases same : other = rank
      · subst same
        rw [Function.update_self]
        exact left
      · rw [Function.update_of_ne same]
        exact kept.sent_le other above below
  | @complete sent taken root rank frame pending arrived next =>
    have follows : Follows world groups root := kept.phase
    have position : taken rank = (root.states rank).next := kept.next root rfl rank pending
    rw [position] at next
    have outcome := complete_next carried follows pending next
    refine ⟨?_, kept.sent_le, complete_holds carried follows pending (.whole (.own (List.mem_of_getElem? next))), ?_, ?_⟩
    · intro other
      show Function.update taken rank (taken rank + 1) other ≤ sent other
      by_cases same : other = rank
      · subst same
        rw [Function.update_self]
        exact arrived
      · rw [Function.update_of_ne same]
        exact kept.taken_le other
    · intro failure
      show world.complete root rank frame ≠ _
      rcases outcome with ⟨group, -, same⟩ | same
      · rw [same]
        nofun
      · rw [same]
        nofun
    · intro later received other waiting
      have received : world.complete root rank frame = .receiving later := received
      show Function.update taken rank (taken rank + 1) other = _
      rcases outcome with ⟨group, -, same⟩ | same
      · rw [same] at received
        cases received
        by_cases here : other = rank
        · subst here
          rw [Function.update_self, takeGroup_self, position]
        · rw [Function.update_of_ne here, takeGroup_other root here]
          exact kept.next root rfl other waiting
      · rw [same] at received
        cases received
        obtain ⟨apart, waiting⟩ := isPending_collect waiting
        rw [Function.update_of_ne apart]
        exact kept.next root rfl other waiting
  | finish none_left =>
    have follows : Follows world groups _ := kept.phase
    exact ⟨kept.taken_le, kept.sent_le, follows.returned none_left, nofun, nofun⟩

theorem reachable_kept (carried : Carried world groups) (fits : Fits world) {state : State}
    (reached : Reachable world state) : Kept world groups state := by
  induction reached with
  | refl => exact start_kept carried fits
  | tail _ step ih => exact step_kept carried fits ih step

/-- The root has a frame to take, or a rank one to send, until all is collected. -/
theorem kept_progress (carried : Carried world groups) (fits : Fits world) {state : State} (kept : Kept world groups state) :
    (∃ lists, state.phase = .returned lists) ∨ ∃ next, Step world state next := by
  obtain ⟨sent, taken, phase⟩ := state
  cases phase with
  | returned lists => exact Or.inl ⟨lists, rfl⟩
  | raised failure => exact absurd rfl (kept.not_raised failure)
  | receiving root =>
    right
    by_cases left : ∃ rank, world.isPending root rank
    · obtain ⟨rank, pending⟩ := left
      have follows : Follows world groups root := kept.phase
      have position : taken rank = (root.states rank).next := kept.next root rfl rank pending
      have bound := (follows.states rank pending.1 pending.2.1).next_le
      have width := fits.frames_length carried pending.1 pending.2.1
      by_cases arrived : taken rank < sent rank
      · have inside : taken rank < (world.sends rank).1.length := by omega
        exact ⟨_, .complete pending arrived (List.getElem?_eq_getElem inside)⟩
      · exact ⟨_, .send pending.1 pending.2.1 (by show sent rank < _; omega)⟩
    · exact ⟨_, .finish (not_exists.mp left)⟩

end Whole

section Finite

variable (world : World)

/-- The frames that are left of these ranks. -/
def World.left (counts : Nat → Nat) : Nat :=
  ∑ rank ∈ Finset.range world.mpiSize, ((world.sends rank).1.length - counts rank)

def World.measure (state : State) : Nat :=
  world.left state.sent + world.left state.taken + match state.phase with
    | .receiving _ => 1
    | _ => 0

variable {world}

theorem left_update {counts : Nat → Nat} {rank : Nat} (inside : rank < world.mpiSize)
    (short : counts rank < (world.sends rank).1.length) :
    world.left (Function.update counts rank (counts rank + 1)) < world.left counts := by
  apply Finset.sum_lt_sum
  · intro other _
    by_cases same : other = rank
    · subst same
      rw [Function.update_self]
      omega
    · rw [Function.update_of_ne same]
  · refine ⟨rank, Finset.mem_range.mpr inside, ?_⟩
    rw [Function.update_self]
    omega

theorem step_measure {before after : State} (step : Step world before after) :
    world.measure after < world.measure before := by
  cases step with
  | send _ inside left =>
    have fewer := left_update inside left
    simp only [World.measure]
    omega
  | @complete sent taken root rank frame pending _ next =>
    obtain ⟨short, -⟩ := List.getElem?_eq_some_iff.mp next
    have fewer := left_update pending.2.1 short
    simp only [World.measure]
    cases world.complete root rank frame <;> simp only <;> omega
  | finish =>
    simp only [World.measure]
    omega

theorem steps_finite (state : State) : Acc (fun next before => Step world before next) state :=
  (Subrelation.wf (fun step => step_measure step) (measure world.measure).wf).apply state

end Finite

/-- A rank that is alone returns what it holds. -/
theorem single_returned {world : World} (single : world.mpiSize ≤ 1) {state : State} (reached : Reachable world state) :
    state.phase = .returned world.gathered := by
  induction reached with
  | refl =>
    have one : world.mpiSize = 1 := le_antisymm single world.some_rank
    show world.begin = _
    rw [World.begin, if_pos single, World.gathered, one]
    rfl
  | tail _ step ih =>
    cases step with
    | send positive inside => exact absurd inside (by omega)
    | complete => cases ih
    | finish => cases ih

theorem lossless {world : World} (fits : world.mpiSize ≤ 1 ∨ Fits world) : Lossless world := by
  rcases fits with single | fits
  · refine ⟨?_, ?_, ?_, ?_, steps_finite⟩
    · intro rank positive inside
      omega
    · intro state reached failure raised
      rw [single_returned single reached] at raised
      cases raised
    · intro state lists reached returned
      rw [single_returned single reached] at returned
      cases returned
      rfl
    · intro state reached
      exact Or.inl ⟨_, single_returned single reached⟩
  · obtain ⟨groups, carried⟩ := exists_carried world
    refine ⟨?_, ?_, ?_, ?_, steps_finite⟩
    · intro rank positive inside
      rw [fits.sends carried positive inside]
    · intro state reached
      exact (reachable_kept carried fits reached).not_raised
    · intro state lists reached returned
      have kept := (reachable_kept carried fits reached).phase
      rwa [returned] at kept
    · intro state reached
      exact kept_progress carried fits (reachable_kept carried fits reached)

section Raised

theorem sendAll_none {messages : List Message} (sent : (sendAll messages).2 = none) :
    ∀ message ∈ messages, ∃ frame, encodeMpiMessage message = .ok frame := by
  induction messages with
  | nil => nofun
  | cons message rest ih =>
    rw [sendAll] at sent
    cases encoded : encodeMpiMessage message with
    | error failure =>
      rw [encoded] at sent
      cases sent
    | ok frame =>
      simp only [encoded] at sent
      exact List.forall_mem_cons.mpr ⟨⟨frame, encoded⟩, ih sent⟩

variable {world : World}

/-- A rank that does not raise has records that fit and headers within their bound. -/
theorem sends_fit {rank : Nat} (sent : (world.sends rank).2 = none) : (∀ item ∈ world.held rank, RecordFits item) ∧
    ∀ message ∈ world.messages rank, (headerBytes message.header).length ≤ mpiHeaderBytes := by
  obtain ⟨groups, carried⟩ := exists_carried world
  cases framed : (sendAll (world.messages rank)).2 with
  | some failure =>
    simp only [World.sends, framed] at sent
    cases sent
  | none =>
    simp only [World.sends, framed] at sent
    refine ⟨(carried.grouped rank).fits.mp sent, ?_⟩
    intro message listed
    obtain ⟨frame, encoded⟩ := sendAll_none framed message listed
    exact (decode_encode (carried.keyed listed) encoded).2.1

theorem fits_of_lossless (whole : Lossless world) : world.mpiSize ≤ 1 ∨ Fits world := by
  by_cases single : world.mpiSize ≤ 1
  · exact Or.inl single
  · right
    obtain ⟨groups, carried⟩ := exists_carried world
    refine ⟨?_, fun rank positive inside => (sends_fit (whole.senders rank positive inside)).2⟩
    intro rank inside
    rcases Nat.eq_zero_or_pos rank with rfl | positive
    · apply (carried.grouped 0).fits.mp
      cases ended : (world.chunks 0).2 with
      | none => rfl
      | some failure =>
        have raised : world.start.phase = .raised failure := by
          show world.begin = _
          rw [World.begin, if_neg single, ended]
        exact absurd raised (whole.safe world.start .refl failure)
    · exact (sends_fit (whole.senders rank positive inside)).1

end Raised

/-- Gathering loses nothing exactly where every record fits a chunk, and never returns a part of what the ranks hold. -/
theorem gather_complete (world : World) :
    (Lossless world ↔ world.mpiSize ≤ 1 ∨ Fits world) ∧ AllOrNothing world :=
  ⟨⟨fits_of_lossless, lossless⟩, allOrNothing world⟩

section Large

theorem plainFloat_finite {value : Json} {text : FloatText} (finite : plainFloat value = .finite text) :
    value = .float text := by
  cases value with
  | float held =>
    cases finite
    rfl
  | _ => cases finite

/-- Floats are read as they are written. -/
def literalFloat : PythonFloat where
  of := plainFloat
  settled _ _ _ := rfl
  nonneg value text finite nonneg := by
    rw [plainFloat_finite finite] at nonneg
    exact nonneg

/-- The line of a request with a prompt. -/
def promptLine (prompt : String) : Json :=
  .obj [("timestamp", .float zeroTimestamp), ("model", .str "m"), ("prompt", .str prompt), ("output_len", .int 1)]

/-- The record of the request that was answered at once. -/
def answeredRow : List (String × Json) :=
  [("req_id", .str "00000000000000000000000000000000"), ("model", .str "m"), ("latency", .float zeroTimestamp),
    ("success", .bool true), ("error", .str ""), ("end_time", .float zeroTimestamp), ("input_len", .int 0),
    ("output_len", .int 1), ("actual_prompt_tokens", .null), ("actual_completion_tokens", .null),
    ("tensor_parallel_size", .int 1)]

def dispatchRow : List (String × Json) :=
  [("__type__", .str "dispatch_done"), ("last_fire_time", .float zeroTimestamp),
    ("last_request_start_at", .float zeroTimestamp), ("last_body_done_at", .float zeroTimestamp),
    ("adjusted_run_t0", .float zeroTimestamp)]

def promptTuple (prompt : String) : ResultTuple := ⟨promptRequest prompt, measurementsOf plainFloat answeredRow⟩

theorem promptLine_read {prompt : String} (short : (Json.bytes (promptLine prompt)).length ≤ traceRowBytes) :
    traceRequestFromLine plainFloat (Json.bytes (promptLine prompt)) 0 = .ok (some (promptRequest prompt)) := by
  have keyed : (promptLine prompt).wellKeyed = true := by
    simp [promptLine, Json.wellKeyed, Json.wellKeyedFields, Json.fieldNames]
  have stored : (promptLine prompt).canonical = .obj [("model", .str "m"), ("output_len", .int 1),
      ("prompt", .str prompt), ("timestamp", .float zeroTimestamp)] := by
    simp [promptLine, Json.canonical, Json.canonicalFields, Json.sortFields]
  unfold traceRequestFromLine
  rw [if_neg (not_lt.mpr short), Json.decodeUtf8_bytes]
  simp only [Json.loads_dumps keyed, stored]
  have timestamp : requireTimestamp plainFloat (.float zeroTimestamp) = .ok zeroTimestamp := by decide +kernel
  have reqId : requestId 0 = "00000000000000000000000000000000" := by decide
  have made : traceRequest plainFloat [("model", .str "m"), ("output_len", .int 1), ("prompt", .str prompt),
      ("timestamp", .float zeroTimestamp)] 0 = .ok (promptRequest prompt) := by
    refine (ok_bind timestamp _).trans ?_
    rw [promptRequest, ← reqId]
    rfl
  show (traceRequest plainFloat _ 0).map some = _
  rw [made]
  rfl

theorem answered_stream : readGoResultStream [.obj answeredRow, .obj dispatchRow] = .ok ⟨[answeredRow], dispatchRow⟩ := by
  have row : validateGoResultRecord answeredRow = .ok () := by decide +kernel
  have done : validateDispatchDone dispatchRow = .ok () := by decide +kernel
  have first : takeRow ⟨[], [], none⟩ (.obj answeredRow) = .ok ⟨[answeredRow], ["00000000000000000000000000000000"], none⟩ := by
    show (validateGoResultRecord answeredRow >>= _) = _
    rw [ok_bind row]
    rfl
  have last : takeRow ⟨[answeredRow], ["00000000000000000000000000000000"], none⟩ (.obj dispatchRow) =
      .ok ⟨[answeredRow], ["00000000000000000000000000000000"], some dispatchRow⟩ := by
    show (validateDispatchDone dispatchRow >>= _) = _
    rw [ok_bind done]
    rfl
  unfold readGoResultStream
  rw [List.foldlM_cons, ok_bind first, List.foldlM_cons, ok_bind last]
  rfl

theorem answered_finite : FiniteRow plainFloat answeredRow := by
  have found : ∀ name ∈ recordNumbers, Json.lookup name answeredRow = some (.float zeroTimestamp) ∨
      Json.lookup name answeredRow = none := by
    unfold recordNumbers
    simp only [List.forall_mem_cons]
    exact ⟨Or.inl rfl, Or.inl rfl, Or.inr rfl, Or.inr rfl, Or.inr rfl, Or.inr rfl, Or.inr rfl, Or.inr rfl, Or.inr rfl,
      Or.inr rfl, Or.inr rfl, Or.inr rfl, Or.inr rfl, nofun⟩
  intro name listed value held
  rcases found name listed with same | absent
  · rw [same] at held
    cases held
    exact ⟨zeroTimestamp, rfl⟩
  · rw [absent] at held
    cases held

theorem promptTuple_readable {prompt : String} (short : (Json.bytes (promptLine prompt)).length ≤ traceRowBytes) :
    Readable plainFloat (promptTuple prompt) where
  request := ⟨_, 0, promptLine_read short⟩
  record := ⟨_, _, answeredRow, answered_stream, List.mem_singleton_self _, rfl, answered_finite, rfl⟩

/-- Two ranks, of which the second has the result of one request. -/
def promptWorld (prompt : String) (short : (Json.bytes (promptLine prompt)).length ≤ traceRowBytes) : World where
  float := literalFloat
  mpiSize := 2
  some_rank := Nat.two_pos
  runIndex := 0
  held rank := if rank = 1 then [promptTuple prompt] else []
  readable rank _ item listed := by
    split_ifs at listed
    · rw [List.mem_singleton.mp listed]
      exact promptTuple_readable short
    · cases listed

/-- Two ranks without results. -/
def idleWorld (runIndex : Nat) : World where
  float := literalFloat
  mpiSize := 2
  some_rank := Nat.two_pos
  runIndex
  held _ := []
  readable _ _ _ listed := nomatch listed

def longPrompt (length : Nat) : String := String.ofList (List.replicate length 'a')

theorem longPrompt_quote (length : Nat) : (Json.quote (longPrompt length)).length = length + 2 := by
  have plain : Json.escapeChar 'a' = ['a'] := by decide
  rw [Json.quote, longPrompt, String.toList_ofList, List.flatMap_replicate, plain]
  simp

theorem promptLine_length (prompt : String) :
    (Json.bytes (promptLine prompt)).length = (Json.quote prompt).length + 54 := by
  have timestamp : (Json.dumps (.float zeroTimestamp)).length = 3 := rfl
  have model : (Json.dumps (.str "m")).length = 3 := by decide
  have one : (Json.dumps (.int 1)).length = 1 := by decide
  have names : (Json.quote "timestamp").length = 11 ∧ (Json.quote "model").length = 7 ∧ (Json.quote "prompt").length = 8 ∧
      (Json.quote "output_len").length = 12 := by decide
  have text : (Json.dumps (.str prompt)).length = (Json.quote prompt).length := by rw [Json.dumps]
  rw [Json.bytes_length, promptLine, Json.dumps_obj_length (List.cons_ne_nil _ _)]
  simp only [List.map_cons, List.map_nil, List.sum_cons, List.sum_nil, timestamp, model, one, text, names]
  omega

theorem longPrompt_short : (Json.bytes (promptLine (longPrompt resultChunkBytes))).length ≤ traceRowBytes := by
  rw [promptLine_length, longPrompt_quote]
  have room : resultChunkBytes + 56 ≤ traceRowBytes := by
    unfold resultChunkBytes traceRowBytes
    decide
  omega

theorem longPrompt_large : ¬ RecordFits (promptTuple (longPrompt resultChunkBytes)) := by
  have request : (Json.dumps (.str (longPrompt resultChunkBytes))).length <
      (Json.dumps (.obj (requestRecord (promptRequest (longPrompt resultChunkBytes))))).length :=
    @Json.dumps_field_length _ "prompt" _ (List.mem_cons_of_mem _ (List.mem_cons_of_mem _ List.mem_cons_self))
  have record : (Json.dumps (.obj (requestRecord (promptRequest (longPrompt resultChunkBytes))))).length <
      (Json.dumps (resultRecord (promptTuple (longPrompt resultChunkBytes)))).length :=
    @Json.dumps_field_length _ "request" _ List.mem_cons_self
  rw [Json.dumps, longPrompt_quote] at request
  unfold RecordFits encodeRecord Json.line
  rw [List.length_append, Json.bytes_length]
  omega

theorem digits_length (bound : Nat) : bound < (Json.dumps (.int (10 ^ bound : Nat))).length := by
  rw [Json.dumps, Json.intText, if_neg (not_lt.mpr (Int.natCast_nonneg _)), Int.natAbs_natCast]
  rcases Nat.eq_zero_or_pos bound with rfl | positive
  · decide
  · rw [← not_le, Nat.length_toDigits_le_iff (by decide) positive]
    exact Nat.lt_irrefl _

/-- A result of a request whose prompt has as many bytes as a chunk is refused by its sender, and so is the terminal of
    a run whose index has more digits than a header may have bytes. -/
theorem gather_raises : ¬ Lossless (promptWorld (longPrompt resultChunkBytes) longPrompt_short) ∧
    ¬ Lossless (idleWorld (10 ^ mpiHeaderBytes)) := by
  constructor
  · intro whole
    have fits := (sends_fit (whole.senders 1 Nat.one_pos Nat.one_lt_two)).1
    exact longPrompt_large (fits _ List.mem_cons_self)
  · intro whole
    have bound := (sends_fit (whole.senders 1 Nat.one_pos Nat.one_lt_two)).2 _ List.mem_cons_self
    have digits := digits_length mpiHeaderBytes
    have field : (Json.dumps (.int (10 ^ mpiHeaderBytes : Nat))).length <
        (headerBytes (Message.terminal (10 ^ mpiHeaderBytes) 0 0 (evidenceOf 1 0 [])).header).length := by
      rw [headerBytes, Json.bytes_length]
      exact @Json.dumps_field_length _ "run_index" _ (List.mem_cons_of_mem _ (List.mem_cons_of_mem _ List.mem_cons_self))
    exact absurd (lt_trans digits field) (not_lt.mpr bound)

end Large

end ExaServe.Replay.Gather
