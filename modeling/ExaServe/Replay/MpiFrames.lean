import ExaServe.Control.Transport.FrameRoundTrip
import ExaServe.Lib.Except
import ExaServe.Lib.JsonLines
import ExaServe.Replay.Trace

namespace ExaServe.Replay

open Lib

@[irreducible] def resultChunkBytes : Nat := 2 ^ 20

@[irreducible] def summaryBytes : Nat := 2 ^ 20

@[irreducible] def mpiHeaderBytes : Nat := 4 * 2 ^ 10

def mpiPayloadBytes : Nat := max resultChunkBytes summaryBytes

def mpiFrameBytes : Nat := 4 + mpiHeaderBytes + mpiPayloadBytes

/-- A message of the result protocol. -/
inductive Message where
  | data (runIndex sequence : Nat) (content : Bytes)
  | summary (runIndex rank : Nat) (content : Bytes)
  | terminal (runIndex chunks records : Nat) (evidence : List (String × Json))

namespace Message

def kind : Message → String
  | data .. => "data"
  | summary .. => "summary"
  | terminal .. => "end"

def runIndex : Message → Nat
  | data runIndex _ _ | summary runIndex _ _ | terminal runIndex _ _ _ => runIndex

def content : Message → Bytes
  | data _ _ content | summary _ _ content => content
  | terminal .. => []

def header : Message → List (String × Json)
  | data runIndex sequence content =>
    [("schema_version", .int 1), ("kind", .str "data"), ("run_index", .int runIndex), ("sequence", .int sequence),
      ("payload_bytes", .int content.length)]
  | summary runIndex rank content =>
    [("schema_version", .int 1), ("kind", .str "summary"), ("run_index", .int runIndex), ("rank", .int rank),
      ("payload_bytes", .int content.length)]
  | terminal runIndex chunks records evidence =>
    [("schema_version", .int 1), ("kind", .str "end"), ("run_index", .int runIndex), ("chunks", .int chunks),
      ("records", .int records), ("evidence", .obj evidence), ("payload_bytes", .int 0)]

end Message

/-- The bytes of a header. -/
def headerBytes (fields : List (String × Json)) : Bytes := Json.bytes (.obj fields)

def integerFields : String → Option (List String)
  | "data" => some ["run_index", "sequence", "payload_bytes"]
  | "summary" => some ["run_index", "rank", "payload_bytes"]
  | "end" => some ["run_index", "chunks", "records", "payload_bytes"]
  | _ => none

/-- The names of a header's fields. -/
def headerNames (kind : String) (integers : List String) : List String :=
  ["schema_version", "kind"] ++ integers ++ if kind = "end" then ["evidence"] else []

def isCount : Option Json → Bool
  | some (.int value) => 0 ≤ value
  | _ => false

def countAt (fields : List (String × Json)) (name : String) : Nat :=
  match Json.lookup name fields with
  | some (.int value) => value.toNat
  | _ => 0

def isVersion : Option Json → Bool
  | some (.int value) => value = 1
  | _ => false

/-- The checks of a header on its own. -/
def checkHeader (encoded : Bytes) (fields : List (String × Json)) : Except Failure String :=
  match Json.lookup "kind" fields with
  | some (.str kind) => match integerFields kind with
    | some integers => do
      ensure (Json.sameNames fields (headerNames kind integers) = true ∧
        isVersion (Json.lookup "schema_version" fields) = true ∧
        (integers.all fun name => isCount (Json.lookup name fields)) = true ∧ headerBytes fields = encoded)
        (.value "MPI message header has invalid or non-canonical fields")
      return kind
    | none => .error (.value "MPI message header has an unknown kind")
  | _ => .error (.value "MPI message header has an unknown kind")

/-- What a message is, once its header was checked. -/
def messageOf (kind : String) (fields : List (String × Json)) (content : Bytes) : Except Failure Message :=
  if content.length ≠ countAt fields "payload_bytes" then
    .error (.value "MPI message payload length disagrees with its header")
  else if kind = "end" then
    match Json.lookup "evidence" fields with
    | some (.obj evidence) =>
      if content = [] then
        .ok (.terminal (countAt fields "run_index") (countAt fields "chunks") (countAt fields "records") evidence)
      else .error (.value "MPI terminal must have evidence and no payload")
    | _ => .error (.value "MPI terminal must have evidence and no payload")
  else if content = [] ∨ (if kind = "data" then resultChunkBytes else summaryBytes) < content.length then
    .error (.value "MPI message payload is empty or exceeds its byte bound")
  else if kind = "data" then .ok (.data (countAt fields "run_index") (countAt fields "sequence") content)
  else .ok (.summary (countAt fields "run_index") (countAt fields "rank") content)

/-- `_decode_mpi_message`. -/
def decodeMpiMessage (frame : Bytes) : Except Failure Message :=
  if ¬ (4 < frame.length ∧ frame.length ≤ mpiFrameBytes) then
    .error (.value "MPI message frame is truncated or exceeds its byte bound")
  else
    let headerSize := Control.unpackLength (frame.take 4)
    if ¬ (0 < headerSize ∧ headerSize ≤ mpiHeaderBytes) ∨ frame.length < 4 + headerSize then
      .error (.value "MPI message header is truncated or exceeds its byte bound")
    else
      let encoded := (frame.drop 4).take headerSize
      match decodeUtf8 encoded with
      | none => .error .unicode
      | some text => match Json.loads text with
        | some (.obj fields) => do
          let kind ← checkHeader encoded fields
          messageOf kind fields ((frame.drop 4).drop headerSize)
        | some _ => .error (.value "MPI message header must be an object")
        | none => .error (.value "invalid JSON")

def frameOf (message : Message) : Bytes :=
  Sha256.bigEndian 4 (headerBytes message.header).length ++ (headerBytes message.header ++ message.content)

/-- `_encode_mpi_message`. -/
def encodeMpiMessage (message : Message) : Except Failure Bytes := do
  ensure (message.content.length ≤ mpiPayloadBytes) (.value "MPI message payload exceeds its byte bound")
  ensure (headerBytes message.header ≠ [] ∧ (headerBytes message.header).length ≤ mpiHeaderBytes)
    (.value "MPI message header exceeds its byte bound")
  let _ ← decodeMpiMessage (frameOf message)
  return frameOf message

section RoundTrip

/-- A message as its receiver sees it. -/
def Message.stored : Message → Message
  | .terminal runIndex chunks records evidence =>
    .terminal runIndex chunks records (Json.sortFields (Json.canonicalFields evidence))
  | message => message

def Message.WellKeyed (message : Message) : Prop := Json.wellKeyed (.obj message.header) = true

theorem data_keyed (runIndex sequence : Nat) (content : Bytes) : (Message.data runIndex sequence content).WellKeyed := by
  simp [Message.WellKeyed, Message.header, Json.wellKeyed, Json.wellKeyedFields, Json.fieldNames]

theorem terminal_keyed (runIndex chunks records : Nat) {evidence : List (String × Json)}
    (keyed : Json.wellKeyed (.obj evidence) = true) : (Message.terminal runIndex chunks records evidence).WellKeyed := by
  simp only [Message.WellKeyed, Message.header, Json.wellKeyed, Json.wellKeyedFields] at keyed ⊢
  rw [keyed]
  simp [Json.fieldNames]

def Message.InBounds : Message → Prop
  | .data _ _ content => content ≠ [] ∧ content.length ≤ resultChunkBytes
  | .summary _ _ content => content ≠ [] ∧ content.length ≤ summaryBytes
  | .terminal .. => True

theorem header_distinct (message : Message) : (Json.fieldNames message.header).Nodup := by
  cases message <;> simp [Json.fieldNames, Message.header]

theorem headerBytes_stored (fields : List (String × Json)) :
    headerBytes (Json.sortFields (Json.canonicalFields fields)) = headerBytes fields :=
  Json.bytes_canonical (.obj fields)

theorem headerBytes_pos (fields : List (String × Json)) : 0 < (headerBytes fields).length := by
  rw [headerBytes, Json.bytes_length]
  exact Json.dumps_length_pos _

theorem lookup_header (message : Message) (name : String) :
    Json.lookup name (Json.sortFields (Json.canonicalFields message.header)) =
      (Json.lookup name message.header).map Json.canonical :=
  Json.lookup_stored (header_distinct message) name

theorem names_header (message : Message) (expected : List String) :
    Json.sameNames (Json.sortFields (Json.canonicalFields message.header)) expected =
      Json.sameNames message.header expected := by
  apply Json.sameNames_congr
  have perm := Json.fieldNames_sortFields (Json.canonicalFields message.header)
  rwa [Json.fieldNames_canonicalFields] at perm

theorem isCount_cast (count : Nat) : isCount (some (.int count)) = true := decide_eq_true (Int.natCast_nonneg count)

/-- The counts of a header are whole numbers. -/
theorem header_counts (message : Message) {integers : List String} (known : integerFields message.kind = some integers) :
    (integers.all fun name => isCount ((Json.lookup name message.header).map Json.canonical)) = true := by
  rw [List.all_eq_true]
  intro name member
  cases message with
  | data | summary =>
    cases known
    simp only [List.mem_cons, List.not_mem_nil, or_false] at member
    rcases member with rfl | rfl | rfl
    all_goals exact isCount_cast _
  | terminal =>
    cases known
    simp only [List.mem_cons, List.not_mem_nil, or_false] at member
    rcases member with rfl | rfl | rfl | rfl
    · exact isCount_cast _
    · exact isCount_cast _
    · exact isCount_cast _
    · rfl

theorem checkHeader_stored (message : Message) :
    checkHeader (headerBytes message.header) (Json.sortFields (Json.canonicalFields message.header)) =
      .ok message.kind := by
  unfold checkHeader
  simp only [lookup_header, names_header, headerBytes_stored]
  cases message with
  | data => exact ok_bind (ensure_ok ⟨rfl, rfl, header_counts (.data _ _ _) rfl, trivial⟩ _) _
  | summary => exact ok_bind (ensure_ok ⟨rfl, rfl, header_counts (.summary _ _ _) rfl, trivial⟩ _) _
  | terminal => exact ok_bind (ensure_ok ⟨rfl, rfl, header_counts (.terminal _ _ _ _) rfl, trivial⟩ _) _

theorem messageOf_stored (message : Message) : message.InBounds →
    messageOf message.kind (Json.sortFields (Json.canonicalFields message.header)) message.content =
      .ok message.stored := by
  intro bounds
  unfold messageOf countAt
  simp only [lookup_header]
  cases message with
  | data runIndex sequence content =>
    have small : ¬ (content = [] ∨ resultChunkBytes < content.length) := by
      rw [not_or, not_lt]
      exact bounds
    simp [Message.header, Json.lookup, Json.canonical, Message.kind, Message.content, Message.stored, small]
  | summary runIndex rank content =>
    have small : ¬ (content = [] ∨ summaryBytes < content.length) := by
      rw [not_or, not_lt]
      exact bounds
    simp [Message.header, Json.lookup, Json.canonical, Message.kind, Message.content, Message.stored, small]
  | terminal runIndex chunks records evidence =>
    simp [Message.header, Json.lookup, Json.canonical, Message.kind, Message.content, Message.stored]

theorem messageOf_bounds {message : Message} {result : Message}
    (made : messageOf message.kind (Json.sortFields (Json.canonicalFields message.header)) message.content = .ok result) :
    message.InBounds := by
  unfold messageOf countAt at made
  simp only [lookup_header] at made
  by_contra outside
  cases message with
  | terminal => exact outside trivial
  | data runIndex sequence content =>
    have large : content = [] ∨ resultChunkBytes < content.length := by
      by_contra small
      rw [not_or, not_lt] at small
      exact outside small
    simp [Message.header, Json.lookup, Json.canonical, Message.kind, Message.content, large] at made
  | summary runIndex rank content =>
    have large : content = [] ∨ summaryBytes < content.length := by
      by_contra small
      rw [not_or, not_lt] at small
      exact outside small
    simp [Message.header, Json.lookup, Json.canonical, Message.kind, Message.content, large] at made

theorem messageOf_length {message result : Message} {content : Bytes}
    (made : messageOf message.kind (Json.sortFields (Json.canonicalFields message.header)) content = .ok result) :
    content.length = message.content.length := by
  unfold messageOf at made
  split_ifs at made with other
  all_goals
    have announced : countAt (Json.sortFields (Json.canonicalFields message.header)) "payload_bytes" =
        message.content.length := by
      unfold countAt
      rw [lookup_header]
      cases message <;> rfl
    rw [announced] at other
    exact not_not.mp other

theorem frameOf_front (message : Message) :
    (frameOf message).take 4 = Sha256.bigEndian 4 (headerBytes message.header).length := List.take_left' rfl

theorem frameOf_length (message : Message) :
    (frameOf message).length = 4 + (headerBytes message.header).length + message.content.length := by
  simp [frameOf, Sha256.bigEndian]
  omega

/-- A frame whose header arrived whole is read on to the checks of its payload. -/
theorem decode_header {message : Message} {content : Bytes} (keyed : message.WellKeyed)
    (header : (headerBytes message.header).length ≤ mpiHeaderBytes) (payload : content.length ≤ mpiPayloadBytes) :
    decodeMpiMessage (Sha256.bigEndian 4 (headerBytes message.header).length ++ (headerBytes message.header ++ content)) =
      messageOf message.kind (Json.sortFields (Json.canonicalFields message.header)) content := by
  have some_header := headerBytes_pos message.header
  have width : (Sha256.bigEndian 4 (headerBytes message.header).length ++ (headerBytes message.header ++ content)).length =
      4 + (headerBytes message.header).length + content.length := by
    simp [Sha256.bigEndian]
    omega
  have announced : Control.unpackLength (Sha256.bigEndian 4 (headerBytes message.header).length) =
      (headerBytes message.header).length := by
    apply Control.unpack_bigEndian
    unfold mpiHeaderBytes at header
    omega
  have text : decodeUtf8 (headerBytes message.header) = some (Json.dumps (.obj message.header)) :=
    Json.decodeUtf8_bytes _
  have front : (Sha256.bigEndian 4 (headerBytes message.header).length ++ (headerBytes message.header ++ content)).take 4 =
      Sha256.bigEndian 4 (headerBytes message.header).length := List.take_left' rfl
  have back : (Sha256.bigEndian 4 (headerBytes message.header).length ++ (headerBytes message.header ++ content)).drop 4 =
      headerBytes message.header ++ content := List.drop_left' rfl
  unfold decodeMpiMessage
  rw [if_neg, front, back, announced]
  · simp only [List.take_left', List.drop_left']
    rw [if_neg, text]
    · simp only [Json.loads_dumps keyed, Json.canonical]
      exact ok_bind (checkHeader_stored message) _
    · omega
  · unfold mpiFrameBytes
    omega

theorem decode_frameOf {message : Message} (keyed : message.WellKeyed)
    (header : (headerBytes message.header).length ≤ mpiHeaderBytes) (payload : message.content.length ≤ mpiPayloadBytes) :
    decodeMpiMessage (frameOf message) =
      messageOf message.kind (Json.sortFields (Json.canonicalFields message.header)) message.content :=
  decode_header keyed header payload

/-- What was encoded is decoded. -/
theorem decode_encode {message : Message} {frame : Bytes} (keyed : message.WellKeyed)
    (encoded : encodeMpiMessage message = .ok frame) :
    frame = frameOf message ∧ (headerBytes message.header).length ≤ mpiHeaderBytes ∧
      decodeMpiMessage frame = .ok message.stored := by
  obtain ⟨_, payload, encoded⟩ := bind_ok encoded
  obtain ⟨_, header, encoded⟩ := bind_ok encoded
  obtain ⟨result, decoded, encoded⟩ := bind_ok encoded
  cases encoded
  have fits := (ensure_holds header).2
  have opened := decode_frameOf keyed fits (ensure_holds payload)
  refine ⟨rfl, fits, ?_⟩
  rw [opened] at decoded ⊢
  exact messageOf_stored message (messageOf_bounds decoded)

theorem Message.InBounds.payload {message : Message} (bounds : message.InBounds) :
    message.content.length ≤ mpiPayloadBytes := by
  unfold mpiPayloadBytes
  cases message with
  | data => exact le_trans bounds.2 (Nat.le_max_left _ _)
  | summary => exact le_trans bounds.2 (Nat.le_max_right _ _)
  | terminal => exact Nat.zero_le _

theorem encode_ok {message : Message} (keyed : message.WellKeyed) (bounds : message.InBounds)
    (header : (headerBytes message.header).length ≤ mpiHeaderBytes) :
    encodeMpiMessage message = .ok (frameOf message) := by
  have some_header := List.ne_nil_of_length_pos (headerBytes_pos message.header)
  have decoded := decode_frameOf keyed header bounds.payload
  rw [messageOf_stored message bounds] at decoded
  unfold encodeMpiMessage
  rw [ok_bind (ensure_ok bounds.payload _), ok_bind (ensure_ok ⟨some_header, header⟩ _), ok_bind decoded]
  rfl

/-- A frame that lost its end is refused. -/
theorem decode_truncated {message : Message} (keyed : message.WellKeyed)
    (header : (headerBytes message.header).length ≤ mpiHeaderBytes) (payload : message.content.length ≤ mpiPayloadBytes)
    {size : Nat} (short : size < (frameOf message).length) (result : Message) :
    decodeMpiMessage ((frameOf message).take size) ≠ .ok result := by
  intro decoded
  have width := frameOf_length message
  by_cases whole : 4 + (headerBytes message.header).length ≤ size
  · have kept : (frameOf message).take size = Sha256.bigEndian 4 (headerBytes message.header).length ++
        (headerBytes message.header ++ message.content.take (size - 4 - (headerBytes message.header).length)) := by
      rw [frameOf, List.take_append, List.take_of_length_le (show 4 ≤ size by omega), List.take_append,
        List.take_of_length_le (show (headerBytes message.header).length ≤ _ by simp only [Sha256.bigEndian, List.length_cons, List.length_nil]; omega)]
      rfl
    have less : (message.content.take (size - 4 - (headerBytes message.header).length)).length < message.content.length := by
      rw [List.length_take]
      omega
    rw [kept, decode_header keyed header (le_trans (Nat.le_of_lt less) payload)] at decoded
    exact absurd (messageOf_length decoded) (Nat.ne_of_lt less)
  · have taken : ((frameOf message).take size).length = size := by
      rw [List.length_take]
      omega
    unfold decodeMpiMessage at decoded
    rw [taken] at decoded
    split_ifs at decoded with frame
    have announced : Control.unpackLength (((frameOf message).take size).take 4) =
        (headerBytes message.header).length := by
      rw [List.take_take, min_eq_left (by omega), frameOf_front]
      apply Control.unpack_bigEndian
      unfold mpiHeaderBytes at header
      omega
    rw [announced] at decoded
    simp only at decoded
    rw [if_pos (Or.inr (not_le.mp whole))] at decoded
    cases decoded

end RoundTrip

end ExaServe.Replay
