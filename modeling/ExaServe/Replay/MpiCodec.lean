import ExaServe.Lib.JsonFloats
import ExaServe.Lib.JsonRepeats
import ExaServe.Replay.MpiFrames

namespace ExaServe.Replay.MpiCodec

open Lib

section Codec

/-- The checks of a header, whose floats are printed as they were read. -/
def checkHeader (encoded : Bytes) (read : List (String × Json)) : Except Failure (String × List (String × Json)) :=
  match Json.lookup "kind" read with
  | some (.str kind) => match integerFields kind with
    | some integers => do
      ensure (Json.sameNames read (headerNames kind integers) = true ∧
        isVersion (Json.lookup "schema_version" read) = true ∧
        (integers.all fun name => isCount (Json.lookup name read)) = true)
        (Failure.value "MPI message header has invalid or non-canonical fields")
      match Json.printFields read with
      | none => .error (.value "Out of range float values are not JSON compliant")
      | some fields => do
        ensure (headerBytes fields = encoded)
          (Failure.value "MPI message header has invalid or non-canonical fields")
        return (kind, fields)
    | none => .error (.value "MPI message header has an unknown kind")
  | _ => .error (.value "MPI message header has an unknown kind")

/-- `_decode_mpi_message` -/
def decodeMpiMessage (frame : Bytes) : Except Failure Message :=
  if ¬ (4 < frame.length ∧ frame.length ≤ mpiFrameBytes) then
    .error (.value "MPI message frame is truncated or exceeds its byte bound")
  else
    let headerSize := Control.unpackLength (frame.take 4)
    if ¬ (0 < headerSize ∧ headerSize ≤ mpiHeaderBytes) ∨ frame.length < 4 + headerSize then
      .error (.value "MPI message header is truncated or exceeds its byte bound")
    else
      let encoded := (frame.drop 4).take headerSize
      match decodeUtf8 encoded with
      | none => .error .unicode
      | some text => match Json.loads text with
        | some (.obj read) => do
          let (kind, fields) ← checkHeader encoded read
          messageOf kind fields ((frame.drop 4).drop headerSize)
        | some _ => .error (.value "MPI message header must be an object")
        | none => .error (.value "invalid JSON")

/-- `_encode_mpi_message` -/
def encodeMpiMessage (message : Message) : Except Failure Bytes := do
  ensure (message.content.length ≤ mpiPayloadBytes) (Failure.value "MPI message payload exceeds its byte bound")
  ensure (headerBytes message.header ≠ [] ∧ (headerBytes message.header).length ≤ mpiHeaderBytes)
    (Failure.value "MPI message header exceeds its byte bound")
  let _ ← decodeMpiMessage (frameOf message)
  return frameOf message

/-- The evidence of a message is a JSON object: no key twice, each float as it is printed. -/
def evidenceFit : Message → Prop
  | .terminal _ _ _ evidence => Json.wellKeyed (.obj evidence) = true ∧ Json.FloatsPrinted (.obj evidence)
  | _ => True

end Codec

section Frames

/-- The parts of a frame: the length of its header, the header and the payload. -/
structure Opened (frame encoded : Bytes) (read : List (String × Json)) (content : Bytes) : Prop where
  bound : frame.length ≤ mpiFrameBytes
  header : 0 < encoded.length ∧ encoded.length ≤ mpiHeaderBytes
  parts : frame = Sha256.bigEndian 4 encoded.length ++ (encoded ++ content)
  text : (decodeUtf8 encoded).bind Json.loads = some (.obj read)

theorem bigEndian_length (n : Nat) : (Sha256.bigEndian 4 n).length = 4 := rfl

theorem bigEndian_unpack {header : Bytes} (four : header.length = 4) :
    Sha256.bigEndian 4 (Control.unpackLength header) = header := by
  match header, four with
  | [a, b, c, d], _ =>
    have ha := a.toNat_lt
    have hb := b.toNat_lt
    have hc := c.toNat_lt
    have hd := d.toNat_lt
    simp only [Sha256.bigEndian, Control.unpackLength, List.foldl_cons, List.foldl_nil, List.cons.injEq, and_true]
    refine ⟨?_, ?_, ?_, ?_⟩
    all_goals
      apply UInt8.toNat_inj.mp
      rw [UInt8.toNat_ofNat']
      omega

variable {frame encoded content : Bytes} {read : List (String × Json)}

/-- A frame is decoded by its parts. -/
theorem decode_opened (opened : Opened frame encoded read content) :
    decodeMpiMessage frame = checkHeader encoded read >>= fun checked => messageOf checked.1 checked.2 content := by
  have width : frame.length = 4 + encoded.length + content.length := by
    rw [opened.parts, List.length_append, List.length_append, bigEndian_length]
    omega
  have positive := opened.header.1
  have announced : Control.unpackLength (frame.take 4) = encoded.length := by
    have small := opened.header.2
    rw [opened.parts, List.take_left' (bigEndian_length _)]
    apply Control.unpack_bigEndian
    unfold mpiHeaderBytes at small
    omega
  have back : frame.drop 4 = encoded ++ content := by
    rw [opened.parts]
    exact List.drop_left' (bigEndian_length _)
  obtain ⟨text, decoded, loaded⟩ := Option.bind_eq_some_iff.mp opened.text
  unfold decodeMpiMessage
  rw [if_neg (not_not.mpr ⟨by omega, opened.bound⟩), announced, back]
  simp only [List.take_left', List.drop_left']
  rw [if_neg (by have := opened.header; omega), decoded]
  simp only [loaded]

/-- What is decoded has its parts. -/
theorem opened_of_decode {message : Message} (decoded : decodeMpiMessage frame = .ok message) :
    ∃ encoded read content, Opened frame encoded read content := by
  unfold decodeMpiMessage at decoded
  split_ifs at decoded with bounds
  simp only at decoded
  split_ifs at decoded with sizes
  rw [not_or, not_not, not_lt] at sizes
  have length : ((frame.drop 4).take (Control.unpackLength (frame.take 4))).length =
      Control.unpackLength (frame.take 4) := by
    rw [List.length_take, List.length_drop]
    omega
  have four : (frame.take 4).length = 4 := by
    rw [List.length_take]
    omega
  have parts : frame = Sha256.bigEndian 4 ((frame.drop 4).take (Control.unpackLength (frame.take 4))).length ++
      ((frame.drop 4).take (Control.unpackLength (frame.take 4)) ++
        (frame.drop 4).drop (Control.unpackLength (frame.take 4))) := by
    rw [length, bigEndian_unpack four, List.take_append_drop, List.take_append_drop]
  cases text : decodeUtf8 ((frame.drop 4).take (Control.unpackLength (frame.take 4))) with
  | none =>
    rw [text] at decoded
    cases decoded
  | some read =>
    cases loaded : Json.loads read with
    | none =>
      simp only [text, loaded] at decoded
      cases decoded
    | some value =>
      cases value with
      | obj fields =>
        refine ⟨_, fields, _, bounds.2, ?_, parts, ?_⟩
        · rw [length]
          exact sizes.1
        · rw [text]
          exact loaded
      | null | bool | int | float | str | arr =>
        simp only [text, loaded] at decoded
        cases decoded

end Frames

section Decode

variable {message : Message}

theorem keyed_of_fit (fit : evidenceFit message) : message.WellKeyed := by
  cases message with
  | data => exact data_keyed _ _ _
  | summary =>
    simp [Message.WellKeyed, Message.header, Json.wellKeyed, Json.wellKeyedFields, Json.fieldNames]
  | terminal => exact terminal_keyed _ _ _ fit.1

theorem header_printed (fit : evidenceFit message) : Json.FloatsPrinted (.obj message.header) := by
  rw [Json.floatsPrinted_obj_iff]
  intro field member
  cases message with
  | data | summary =>
    simp only [Message.header, List.mem_cons, List.not_mem_nil, or_false] at member
    rcases member with rfl | rfl | rfl | rfl | rfl
    all_goals rfl
  | terminal =>
    simp only [Message.header, List.mem_cons, List.not_mem_nil, or_false] at member
    rcases member with rfl | rfl | rfl | rfl | rfl | rfl | rfl
    · rfl
    · rfl
    · rfl
    · rfl
    · rfl
    · exact fit.2
    · rfl

/-- The header of a message with printed floats passes as it did. -/
theorem checkHeader_stored (fit : evidenceFit message) :
    checkHeader (headerBytes message.header) (Json.sortFields (Json.canonicalFields message.header)) =
      .ok (message.kind, Json.sortFields (Json.canonicalFields message.header)) := by
  have printed : Json.printFields (Json.sortFields (Json.canonicalFields message.header)) =
      some (Json.sortFields (Json.canonicalFields message.header)) := by
    have whole := Json.floatsPrinted_canonical _ (header_printed fit)
    rw [Json.canonical, Json.FloatsPrinted, Json.printFloats] at whole
    obtain ⟨fields, found, same⟩ := Option.map_eq_some_iff.mp whole
    rw [found, Json.obj.inj same]
  unfold checkHeader
  simp only [lookup_header, names_header, printed, headerBytes_stored]
  cases message with
  | data => exact ok_bind (ensure_ok ⟨rfl, rfl, header_counts (.data _ _ _) rfl⟩ _) _
  | summary => exact ok_bind (ensure_ok ⟨rfl, rfl, header_counts (.summary _ _ _) rfl⟩ _) _
  | terminal => exact ok_bind (ensure_ok ⟨rfl, rfl, header_counts (.terminal _ _ _ _) rfl⟩ _) _

theorem opened_frameOf (fit : evidenceFit message) (header : (headerBytes message.header).length ≤ mpiHeaderBytes)
    (payload : message.content.length ≤ mpiPayloadBytes) :
    Opened (frameOf message) (headerBytes message.header) (Json.sortFields (Json.canonicalFields message.header))
      message.content := by
  constructor
  case bound =>
    rw [frameOf_length]
    unfold mpiFrameBytes
    omega
  case header => exact ⟨headerBytes_pos _, header⟩
  case parts => rfl
  case text =>
    have text : decodeUtf8 (headerBytes message.header) = some (Json.dumps (.obj message.header)) :=
      Json.decodeUtf8_bytes _
    rw [text, Option.bind_some, Json.loads_dumps (keyed_of_fit fit), Json.canonical]

theorem decode_frameOf (fit : evidenceFit message) (header : (headerBytes message.header).length ≤ mpiHeaderBytes)
    (payload : message.content.length ≤ mpiPayloadBytes) :
    decodeMpiMessage (frameOf message) =
      messageOf message.kind (Json.sortFields (Json.canonicalFields message.header)) message.content := by
  rw [decode_opened (opened_frameOf fit header payload), ok_bind (checkHeader_stored fit)]

/-- What was encoded is decoded, the keys of its evidence in order. -/
theorem decode_encode {frame : Bytes} (fit : evidenceFit message) (encoded : encodeMpiMessage message = .ok frame) :
    decodeMpiMessage frame = .ok message.stored := by
  obtain ⟨_, payload, encoded⟩ := bind_ok encoded
  obtain ⟨_, header, encoded⟩ := bind_ok encoded
  obtain ⟨result, decoded, encoded⟩ := bind_ok encoded
  cases encoded
  rw [decode_frameOf fit (ensure_holds header).2 (ensure_holds payload)] at decoded ⊢
  exact messageOf_stored message (messageOf_bounds decoded)

end Decode

section Encode

variable {message : Message} {encoded : Bytes} {read fields : List (String × Json)} {kind : String}

/-- What the checks say of a header. -/
structure Checked (encoded : Bytes) (read : List (String × Json)) (kind : String) (fields : List (String × Json)) :
    Prop where
  named : Json.lookup "kind" read = some (.str kind)
  names : ∃ integers, integerFields kind = some integers ∧ Json.sameNames read (headerNames kind integers) = true ∧
    ∀ name ∈ integers, isCount (Json.lookup name read) = true
  version : isVersion (Json.lookup "schema_version" read) = true
  printed : Json.printFields read = some fields
  bytes : headerBytes fields = encoded

theorem checked_of_header (passed : checkHeader encoded read = .ok (kind, fields)) :
    Checked encoded read kind fields := by
  unfold checkHeader at passed
  split at passed
  · split at passed
    · obtain ⟨_, shape, passed⟩ := bind_ok passed
      split at passed
      · cases passed
      · obtain ⟨_, bytes, passed⟩ := bind_ok passed
        cases passed
        obtain ⟨names, version, counts⟩ := ensure_holds shape
        rename_i integers _ _ _ named known _ printed
        exact ⟨named, ⟨integers, known, names, List.all_eq_true.mp counts⟩, version, printed, ensure_holds bytes⟩
    · cases passed
  · cases passed

/-- A whole number is printed as it was read. -/
theorem lookup_print (done : Json.printFields read = some fields) (name : String) :
    Json.lookup name fields = (Json.lookup name read).bind Json.printFloats := by
  have each := Json.printFields_forall₂ done
  clear done
  induction each with
  | nil => rfl
  | @cons field other rest shown same _ ih =>
    by_cases here : field.1 = name
    · rw [Json.lookup, Json.lookup, if_pos (same.1 ▸ here), if_pos here, Option.bind_some, same.2]
    · rw [Json.lookup, Json.lookup, if_neg (same.1 ▸ here), if_neg here, ih]

theorem count_shown (checked : Checked encoded read kind fields) {name : String}
    (count : isCount (Json.lookup name read) = true) :
    Json.lookup name fields = some (.int (countAt fields name)) := by
  have shown := lookup_print checked.printed name
  unfold isCount at count
  split at count
  · rename_i value found
    rw [found, Option.bind_some, Json.printFloats] at shown
    · rw [decide_eq_true_eq] at count
      rw [countAt, shown, Int.toNat_of_nonneg count]
    all_goals simp
  · cases count

theorem version_shown (checked : Checked encoded read kind fields) :
    Json.lookup "schema_version" fields = some (.int 1) := by
  have shown := lookup_print checked.printed "schema_version"
  have version := checked.version
  unfold isVersion at version
  split at version
  · rename_i value found
    rw [decide_eq_true_eq] at version
    rw [shown, found, version]
    rfl
  · cases version

theorem kind_shown (checked : Checked encoded read kind fields) : Json.lookup "kind" fields = some (.str kind) := by
  rw [lookup_print checked.printed, checked.named]
  rfl

/-- Fields that hold what the others hold, under no other name, are the same ones. -/
theorem perm_of_lookups {left right : List (String × Json)} (nodup : (Json.fieldNames left).Nodup)
    (distinct : (Json.fieldNames right).Nodup) (names : ∀ name ∈ Json.fieldNames left, name ∈ Json.fieldNames right)
    (each : ∀ field ∈ right, Json.lookup field.1 left = some field.2) : left.Perm right := by
  rw [List.perm_ext_iff_of_nodup nodup.of_map distinct.of_map]
  intro field
  constructor
  · intro member
    obtain ⟨other, inside, same⟩ := List.mem_map.mp (names field.1 (List.mem_map_of_mem member))
    have held := each other inside
    rw [same, (Json.lookup_eq_some_iff nodup field.1 field.2).mpr member] at held
    have whole : other = field := Prod.ext same (Option.some.inj held).symm
    exact whole ▸ inside
  · intro member
    exact (Json.lookup_eq_some_iff nodup field.1 field.2).mp (each field member)

theorem names_checked (checked : Checked encoded read kind fields) {integers : List String}
    (known : integerFields kind = some integers) :
    ∀ name ∈ Json.fieldNames fields, name ∈ headerNames kind integers := by
  obtain ⟨others, same, names, -⟩ := checked.names
  rw [known] at same
  cases same
  rw [Json.fieldNames_print checked.printed]
  rw [Json.sameNames, Bool.and_eq_true, List.all_eq_true] at names
  intro name member
  exact List.contains_iff_mem.mp (names.1 name member)

theorem kind_cases {integers : List String} (known : integerFields kind = some integers) :
    (kind = "data" ∧ integers = ["run_index", "sequence", "payload_bytes"]) ∨
    (kind = "summary" ∧ integers = ["run_index", "rank", "payload_bytes"]) ∨
    (kind = "end" ∧ integers = ["run_index", "chunks", "records", "payload_bytes"]) := by
  unfold integerFields at known
  split at known
  · exact .inl ⟨rfl, (Option.some.inj known).symm⟩
  · exact .inr (.inl ⟨rfl, (Option.some.inj known).symm⟩)
  · exact .inr (.inr ⟨rfl, (Option.some.inj known).symm⟩)
  · cases known

section Made

variable {content : Bytes}

theorem made_data (made : messageOf "data" fields content = .ok message) :
    content.length = countAt fields "payload_bytes" ∧ content.length ≤ resultChunkBytes ∧
      message = .data (countAt fields "run_index") (countAt fields "sequence") content := by
  unfold messageOf at made
  by_cases payload : content.length = countAt fields "payload_bytes"
  · rw [if_neg (not_not.mpr payload), if_neg (by decide), if_pos rfl, if_pos rfl] at made
    split_ifs at made with bounds
    cases made
    rw [not_or, not_lt] at bounds
    exact ⟨payload, bounds.2, rfl⟩
  · rw [if_pos payload] at made
    cases made

theorem made_summary (made : messageOf "summary" fields content = .ok message) :
    content.length = countAt fields "payload_bytes" ∧ content.length ≤ summaryBytes ∧
      message = .summary (countAt fields "run_index") (countAt fields "rank") content := by
  unfold messageOf at made
  by_cases payload : content.length = countAt fields "payload_bytes"
  · have other : ¬ "summary" = "data" := by decide
    rw [if_neg (not_not.mpr payload), if_neg (by decide), if_neg other, if_neg other] at made
    split_ifs at made with bounds
    cases made
    rw [not_or, not_lt] at bounds
    exact ⟨payload, bounds.2, rfl⟩
  · rw [if_pos payload] at made
    cases made

theorem made_terminal (made : messageOf "end" fields content = .ok message) : ∃ evidence,
    content = [] ∧ countAt fields "payload_bytes" = 0 ∧ Json.lookup "evidence" fields = some (.obj evidence) ∧
      message = .terminal (countAt fields "run_index") (countAt fields "chunks")
        (countAt fields "records") evidence := by
  unfold messageOf at made
  by_cases payload : content.length = countAt fields "payload_bytes"
  · rw [if_neg (not_not.mpr payload), if_pos rfl] at made
    split at made
    · rename_i evidence found
      split_ifs at made with empty
      cases made
      rw [empty] at payload
      exact ⟨evidence, empty, payload.symm, found, rfl⟩
    · cases made
  · rw [if_pos payload] at made
    cases made

end Made

/-- The message of a checked header has this header, in some order of its fields. -/
theorem header_of_message (checked : Checked encoded read kind fields) (nodup : (Json.fieldNames fields).Nodup)
    {content : Bytes} (made : messageOf kind fields content = .ok message) :
    message.header.Perm fields ∧ message.content = content ∧ content.length ≤ mpiPayloadBytes := by
  obtain ⟨integers, known, -, counts⟩ := checked.names
  have count : ∀ name ∈ integers, Json.lookup name fields = some (.int (countAt fields name)) :=
    fun name member => count_shown checked (counts name member)
  have names := names_checked checked known
  have version := version_shown checked
  have named := kind_shown checked
  rcases kind_cases known with ⟨rfl, rfl⟩ | ⟨rfl, rfl⟩ | ⟨rfl, rfl⟩
  · obtain ⟨payload, bound, rfl⟩ := made_data made
    refine ⟨(perm_of_lookups nodup (header_distinct _) ?_ ?_).symm, rfl, bound.trans (Nat.le_max_left _ _)⟩
    · intro name member
      simpa [headerNames, Json.fieldNames, Message.header] using names name member
    · intro field member
      simp only [Message.header, List.mem_cons, List.not_mem_nil, or_false] at member
      rcases member with rfl | rfl | rfl | rfl | rfl
      · exact version
      · exact named
      · exact count "run_index" (by simp)
      · exact count "sequence" (by simp)
      · rw [payload]
        exact count "payload_bytes" (by simp)
  · obtain ⟨payload, bound, rfl⟩ := made_summary made
    refine ⟨(perm_of_lookups nodup (header_distinct _) ?_ ?_).symm, rfl, bound.trans (Nat.le_max_right _ _)⟩
    · intro name member
      simpa [headerNames, Json.fieldNames, Message.header] using names name member
    · intro field member
      simp only [Message.header, List.mem_cons, List.not_mem_nil, or_false] at member
      rcases member with rfl | rfl | rfl | rfl | rfl
      · exact version
      · exact named
      · exact count "run_index" (by simp)
      · exact count "rank" (by simp)
      · rw [payload]
        exact count "payload_bytes" (by simp)
  · obtain ⟨evidence, rfl, payload, found, rfl⟩ := made_terminal made
    refine ⟨(perm_of_lookups nodup (header_distinct _) ?_ ?_).symm, rfl, Nat.zero_le _⟩
    · intro name member
      have inside := names name member
      simp [headerNames, Json.fieldNames, Message.header] at inside ⊢
      tauto
    · intro field member
      simp only [Message.header, List.mem_cons, List.not_mem_nil, or_false] at member
      rcases member with rfl | rfl | rfl | rfl | rfl | rfl | rfl
      · exact version
      · exact named
      · exact count "run_index" (by simp)
      · exact count "chunks" (by simp)
      · exact count "records" (by simp)
      · exact found
      · have held := count "payload_bytes" (by simp)
        rwa [payload] at held

theorem fit_of_header (perm : message.header.Perm fields) (keyed : Json.wellKeyed (.obj fields) = true)
    (printed : Json.FloatsPrinted (.obj fields)) : evidenceFit message := by
  cases message with
  | data | summary => trivial
  | terminal runIndex chunks records evidence =>
    rw [Json.wellKeyed, Bool.and_eq_true, Json.wellKeyedFields_iff] at keyed
    rw [Json.floatsPrinted_obj_iff] at printed
    have inside : ("evidence", Json.obj evidence) ∈ fields := perm.mem_iff.mp (by simp [Message.header])
    exact ⟨keyed.2 _ inside, printed _ inside⟩

/-- A frame that is decoded is the one that its message is encoded to. -/
theorem encode_decode {frame : Bytes} (decoded : decodeMpiMessage frame = .ok message) :
    encodeMpiMessage message = .ok frame ∧ evidenceFit message := by
  obtain ⟨encoded, read, content, opened⟩ := opened_of_decode decoded
  have whole := decoded
  rw [decode_opened opened] at whole
  obtain ⟨⟨kind, fields⟩, passed, made⟩ := bind_ok whole
  have checked := checked_of_header passed
  obtain ⟨text, _, loaded⟩ := Option.bind_eq_some_iff.mp opened.text
  have shown : Json.printFloats (.obj read) = some (.obj fields) := by
    rw [Json.printFloats, checked.printed]
    rfl
  have keyed := Json.wellKeyed_print _ shown (Json.wellKeyed_decode (Json.decode_of_loads loaded))
  have nodup : (Json.fieldNames fields).Nodup := by
    rw [Json.wellKeyed, Bool.and_eq_true, decide_eq_true_eq] at keyed
    exact keyed.1
  obtain ⟨perm, same, bound⟩ := header_of_message checked nodup made
  have bytes : headerBytes message.header = encoded := by
    have text_same := Json.dumps_obj_perm perm (header_distinct message)
    rw [← checked.bytes, headerBytes, headerBytes, Json.bytes, Json.bytes, text_same]
  have framed : frameOf message = frame := by
    rw [frameOf, bytes, same, opened.parts]
  refine ⟨?_, fit_of_header perm keyed (Json.floatsPrinted_print _ shown)⟩
  have header : headerBytes message.header ≠ [] ∧ (headerBytes message.header).length ≤ mpiHeaderBytes := by
    rw [bytes]
    exact ⟨List.ne_nil_of_length_pos opened.header.1, opened.header.2⟩
  unfold encodeMpiMessage
  rw [ok_bind (ensure_ok (same ▸ bound) _), ok_bind (ensure_ok header _), framed, ok_bind decoded]
  rfl

end Encode

section Bijection

/-- Equality of messages as of tuples: their evidence is equal in whatever order of its keys. -/
def pyEq : Message → Message → Bool
  | .data runIndex sequence content, .data otherRun otherSequence otherContent =>
    runIndex == otherRun && (sequence == otherSequence && content == otherContent)
  | .summary runIndex rank content, .summary otherRun otherRank otherContent =>
    runIndex == otherRun && (rank == otherRank && content == otherContent)
  | .terminal runIndex chunks records evidence, .terminal otherRun otherChunks otherRecords otherEvidence =>
    runIndex == otherRun && (chunks == otherChunks && (records == otherRecords &&
      Json.pyEq (.obj evidence) (.obj otherEvidence)))
  | _, _ => false

theorem pyEq_stored {message : Message} (fit : evidenceFit message) : pyEq message.stored message = true := by
  cases message with
  | data | summary => simp [Message.stored, pyEq]
  | terminal runIndex chunks records evidence =>
    have same := Json.pyEq_canonical (.obj evidence) fit.1
    rw [Json.canonical] at same
    simp [Message.stored, pyEq, same]

theorem frame_bound {frame : Bytes} {message : Message} (decoded : decodeMpiMessage frame = .ok message) :
    frame.length ≤ mpiFrameBytes := by
  obtain ⟨_, _, _, opened⟩ := opened_of_decode decoded
  exact opened.bound

end Bijection

end ExaServe.Replay.MpiCodec
