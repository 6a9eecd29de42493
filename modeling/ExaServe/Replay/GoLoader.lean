import ExaServe.Lib.Except
import ExaServe.Lib.JsonCanonical
import ExaServe.Lib.JsonSpaced
import ExaServe.Replay.Trace
import Mathlib.Data.List.ReduceOption
import Mathlib.Data.List.Infix

namespace ExaServe.Replay

open Lib

section Writer

def encodedFields (request : TraceRequest) : List (String × Json) :=
  [("timestamp", .float request.timestamp), ("model", .str request.model), ("mode", .str request.mode),
    ("prompt", .str request.prompt), ("input_len", .int request.inputLen), ("output_len", .int request.outputLen),
    ("tensor_parallel_size", .int request.tensorParallelSize), ("req_id", .str request.reqId)]

/-- One line of a partition file. -/
def encodeRequest (request : TraceRequest) : List Char := Json.dumpsSpaced (encodedFields request)

/-- `_write_trace_partition`: the text of the file. -/
def writeTracePartition (requests : List TraceRequest) : List Char :=
  requests.flatMap fun request => encodeRequest request ++ ['\n']

end Writer

section Loader

/-- A request of the Go client, less the body and the endpoint that it makes of it. -/
structure PreparedRequest where
  timestamp : ℚ
  model : String
  mode : String
  prompt : String
  inputLen : Int
  outputLen : Int
  tensorParallelSize : Int
  reqId : String
  deriving DecidableEq

def goText : Option Json → Option String
  | none | some .null => some ""
  | some (.str text) => some text
  | some _ => none

/-- An `int` of 64 bits. -/
def goInt : Option Json → Option Int
  | none | some .null => some 0
  | some (.int value) => if -2 ^ 63 ≤ value ∧ value < 2 ^ 63 then some value else none
  | some _ => none

def goNumber : Option Json → Option ℚ
  | none | some .null => some 0
  | some (.int value) => some value
  | some (.float value) => some value.value
  | some _ => none

def decodeRequest (fields : List (String × Json)) : Option PreparedRequest := do
  let field (name : String) : Option Json := Json.lookup name fields
  return {
    timestamp := ← goNumber (field "timestamp")
    model := ← goText (field "model")
    mode := ← goText (field "mode")
    prompt := ← goText (field "prompt")
    inputLen := ← goInt (field "input_len")
    outputLen := ← goInt (field "output_len")
    tensorParallelSize := ← goInt (field "tensor_parallel_size")
    reqId := ← goText (field "req_id") }

/-- `json.Unmarshal` of a line. -/
def unmarshal (line : List Char) : Option PreparedRequest :=
  match Json.loads line with
  | some (.obj fields) => decodeRequest fields
  | some .null => some ⟨0, "", "", "", 0, 0, 0, ""⟩
  | _ => none

@[irreducible] def scannerBytes : Nat := 16 * 1024 * 1024

/-- The lines that `bufio.ScanLines` finds, with their carriage returns. -/
def scanLines : List Char → List (List Char)
  | [] => []
  | c :: rest =>
    if c = '\n' then [] :: scanLines rest
    else match scanLines rest with
      | [] => [[c]]
      | line :: others => (c :: line) :: others

def dropCarriageReturn (line : List Char) : List Char := if line.getLast? = some '\r' then line.dropLast else line

def typeWord : List Char := "__type__".toList

/-- One turn of the scanner's loop. -/
def loadRow (line : List Char) : Except String (Option PreparedRequest) :=
  if scannerBytes ≤ (String.ofList line).utf8ByteSize then .error "reading trace file: bufio.Scanner: token too long"
  else if dropCarriageReturn line = [] ∨ Json.quotedWord typeWord <:+: dropCarriageReturn line then .ok none
  else match unmarshal (dropCarriageReturn line) with
    | some request => .ok (some request)
    | none => .error "malformed trace line"

/-- `loadRequests`. -/
def loadRequests (file : List Char) : Except String (List PreparedRequest) := do
  let rows ← (scanLines file).mapM loadRow
  return rows.reduceOption

end Loader

section RoundTrip

/-- The request that the client is meant to load. -/
def prepared (request : TraceRequest) : PreparedRequest where
  timestamp := request.timestamp.value
  model := request.model
  mode := request.mode
  prompt := request.prompt
  inputLen := request.inputLen
  outputLen := request.outputLen
  tensorParallelSize := request.tensorParallelSize
  reqId := request.reqId

/-- The line is short enough for the scanner. -/
def Short (request : TraceRequest) : Prop := (String.ofList (encodeRequest request)).utf8ByteSize < scannerBytes

/-- One of the texts is taken for the type of a metadata row: it is `__type__`, or ends with it behind a quote. -/
def Marked (request : TraceRequest) : Prop :=
  Json.lastSegment request.model.toList = typeWord ∨ Json.lastSegment request.mode.toList = typeWord ∨
    Json.lastSegment request.prompt.toList = typeWord ∨ Json.lastSegment request.reqId.toList = typeWord

instance (request : TraceRequest) : Decidable (Marked request) := inferInstanceAs (Decidable (_ ∨ _ ∨ _ ∨ _))

/-- The numbers fit into the integers of the client. -/
def Fits (request : TraceRequest) : Prop :=
  request.inputLen < 2 ^ 63 ∧ request.outputLen < 2 ^ 63 ∧ request.tensorParallelSize < 2 ^ 63

instance (request : TraceRequest) : Decidable (Fits request) := inferInstanceAs (Decidable (_ ∧ _ ∧ _))

theorem leaf_int (value : Int) : Json.Leaf (.int value) :=
  .number (fun c listed => (Json.intText_chars value c listed).1) (fun _ => Json.noConfusion)

theorem leaf_float (value : FloatText) : Json.Leaf (.float value) :=
  .number (Json.float_chars value) (fun _ => Json.noConfusion)

theorem encoded_leaves (request : TraceRequest) : ∀ field ∈ encodedFields request, Json.Leaf field.2 := by
  have int := leaf_int
  have text := Json.Leaf.text
  simp [encodedFields, leaf_float, int, text]

theorem encoded_visible (request : TraceRequest) : Json.Visible (encodeRequest request) := by
  apply Json.dumpsSpaced_visible
  intro field listed
  have leaf := encoded_leaves request field listed
  generalize field.2 = value at leaf ⊢
  cases leaf with
  | text text => exact Json.quote_visible text
  | number chars _ => exact Json.number_visible chars

theorem scanLines_line {line : List Char} (one : '\n' ∉ line) (rest : List Char) :
    scanLines (line ++ '\n' :: rest) = line :: scanLines rest := by
  induction line with
  | nil => rw [List.nil_append, scanLines, if_pos rfl]
  | cons c line ih =>
    rw [List.mem_cons, not_or] at one
    rw [List.cons_append, scanLines, if_neg (Ne.symm one.1), ih one.2]

theorem scanLines_partition (requests : List TraceRequest) :
    scanLines (writeTracePartition requests) = requests.map encodeRequest := by
  unfold writeTracePartition
  induction requests with
  | nil => rfl
  | cons request rest ih =>
    rw [List.flatMap_cons, List.append_assoc, List.singleton_append, scanLines_line (encoded_visible request).one_line.1, ih,
      List.map_cons]

theorem marked_iff (request : TraceRequest) :
    Json.quotedWord typeWord <:+: encodeRequest request ↔ Marked request := by
  have keys : ∀ field ∈ encodedFields request, Json.lastSegment field.1.toList ≠ typeWord := by
    simp only [encodedFields, List.forall_mem_cons]
    refine ⟨by decide, by decide, by decide, by decide, by decide, by decide, by decide, by decide, ?_⟩
    exact fun _ listed => absurd listed List.not_mem_nil
  have some_field : encodedFields request ≠ [] := List.cons_ne_nil _ _
  have found : Json.quotedWord typeWord <:+: encodeRequest request ↔ _ :=
    Json.quotedWord_spaced (by decide) (by decide) (by decide) some_field (encoded_leaves request)
  have text (value : String) : Json.Shows typeWord (.str value) ↔ Json.lastSegment value.toList = typeWord := by
    simp [Json.Shows]
  have int (value : Int) : ¬ Json.Shows typeWord (.int value) := by
    simp [Json.Shows]
  have float (value : FloatText) : ¬ Json.Shows typeWord (.float value) := by
    simp [Json.Shows]
  have shown : (∃ field ∈ encodedFields request, Json.lastSegment field.1.toList = typeWord ∨ Json.Shows typeWord field.2) ↔
      ∃ field ∈ encodedFields request, Json.Shows typeWord field.2 :=
    exists_congr fun field => and_congr_right fun listed => or_iff_right (keys field listed)
  rw [found, shown]
  simp [encodedFields, Marked, text, int, float]

theorem encoded_distinct (request : TraceRequest) : (Json.fieldNames (encodedFields request)).Nodup := by
  simp [Json.fieldNames, encodedFields]

theorem encoded_loads (request : TraceRequest) :
    Json.loads (encodeRequest request) = some (.obj (encodedFields request)) := by
  have keyed : ∀ field ∈ encodedFields request, Json.wellKeyed field.2 = true := by
    simp [encodedFields, Json.wellKeyed]
  have some_field : encodedFields request ≠ [] := List.cons_ne_nil _ _
  rw [encodeRequest, Json.loads_spaced some_field (encoded_distinct request) fun field listed => Json.reads_wellKeyed _ (keyed field listed)]
  simp [encodedFields, Json.canonical]

theorem goInt_nat (value : Nat) : goInt (some (.int value)) = if value < 2 ^ 63 then some (value : Int) else none := by
  unfold goInt
  apply if_congr _ rfl rfl
  omega

theorem decode_encoded (request : TraceRequest) :
    decodeRequest (encodedFields request) = if Fits request then some (prepared request) else none := by
  have found (name : String) (value : Json) (listed : (name, value) ∈ encodedFields request) :
      Json.lookup name (encodedFields request) = some value :=
    (Json.lookup_eq_some_iff (encoded_distinct request) name value).mpr listed
  have decoded : decodeRequest (encodedFields request) =
      (goInt (some (.int request.inputLen))).bind fun inputLen =>
        (goInt (some (.int request.outputLen))).bind fun outputLen =>
          (goInt (some (.int request.tensorParallelSize))).bind fun tensorParallelSize =>
            some ⟨request.timestamp.value, request.model, request.mode, request.prompt, inputLen, outputLen, tensorParallelSize,
              request.reqId⟩ := by
    unfold decodeRequest
    simp -implicitDefEqProofs only [found "timestamp" (.float request.timestamp) (by simp [encodedFields]),
      found "model" (.str request.model) (by simp [encodedFields]), found "mode" (.str request.mode) (by simp [encodedFields]),
      found "prompt" (.str request.prompt) (by simp [encodedFields]),
      found "input_len" (.int request.inputLen) (by simp [encodedFields]),
      found "output_len" (.int request.outputLen) (by simp [encodedFields]),
      found "tensor_parallel_size" (.int request.tensorParallelSize) (by simp [encodedFields]),
      found "req_id" (.str request.reqId) (by simp [encodedFields]), goNumber, goText, Option.pure_def, Option.bind_eq_bind,
      Option.bind_some]
  rw [decoded, goInt_nat, goInt_nat, goInt_nat]
  by_cases fits : Fits request
  · obtain ⟨input, output, parallel⟩ := fits
    rw [if_pos input, if_pos output, if_pos parallel, if_pos ⟨input, output, parallel⟩]
    rfl
  · rw [if_neg fits]
    by_cases input : request.inputLen < 2 ^ 63
    · by_cases output : request.outputLen < 2 ^ 63
      · by_cases parallel : request.tensorParallelSize < 2 ^ 63
        · exact absurd ⟨input, output, parallel⟩ fits
        · rw [if_pos input, if_pos output, if_neg parallel]
          rfl
      · rw [if_pos input, if_neg output]
        rfl
    · rw [if_neg input]
      rfl

theorem unmarshal_encoded (request : TraceRequest) :
    unmarshal (encodeRequest request) = if Fits request then some (prepared request) else none := by
  rw [unmarshal, encoded_loads]
  exact decode_encoded request

/-- A line of a partition is loaded as the request it was written for, passed over, or refused. -/
theorem loadRow_encoded (request : TraceRequest) (row : Option PreparedRequest) :
    loadRow (encodeRequest request) = .ok row ↔
      Short request ∧ (¬ Marked request → Fits request) ∧ row = if Marked request then none else some (prepared request) := by
  have visible := encoded_visible request
  have kept : dropCarriageReturn (encodeRequest request) = encodeRequest request := by
    apply if_neg
    intro last
    exact visible.one_line.2 (List.mem_of_getLast? last)
  have some_text : encodeRequest request ≠ [] := List.cons_ne_nil _ _
  have seen : (dropCarriageReturn (encodeRequest request) = [] ∨
      Json.quotedWord typeWord <:+: dropCarriageReturn (encodeRequest request)) ↔ Marked request := by
    rw [kept, or_iff_right some_text, marked_iff]
  unfold loadRow Short
  rw [kept] at seen ⊢
  rw [unmarshal_encoded]
  by_cases short : scannerBytes ≤ (String.ofList (encodeRequest request)).utf8ByteSize
  · rw [if_pos short]
    constructor
    · intro done
      cases done
    · intro ended
      exact absurd short (not_le.mpr ended.1)
  · rw [if_neg short, and_iff_right (not_le.mp short)]
    by_cases marked : Marked request
    · rw [if_pos (seen.mpr marked), if_pos marked, and_iff_right fun unmarked => absurd marked unmarked, Except.ok.injEq]
      exact eq_comm
    · rw [if_neg (fun found => marked (seen.mp found)), if_neg marked]
      by_cases fits : Fits request
      · rw [if_pos fits, and_iff_right fun _ => fits]
        simp only [Except.ok.injEq]
        exact eq_comm
      · rw [if_neg fits]
        constructor
        · intro done
          cases done
        · intro ended
          exact absurd (ended.1 marked) fits

def unmarked (requests : List TraceRequest) : List TraceRequest := requests.filter fun request => ¬ Marked request

theorem unmarked_rows (requests : List TraceRequest) :
    (requests.map fun request => if Marked request then none else some (prepared request)).reduceOption =
      (unmarked requests).map prepared := by
  induction requests with
  | nil => rfl
  | cons request rest ih =>
    by_cases marked : Marked request
    · rw [List.map_cons, if_pos marked, List.reduceOption_cons_of_none, ih, unmarked, unmarked,
        List.filter_cons_of_neg (by simp [marked])]
    · rw [List.map_cons, if_neg marked, List.reduceOption_cons_of_some, ih, unmarked, unmarked,
        List.filter_cons_of_pos (by simp [marked]), List.map_cons]

/-- The client loads the requests of its file that are not taken for metadata, unless a line is too long for its
    scanner or a number for its integers. -/
theorem loadRequests_iff (requests : List TraceRequest) (loaded : List PreparedRequest) :
    loadRequests (writeTracePartition requests) = .ok loaded ↔
      (∀ request ∈ requests, Short request ∧ (¬ Marked request → Fits request)) ∧
        loaded = (unmarked requests).map prepared := by
  have rows (results : List (Option PreparedRequest)) := @mapM_iff _ _ _ _ _ _
    (fun request row => (loadRow_encoded request row).trans and_assoc.symm) requests results
  have written : (scanLines (writeTracePartition requests)).mapM loadRow =
      requests.mapM fun request => loadRow (encodeRequest request) := by
    rw [scanLines_partition, List.mapM_map]
    rfl
  unfold loadRequests
  rw [written]
  constructor
  · intro done
    obtain ⟨taken, read, done⟩ := bind_ok done
    obtain ⟨all, rfl⟩ := (rows _).mp read
    cases done
    exact ⟨all, unmarked_rows requests⟩
  · intro each
    rw [ok_bind ((rows _).mpr ⟨each.1, rfl⟩), each.2, ← unmarked_rows]
    rfl

end RoundTrip

end ExaServe.Replay
