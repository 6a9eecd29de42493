import ExaServe.Lib.JsonRepeats
import ExaServe.Lib.SortedJson
import ExaServe.Lib.Words
import ExaServe.Plan.Contracts
import ExaServe.State.Mounts

namespace ExaServe.Staging

open Lib Plan State.Mounts

section Bounding

def maxDiagnosticBytes : Nat := 16 * 1024

/-- The characters that fit in a number of bytes; one that is cut is replaced. -/
def decodedWithin : Nat → List Char → List Char
  | _, [] => []
  | room, c :: rest =>
    if c.utf8Size ≤ room then c :: decodedWithin (room - c.utf8Size) rest
    else if 0 < room then [Char.ofNat 65533] else []

def truncatedSuffix : String := "\n...[diagnostic truncated]"

def bounded (value : String) : String :=
  if value.utf8ByteSize ≤ maxDiagnosticBytes then value
  else String.ofList (decodedWithin (maxDiagnosticBytes - truncatedSuffix.utf8ByteSize) value.toList) ++
    truncatedSuffix

end Bounding

section Identity

def isWordChar (c : Char) : Bool := c.isAlphanum || c = '_' || c = '.' || c = '-'

def isHexChar (c : Char) : Bool := c.isDigit || ('a' ≤ c && c ≤ 'f')

/-- `[0-9a-f]{32}(?:-[A-Za-z0-9_.-]+)?` -/
def isAttemptId (attemptId : String) : Bool :=
  let chars := attemptId.toList
  (chars.take 32).length = 32 && (chars.take 32).all isHexChar &&
    match chars.drop 32 with
    | [] => true
    | mark :: rest => mark = '-' && rest ≠ [] && rest.all isWordChar

def isResultId (text : String) : Bool := text.toList.length = 32 && text.toList.all isHexChar

/-- The first half of the digest of what a rank publishes, unless it cannot be written. -/
def resultId (attemptId : String) (rank : Nat) (node : String) (payload : Value) : Option String :=
  (Value.sortedJson? (.list [.str attemptId, .int rank, .str node, payload])).map fun canonical =>
    String.ofList ((Sha256.hexdigest (asciiBytes canonical.printed)).toList.take 32)

end Identity

section Publishing

/-- What a rank's operation does: it raises, with the text of the exception, or returns. -/
inductive Operation where
  | raised (error : String)
  | returned (payload : Value)

/-- A rank of the collective: its host, its operation and what the operation printed. -/
structure RankRun where
  node : String
  operation : Operation
  stdout : String
  stderr : String

variable (refusal : Value → String)

/-- The payload a rank publishes, and its error. -/
def RankRun.outcome (run : RankRun) : Value × String :=
  let failed (error : String) : Value × String := (.none, String.ofList (strip (bounded error).toList))
  match run.operation with
  | .raised error => failed error
  | .returned (.dict entries) =>
    match Value.sortedJson? (.dict entries) with
    | some _ => (.dict entries, "")
    | none => failed (refusal (.dict entries))
  | .returned _ => failed "TypeError: staging operation payload must be an object\n"

def RankRun.ok (run : RankRun) : Bool := (run.outcome refusal).2 = ""

def RankRun.record (attemptId : String) (rank : Nat) (run : RankRun) : Option Value :=
  let (payload, error) := run.outcome refusal
  (resultId attemptId rank run.node payload).map fun id =>
    .ofFields [("schema_version", .int 1), ("attempt_id", .str attemptId),
      ("result_id", .str id), ("rank", .int rank),
      ("node", .str run.node), ("ok", .bool (error = "")), ("payload", payload), ("error", .str error),
      ("stdout", .str (bounded run.stdout)), ("stderr", .str (bounded run.stderr))]

/-- Rank zero's judgement of what it gathered. -/
def aggregateOk (expectedWorldSize : Nat) (expectedRootNode : String) (runs : List RankRun) : Bool :=
  runs.length = expectedWorldSize &&
    ((runs.head?.map fun root => sameNode root.node expectedRootNode).getD false) && runs.all (·.ok refusal)

def envelope (attemptId : String) (expectedWorldSize : Nat) (expectedRootNode : String) (runs : List RankRun) :
    Option Value := do
  let root ← runs.head?
  let records ← (runs.zipIdx).mapM fun run => run.1.record refusal attemptId run.2
  some (.ofFields [("schema_version", .int 1), ("attempt_id", .str attemptId), ("world_size", .int runs.length),
    ("root_node", .str root.node), ("expected_root_node", .str expectedRootNode),
    ("ok", .bool (aggregateOk refusal expectedWorldSize expectedRootNode runs)), ("results", .list records)])

def resultPrefix : List Char := "EXASERVE_MPI_STAGE_RESULT=".toList

/-- The line that rank zero prints for the ranks of a world. -/
def resultLine (attemptId : String) (expectedWorldSize : Nat) (expectedRootNode : String) (runs : List RankRun) :
    Option (List Char) := do
  let gathered ← envelope refusal attemptId expectedWorldSize expectedRootNode runs
  let canonical ← Value.sortedJson? gathered
  some (resultPrefix ++ canonical.printed)

/-- What `run_collective_operation` prints on rank zero and what every rank returns. -/
def runCollectiveOperation (attemptId : String) (expectedWorldSize : Int) (expectedRootNode : String)
    (runs : List RankRun) : Except String (Option (List Char) × Bool) :=
  if isAttemptId attemptId = false then .error ("invalid staging attempt identity " ++ quotedText attemptId)
  else if expectedWorldSize < 1 then .error "expected_world_size must be a positive integer"
  else if strip expectedRootNode.toList = [] then .error "expected_root_node must be non-empty"
  else
    .ok ((resultLine refusal attemptId expectedWorldSize.toNat expectedRootNode runs).map (· ++ ['\n']),
      aggregateOk refusal expectedWorldSize.toNat expectedRootNode runs)

end Publishing

section Loading

inductive StagingCollectiveError where
  | envelopes (received : Nat)
  | json
  | fields
  | identity
  | incomplete (received : Nat) (expected : Int)
  | record (rank : Nat)
  | recordIdentity (rank : Nat)
  | failed (failures : List (Nat × String × String))
  | duplicates
  deriving DecidableEq

def rankText (rank : Nat) : String := "rank " ++ toString rank ++ " "

def failureText (failure : Nat × String × String) : String :=
  rankText failure.1 ++ "(" ++ failure.2.1 ++ "): " ++ failure.2.2

def failedText (failures : List (Nat × String × String)) : String :=
  "MPI staging collective failed: " ++
    if failures = [] then "rank-zero topology validation failed" else "; ".intercalate (failures.map failureText)

/-- The text of an error; the decoder's own text is left out. -/
def StagingCollectiveError.message : StagingCollectiveError → String
  | .envelopes received => "expected one MPI staging result envelope, received " ++ toString received
  | .json => "MPI staging result envelope is invalid JSON: "
  | .fields => "MPI staging result envelope fields are invalid"
  | .identity => "MPI staging result envelope identity is invalid"
  | .incomplete received expected =>
    "MPI staging result is incomplete (" ++ toString received ++ "/" ++ toString expected ++ " ranks)"
  | .record rank => "MPI staging result " ++ rankText rank ++ "is invalid"
  | .recordIdentity rank => "MPI staging result " ++ rankText rank ++ "identity is invalid"
  | .failed failures => failedText failures
  | .duplicates => "MPI staging results contain duplicate identities"

/-- `str.splitlines`. -/
def splitlines (text : List Char) : List (List Char) := linesBy isLineBreak (universalNewlines text)

def resultLines (stdout : List Char) : List (List Char) :=
  (splitlines stdout).filterMap fun line =>
    if resultPrefix.isPrefixOf line then some (line.drop resultPrefix.length) else none

def envelopeFields : List String :=
  ["schema_version", "attempt_id", "world_size", "root_node", "expected_root_node", "ok", "results"]

/-- The verdict and the results of an envelope for this attempt, world and root. -/
def envelopeOf (attemptId : String) (expectedWorldSize : Int) (expectedRootNode : String)
    (fields : List (String × Json)) : Option (Bool × List Json) :=
  match Json.lookup "schema_version" fields, Json.lookup "attempt_id" fields, Json.lookup "world_size" fields,
      Json.lookup "root_node" fields, Json.lookup "expected_root_node" fields, Json.lookup "ok" fields,
      Json.lookup "results" fields with
  | some (.int version), some (.str attempt), some (.int size), some (.str root), some (.str expected),
      some (.bool ok), some (.arr results) =>
    if version = 1 ∧ attempt = attemptId ∧ size = expectedWorldSize ∧ expected = expectedRootNode ∧
        sameNode root expectedRootNode = true then
      some (ok, results)
    else none
  | _, _, _, _, _, _, _ => none

/-- What is read of a record. -/
structure Record where
  resultId : String
  node : String
  ok : Bool
  payload : Json
  error : String

def recordFields : List String :=
  ["schema_version", "attempt_id", "result_id", "rank", "node", "ok", "payload", "error", "stdout", "stderr"]

def isObject : Json → Bool
  | .obj _ => true
  | _ => false

def isNull : Json → Bool
  | .null => true
  | _ => false

/-- A record that is well formed for a rank of this attempt. -/
def recordOf (attemptId : String) (rank : Nat) : Json → Option Record
  | .obj fields =>
    if Json.sameNames fields recordFields = true then
      match Json.lookup "schema_version" fields, Json.lookup "attempt_id" fields, Json.lookup "result_id" fields,
          Json.lookup "rank" fields, Json.lookup "node" fields, Json.lookup "ok" fields, Json.lookup "payload" fields,
          Json.lookup "error" fields, Json.lookup "stdout" fields, Json.lookup "stderr" fields with
      | some (.int version), some (.str attempt), some (.str id), some (.int number), some (.str node),
          some (.bool ok), some payload, some (.str error), some (.str _), some (.str _) =>
        if version = 1 ∧ attempt = attemptId ∧ number = rank ∧ node ≠ "" ∧ isResultId id = true ∧
            (if ok then isObject payload else isNull payload) = true then
          some ⟨id, node, ok, payload, error⟩
        else none
      | _, _, _, _, _, _, _, _, _, _ => none
    else none
  | _ => none

def checkRecord (attemptId : String) (item : Json × Nat) : Except StagingCollectiveError Record :=
  match recordOf attemptId item.2 item.1 with
  | none => .error (.record item.2)
  | some record =>
    if resultId attemptId item.2 record.node (Value.ofJson record.payload) = some record.resultId then .ok record
    else .error (.recordIdentity item.2)

def metadata (attemptId resultId : String) : List (String × Json) :=
  [("schema_version", .int 1), ("attempt_id", .str attemptId), ("result_id", .str resultId)]

/-- The caller's entry: the payload over the metadata that was checked. -/
def Record.entry (attemptId : String) (record : Record) : List (String × Json) :=
  match record.payload with
  | .obj fields =>
    fields.foldl (fun entry field => putEntry field.1 field.2 entry) (metadata attemptId record.resultId)
  | _ => []

def failuresOf (records : List Record) : List (Nat × String × String) :=
  (records.zipIdx.filter fun item => !item.1.ok).map fun item => (item.2, item.1.node, item.1.error)

def judge (attemptId : String) (ok : Bool) (records : List Record) :
    Except StagingCollectiveError (List (List (String × Json))) :=
  if ok = false ∨ failuresOf records ≠ [] then .error (.failed (failuresOf records))
  else if (records.map Record.resultId).Nodup then .ok (records.map (Record.entry attemptId))
  else .error .duplicates

def loadEnvelope (attemptId : String) (expectedWorldSize : Int) (expectedRootNode : String) :
    Json → Except StagingCollectiveError (List (List (String × Json)))
  | .obj fields =>
    if Json.sameNames fields envelopeFields = false then .error .fields
    else
      match envelopeOf attemptId expectedWorldSize expectedRootNode fields with
      | none => .error .identity
      | some (ok, results) =>
        if (results.length : Int) ≠ expectedWorldSize then .error (.incomplete results.length expectedWorldSize)
        else do
          let records ← results.zipIdx.mapM (checkRecord attemptId)
          judge attemptId ok records
  | _ => .error .fields

def loadCollectiveResults (stdout : List Char) (attemptId : String) (expectedWorldSize : Int)
    (expectedRootNode : String) : Except StagingCollectiveError (List (List (String × Json))) :=
  match resultLines stdout with
  | [line] =>
    match Json.decode line with
    | none => .error .json
    | some envelope => loadEnvelope attemptId expectedWorldSize expectedRootNode envelope
  | lines => .error (.envelopes lines.length)

end Loading

end ExaServe.Staging
