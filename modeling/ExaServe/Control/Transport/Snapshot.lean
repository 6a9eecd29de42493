import ExaServe.Control.Contracts
import ExaServe.Lib.Dict
import Mathlib.Data.List.Lex

namespace ExaServe.Control

open Lib Plan

inductive ItemKind where
  | observation
  | receipt
  deriving DecidableEq, Repr

def ItemKind.value : ItemKind → String
  | observation => "observation"
  | receipt => "receipt"

def ItemKind.ofValue (text : String) : Option ItemKind :=
  [ItemKind.observation, ItemKind.receipt].find? fun kind => kind.value = text

/-- A snapshot item in normal form. -/
structure SnapshotItem where
  kind : ItemKind
  body : List (String × Json)

namespace SnapshotItem

def toJson (item : SnapshotItem) : Json :=
  .obj [("kind", .str item.kind.value), ("body", .obj item.body)]

def ofJson : Json → Except Raised SnapshotItem
  | .obj fields =>
    if !Json.sameNames fields ["kind", "body"] then
      .error (.contract "snapshot item must contain exactly kind/body")
    else match Json.lookup "kind" fields, Json.lookup "body" fields with
      | some (.str text), some (.obj body) =>
        match ItemKind.ofValue text with
        | some kind => .ok { kind, body }
        | none => .error (.contract "snapshot item kind/body is invalid")
      | _, _ => .error (.contract "snapshot item kind/body is invalid")
  | _ => .error (.contract "snapshot item must contain exactly kind/body")

def keyFields : ItemKind → List String
  | .observation => ["component_id", "instance_id"]
  | .receipt => ["receipt_requirement_id", "component_id", "instance_id"]

def keyPart (body : List (String × Json)) (name : String) : Option String :=
  match Json.lookup name body with
  | some (.str text) => if text = "" then none else some text
  | _ => none

/-- The tuple an item is collected and sorted under. -/
def key (item : SnapshotItem) : Except Raised (List String) :=
  match (keyFields item.kind).mapM (keyPart item.body) with
  | some parts => .ok (item.kind.value :: parts)
  | none => .error (.contract s!"snapshot {item.kind.value} key is incomplete")

def encoded (item : SnapshotItem) : List Char := Json.dumps item.toJson

end SnapshotItem

abbrev UniqueItems := Dict (List String) (List Char × SnapshotItem)

def tupleText (key : List String) : String := "(" ++ ", ".intercalate (key.map quotedText) ++ ")"

def collectItems (unique : UniqueItems) : List Json → Except Raised UniqueItems
  | [] => .ok unique
  | item :: rest =>
    match SnapshotItem.ofJson item with
    | .error error => .error error
    | .ok found =>
      match found.key with
      | .error error => .error error
      | .ok key =>
        if (unique.get? key).any fun existing => existing.1 ≠ found.encoded then
          .error (.contract s!"conflicting duplicate snapshot key {tupleText key}")
        else collectItems (unique.insert key (found.encoded, found)) rest

def sortedItems (unique : UniqueItems) : List SnapshotItem :=
  (unique.keys.insertionSort (· ≤ ·)).filterMap fun key => (unique.get? key).map Prod.snd

/-- Collapse byte-identical duplicates, reject conflicts, sort by key. -/
def canonicalSnapshotItems (items : List Json) : Except Raised (List SnapshotItem) :=
  match collectItems Dict.empty items with
  | .error error => .error error
  | .ok unique => .ok (sortedItems unique)

def itemsJson (items : List SnapshotItem) : Json := .arr (items.map SnapshotItem.toJson)

def snapshotSetHash (items : List Json) : Except Raised String :=
  match canonicalSnapshotItems items with
  | .error error => .error error
  | .ok canonical => .ok (canonicalHash (itemsJson canonical))

def payloadVersionOne (payload : List (String × Json)) : Bool :=
  match Json.lookup "payload_version" payload with
  | some (.int version) => version = 1
  | _ => false

/-- One snapshot being assembled at the listener. -/
structure SnapshotBuffer where
  snapshotId : String
  total : Int
  hash : String
  chunks : Dict Int (List Json) := Dict.empty
  bytes : Nat := 0
  startedAt : Time

namespace SnapshotBuffer

def itemCount (buffer : SnapshotBuffer) : Nat := (buffer.chunks.values.map List.length).sum

def assembled (buffer : SnapshotBuffer) : List Json :=
  (buffer.chunks.keys.insertionSort (· ≤ ·)).flatMap fun index => (buffer.chunks.get? index).getD []

end SnapshotBuffer

inductive AssembleResult where
  | owed
  | complete (items : List SnapshotItem)
  | refused (reason : String)

def snapshotFields : List String :=
  ["payload_version", "snapshot_id", "chunk_index", "chunk_count", "complete_set_hash",
    "observations", "compatibility_receipts"]

/-- The header of a chunk after its checks. -/
structure ChunkHeader where
  snapshotId : String
  hash : String
  total : Int
  index : Int

def chunkHeader (limits : DefaultLimits) (payload : List (String × Json)) :
    Except String ChunkHeader :=
  if !payloadVersionOne payload then .error "unknown snapshot payload_version"
  else if !Json.sameNames payload snapshotFields then
    .error "snapshot fields do not match the version-1 contract"
  else match Json.lookup "chunk_count" payload, Json.lookup "chunk_index" payload with
    | some (.int total), some (.int index) =>
      match Json.lookup "snapshot_id" payload with
      | some (.str snapshotId) =>
        if snapshotId = "" then .error "snapshot id is missing or invalid"
        else match Json.lookup "complete_set_hash" payload with
          | some (.str hash) =>
            if !isSha256Hex hash then .error "snapshot id/hash is missing or invalid"
            else if total < 1 ∨ index < 0 ∨ total ≤ index then
              .error s!"chunk {index} out of range 0..{total - 1}"
            else if (limits.maxSnapshotChunks : Int) < total then
              .error s!"{total} chunks exceeds the cap"
            else .ok { snapshotId, hash, total, index }
          | _ => .error "snapshot id/hash is missing or invalid"
      | _ => .error "snapshot id is missing or invalid"
    | _, _ => .error "snapshot chunk_count/chunk_index is invalid"

def rawItem (kind : ItemKind) (body : Json) : Json :=
  .obj [("kind", .str kind.value), ("body", body)]

def rawItems (observations receipts : List Json) : List Json :=
  observations.map (rawItem .observation) ++ receipts.map (rawItem .receipt)

def finishAssembly (snapshots : Dict Int SnapshotBuffer) (rank : Int) (buffer : SnapshotBuffer)
    (hash : String) : Dict Int SnapshotBuffer × AssembleResult :=
  match canonicalSnapshotItems buffer.assembled with
  | .error error => (snapshots.erase rank, .refused error.text)
  | .ok items =>
    match snapshotSetHash (items.map SnapshotItem.toJson) with
    | .error error => (snapshots.erase rank, .refused error.text)
    | .ok actual =>
      if actual ≠ hash then (snapshots.erase rank, .refused "snapshot content hash mismatch")
      else (snapshots.erase rank, .complete items)

/-- The rest of the chunk's checks once it is in the buffer. -/
def keepChunk (limits : DefaultLimits) (snapshots : Dict Int SnapshotBuffer) (rank : Int)
    (buffer : SnapshotBuffer) (hash : String) : Dict Int SnapshotBuffer × AssembleResult :=
  if limits.maxSnapshotItems < buffer.itemCount then
    (snapshots.insert rank buffer, .refused "snapshot exceeds max_snapshot_items")
  else if (buffer.chunks.size : Int) < buffer.total then (snapshots.insert rank buffer, .owed)
  else finishAssembly (snapshots.insert rank buffer) rank buffer hash

def storeChunk (limits : DefaultLimits) (snapshots : Dict Int SnapshotBuffer) (rank : Int)
    (buffer : SnapshotBuffer) (header : ChunkHeader) (items : List Json) :
    Dict Int SnapshotBuffer × AssembleResult :=
  match buffer.chunks.get? header.index with
  | some existing =>
    if !Json.pyEqItems existing items then
      (snapshots.insert rank buffer, .refused s!"conflicting duplicate for chunk {header.index}")
    else keepChunk limits snapshots rank
      { buffer with chunks := buffer.chunks.insert header.index items } header.hash
  | none =>
    let bytes := buffer.bytes + (Json.dumps (.arr items)).length
    if limits.maxSnapshotBytes < bytes then
      (snapshots.insert rank { buffer with bytes }, .refused "snapshot exceeds max_snapshot_bytes")
    else keepChunk limits snapshots rank
      { buffer with bytes, chunks := buffer.chunks.insert header.index items } header.hash

/-- Buffer one chunk; the complete set or nothing becomes the rank's projection. -/
def assembleSnapshot (limits : DefaultLimits) (clock : Time) (snapshots : Dict Int SnapshotBuffer)
    (rank : Int) (payload : List (String × Json)) : Dict Int SnapshotBuffer × AssembleResult :=
  match chunkHeader limits payload with
  | .error reason => (snapshots, .refused reason)
  | .ok header =>
    let fresh : SnapshotBuffer :=
      { snapshotId := header.snapshotId, total := header.total, hash := header.hash, startedAt := clock }
    let buffer := (snapshots.get? rank).getD fresh
    if buffer.snapshotId ≠ header.snapshotId ∨ buffer.total ≠ header.total ∨ buffer.hash ≠ header.hash then
      (snapshots, .refused "snapshot id/count/hash changed while one is in flight")
    else if limits.snapshotAssemblyDeadlineS < clock - buffer.startedAt then
      (snapshots.erase rank, .refused "snapshot assembly deadline expired")
    else match Json.lookup "observations" payload, Json.lookup "compatibility_receipts" payload with
      | some (.arr observations), some (.arr receipts) =>
        storeChunk limits snapshots rank buffer header (rawItems observations receipts)
      | _, _ => (snapshots.insert rank buffer,
          .refused "snapshot observations/compatibility_receipts must be lists")

end ExaServe.Control
