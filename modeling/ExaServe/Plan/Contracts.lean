import ExaServe.Lib.Json
import ExaServe.Lib.Sha256

namespace ExaServe

open Lib

/-- Seconds of the monotonic clock, as exact numbers. -/
abbrev Time := ℚ

def quotedText (text : String) : String := "'" ++ text ++ "'"

namespace Plan

theorem rankDeadlines_positive : (0 : Time) < 300 ∧ (0 : Time) < 60 ∧ (0 : Time) < 5 ∧ (0 : Time) < 30 ∧
    (0 : Time) < 60 ∧ (0 : Time) < 120 := by decide +kernel

theorem planDeadlines_positive : (0 : Time) < 300 ∧ (0 : Time) < 60 ∧ (0 : Time) < 5 ∧ (0 : Time) < 30 ∧
    (0 : Time) < 60 ∧ (0 : Time) < 300 := by decide +kernel

theorem defaultBounds_positive : 0 < 1048576 ∧ 0 < 256 ∧ 0 < 67108864 ∧ 0 < 65536 := by decide

theorem defaultLease_covers : (3 : Time) * 5 ≤ 30 := by decide +kernel

theorem one_counts : 1 ≤ 1 := Nat.le_refl 1

/-- The deadlines and bounds of the transport; a rank takes them from the
    acknowledgment of its registration. -/
structure DefaultLimits where
  registrationDeadlineS : Time := 300
  heartbeatIntervalS : Time := 5
  reconnectGraceS : Time := 60
  leaseTimeoutS : Time := 30
  snapshotAssemblyDeadlineS : Time := 60
  watchdogCleanupDeadlineS : Time := 120
  maxFrameBytes : Nat := 1048576
  maxSnapshotChunks : Nat := 256
  maxSnapshotBytes : Nat := 67108864
  maxSnapshotItems : Nat := 65536
  deadlines_positive : 0 < registrationDeadlineS ∧ 0 < reconnectGraceS ∧ 0 < heartbeatIntervalS ∧
    0 < leaseTimeoutS ∧ 0 < snapshotAssemblyDeadlineS ∧ 0 < watchdogCleanupDeadlineS := by
      first | exact rankDeadlines_positive | exact planDeadlines_positive | decide +kernel
  bounds_positive : 0 < maxFrameBytes ∧ 0 < maxSnapshotChunks ∧ 0 < maxSnapshotBytes ∧
    0 < maxSnapshotItems := by first | exact defaultBounds_positive | decide

/-- Resolved control-plane deadlines and bounds of a plan. -/
structure ControlLimits extends DefaultLimits where
  watchdogCleanupDeadlineS := 300
  lease_covers_heartbeats : 3 * heartbeatIntervalS ≤ leaseTimeoutS := by
    first | exact defaultLease_covers | decide +kernel

/-- Bytes of a text that holds only ASCII, as `json.dumps` writes it. -/
def asciiBytes (text : List Char) : List UInt8 := text.map fun c => UInt8.ofNat c.toNat

def canonicalHash (payload : Json) : String := Sha256.hexdigest (asciiBytes (Json.dumps payload))

def isSha256Hex (text : String) : Bool :=
  text.toList.length = 64 && text.toList.all fun c => c.isDigit || ('a' ≤ c && c ≤ 'f')

theorem isSha256Hex_hexdigest (message : List UInt8) : isSha256Hex (Sha256.hexdigest message) = true := by
  have hex_digit : ∀ n < 16, ((Sha256.hexChar n).isDigit ||
      ('a' ≤ Sha256.hexChar n && Sha256.hexChar n ≤ 'f')) = true := by decide
  simp only [isSha256Hex, Sha256.hexdigest_length, decide_true, Bool.true_and, List.all_eq_true]
  intro c member
  obtain ⟨n, small, rfl⟩ := Sha256.hexdigest_chars _ c member
  exact hex_digit n small

theorem isSha256Hex_canonicalHash (payload : Json) : isSha256Hex (canonicalHash payload) = true :=
  isSha256Hex_hexdigest _

def isSpace (c : Char) : Bool :=
  let n := c.toNat
  (9 ≤ n && n ≤ 13) || (28 ≤ n && n ≤ 32) || n = 133 || n = 160 || n = 5760 ||
    (8192 ≤ n && n ≤ 8202) || n = 8232 || n = 8233 || n = 8239 || n = 8287 || n = 12288

def strip (text : List Char) : List Char :=
  ((text.dropWhile isSpace).reverse.dropWhile isSpace).reverse

/-- The comparable form of a node name: lowercase, domain stripped. -/
def canonicalNodeId (nodeId : String) : String :=
  String.ofList (((strip nodeId.toList).map Char.toLower).takeWhile (· ≠ '.'))

def sameNode (left right : String) : Bool :=
  canonicalNodeId left ≠ "" && canonicalNodeId left == canonicalNodeId right

theorem sameNode_iff {left right : String} :
    sameNode left right = true ↔
      canonicalNodeId left ≠ "" ∧ canonicalNodeId left = canonicalNodeId right := by
  simp [sameNode]

theorem sameNode_comm {left right : String} (same : sameNode left right = true) :
    sameNode right left = true := by
  rw [sameNode_iff] at same ⊢
  exact ⟨same.2 ▸ same.1, same.2.symm⟩

theorem sameNode_trans {left middle right : String} (first : sameNode left middle = true)
    (second : sameNode middle right = true) : sameNode left right = true := by
  rw [sameNode_iff] at first second ⊢
  exact ⟨first.1, first.2.trans second.2⟩

/-- Generation-scoped rank to node map: ranks are contiguous from zero and no two
    ranks share a canonical node name. -/
structure AllocationBinding where
  deploymentId : String
  generation : Nat
  deploymentPlanHash : String
  siteProfileHash : String
  schedulerAllocationId : String
  rankToNode : List (Int × String)
  allocationBindingHash : String
  ranks_contiguous : rankToNode.map Prod.fst = (List.range rankToNode.length).map Int.ofNat
  nodes_named : ∀ entry ∈ rankToNode, canonicalNodeId entry.2 ≠ ""
  nodes_distinct : (rankToNode.map fun entry => canonicalNodeId entry.2).Nodup

namespace AllocationBinding

def nodeFor (binding : AllocationBinding) (rank : Int) : Option String :=
  (binding.rankToNode.find? fun entry => entry.1 = rank).map Prod.snd

def isBoundNode (binding : AllocationBinding) (rank : Int) (nodeId : String) : Bool :=
  match binding.nodeFor rank with
  | some bound => sameNode bound nodeId
  | none => false

/-- The ranks in increasing order, which is how they are stored. -/
def ranks (binding : AllocationBinding) : List Int := binding.rankToNode.map Prod.fst

theorem nodeFor_mem {binding : AllocationBinding} {rank : Int} {node : String}
    (found : binding.nodeFor rank = some node) : (rank, node) ∈ binding.rankToNode := by
  simp only [nodeFor, Option.map_eq_some_iff] at found
  obtain ⟨⟨other, named⟩, hit, rfl⟩ := found
  have same := List.find?_some hit
  have member := List.mem_of_find?_eq_some hit
  simp only [decide_eq_true_eq] at same
  rw [← same]
  exact member

theorem nodeFor_named {binding : AllocationBinding} {rank : Int} {node : String}
    (found : binding.nodeFor rank = some node) : canonicalNodeId node ≠ "" :=
  binding.nodes_named (rank, node) (nodeFor_mem found)

theorem nodeFor_isSome_iff (binding : AllocationBinding) (rank : Int) :
    (binding.nodeFor rank).isSome ↔ rank ∈ binding.ranks := by
  simp only [nodeFor, ranks, Option.isSome_map, List.find?_isSome, List.mem_map, decide_eq_true_eq]

theorem mem_ranks_iff (binding : AllocationBinding) (rank : Int) :
    rank ∈ binding.ranks ↔ 0 ≤ rank ∧ rank < (binding.rankToNode.length : Int) := by
  rw [ranks, binding.ranks_contiguous]
  simp only [List.mem_map, List.mem_range]
  constructor
  · intro planned
    obtain ⟨index, below, rfl⟩ := planned
    exact ⟨Int.natCast_nonneg index, Int.ofNat_lt.mpr below⟩
  · intro ⟨nonneg, below⟩
    exact ⟨rank.toNat, by omega, Int.toNat_of_nonneg nonneg⟩

theorem nodeFor_injective {binding : AllocationBinding} {left right : Int} {leftNode rightNode : String}
    (leftFound : binding.nodeFor left = some leftNode)
    (rightFound : binding.nodeFor right = some rightNode)
    (same : sameNode leftNode rightNode = true) : left = right := by
  have nodup := binding.nodes_distinct
  have equal := (sameNode_iff.mp same).2
  have entries := List.inj_on_of_nodup_map nodup (nodeFor_mem leftFound) (nodeFor_mem rightFound) equal
  exact congrArg Prod.fst entries

end AllocationBinding

end Plan

end ExaServe
