import ExaServe.Control.Transport.Commands

namespace ExaServe.Control

open Lib Plan

def maxDedupKeys : Nat := 4096

def maxComponentsPerRank : Nat := 64

def maxAuditRecords : Nat := 1000

def observationFingerprint (obs : ComponentObservation) : String := canonicalHash (.obj obs.toDict)

/-- One authenticated session of the listener. -/
structure SessionInfo where
  rank : Int
  nodeId : String
  registered : Bool := false
  established : Bool := false
  instanceId : String := ""
  pendingSnapshotId : String := ""
  pendingSnapshotHash : String := ""
  pendingSnapshotCommandId : String := ""
  expectedGoodbye : Bool := false
  lastSeq : Int := -1
  seenObs : Dict DedupKey String := Dict.empty
  lastComponentSeq : Dict (String × String) Int := Dict.empty
  componentInstances : Dict String String := Dict.empty
  lastSeenAt : Time := 0

namespace SessionInfo

/-- Record a dedup key; the oldest key goes when the memory is full. -/
def remember (info : SessionInfo) (key : DedupKey) (fingerprint : String) :
    Except Raised (SessionInfo × Bool) :=
  match info.seenObs.get? key with
  | some existing =>
    if existing ≠ fingerprint then .error (.contract "conflicting duplicate observation payload")
    else .ok (info, false)
  | none =>
    .ok ({ info with seenObs := (info.seenObs.insert key fingerprint).dropOldest maxDedupKeys }, true)

end SessionInfo

/-- The listener's parameters; `controlLimits` is the JSON of the limits as it is
    sent to a rank. -/
structure ListenerConfig where
  deploymentId : String
  planHash : String
  generation : Int
  expectedRanks : Nat
  expectedNodes : Dict Int String
  limits : ControlLimits
  controlLimits : Json

namespace ListenerConfig

def checkScope (config : ListenerConfig) (env : Envelope) : Option String :=
  if env.deploymentId ≠ config.deploymentId then some RejectReason.wrongDeployment.value
  else if env.planHash ≠ config.planHash then some RejectReason.wrongPlanHash.value
  else if env.generation ≠ config.generation then some RejectReason.staleGeneration.value
  else none

def inScope (config : ListenerConfig) (obs : ComponentObservation) : Bool :=
  obs.deploymentId = config.deploymentId && obs.planHash = config.planHash &&
    obs.generation = config.generation

/-- The frame the listener would write, or what `write_frame` raises. -/
def writable (config : ListenerConfig) (env : Envelope) : Except Raised Unit :=
  match encodeEnvelope env with
  | .error error => .error error
  | .ok body =>
    if config.limits.maxFrameBytes < body.length then .error (rejected .oversized) else .ok ()

def headEnvelope (config : ListenerConfig) (kind : EnvelopeKind) (seq : Int)
    (payload : List (String × Json)) : Envelope :=
  { kind, deploymentId := config.deploymentId, planHash := config.planHash
    generation := config.generation, senderRank := -1, senderNode := "head", seq, payload }

end ListenerConfig

def validateRankReceipt (info : SessionInfo) : Json → Except Raised (List (String × Json))
  | .obj receipt =>
    if !isText OwnerScope.rank.value (Json.lookup "owner_scope" receipt) then
      .error (.contract "rank session may submit only RANK receipts")
    else
      let submitted := (Json.lookup "owner_rank" receipt).getD .null
      let mismatch : Raised :=
        .contract s!"receipt owner_rank {submitted.reprText} does not match session {info.rank}"
      match submitted with
      | .int rank =>
        if rank ≠ info.rank then .error mismatch
        else match Json.lookup "node_id" receipt with
          | none => .ok receipt
          | some .null => .ok receipt
          | some (.str node) =>
            if node = "" then .error (.contract "receipt node_id must be a nonempty string")
            else if !sameNode node info.nodeId then
              .error (.contract "receipt node_id does not match session")
            else .ok receipt
          | some _ => .error (.contract "receipt node_id must be a nonempty string")
      | _ => .error mismatch
  | _ => .error (.contract "rank receipt must be an object")

def validateSnapshotObservation (config : ListenerConfig) (info : SessionInfo) (body : Json) :
    Except Raised ComponentObservation := do
  let obs ← validateObservation body
  require (config.inScope obs) "snapshot observation identity is stale"
  require (obs.ownerScope = .rank) "rank snapshot contains a GLOBAL observation"
  require (obs.ownerRank = some info.rank) "snapshot observation owner_rank mismatch"
  require (sameNode obs.nodeId info.nodeId) "snapshot observation node_id mismatch"
  .ok obs

def validateItems (config : ListenerConfig) (info : SessionInfo) :
    List SnapshotItem → Except Raised (List ComponentObservation × List (List (String × Json)))
  | [] => .ok ([], [])
  | item :: rest =>
    match item.kind with
    | .receipt => do
      let receipt ← validateRankReceipt info (.obj item.body)
      let (observations, receipts) ← validateItems config info rest
      .ok (observations, receipt :: receipts)
    | .observation => do
      let obs ← validateSnapshotObservation config info (.obj item.body)
      let (observations, receipts) ← validateItems config info rest
      .ok (obs :: observations, receipts)

def repeatedComponent (seen : List String) : List ComponentObservation → Option String
  | [] => none
  | obs :: rest =>
    if obs.componentId ∈ seen then some obs.componentId
    else repeatedComponent (obs.componentId :: seen) rest

theorem repeatedComponent_none {seen : List String} {observations : List ComponentObservation}
    (unrepeated : repeatedComponent seen observations = none) :
    (observations.map ComponentObservation.componentId).Nodup ∧
      ∀ obs ∈ observations, obs.componentId ∉ seen := by
  induction observations generalizing seen with
  | nil => simp
  | cons obs rest ih =>
    unfold repeatedComponent at unrepeated
    split at unrepeated
    · cases unrepeated
    · rename_i fresh
      obtain ⟨rest_distinct, rest_fresh⟩ := ih unrepeated
      refine ⟨?_, ?_⟩
      · rw [List.map_cons, List.nodup_cons]
        refine ⟨?_, rest_distinct⟩
        intro again
        obtain ⟨other, member, same⟩ := List.mem_map.mp again
        exact rest_fresh other member (same ▸ List.mem_cons_self)
      · intro other member
        rcases List.mem_cons.mp member with rfl | member
        · exact fresh
        · exact fun seen_before => rest_fresh other member (List.mem_cons_of_mem _ seen_before)

/-- The checked content of a complete set: at most one observation a component. -/
structure RankItems where
  observations : List ComponentObservation
  receipts : List (List (String × Json))
  distinct : (observations.map ComponentObservation.componentId).Nodup
  bounded : observations.length ≤ maxComponentsPerRank

/-- `_validate_snapshot_items`: the whole set, before any projection changes. -/
def validateSnapshotItems (config : ListenerConfig) (info : SessionInfo) (items : List SnapshotItem) :
    Except Raised RankItems :=
  match validateItems config info items with
  | .error error => .error error
  | .ok (observations, receipts) =>
    match unrepeated : repeatedComponent [] observations with
    | some component => .error (.contract s!"snapshot repeats component_id {quotedText component}")
    | none =>
      if bounded : observations.length ≤ maxComponentsPerRank then
        .ok { observations, receipts, distinct := (repeatedComponent_none unrepeated).1, bounded }
      else .error (.contract "snapshot component identity capacity exceeded")

end ExaServe.Control
