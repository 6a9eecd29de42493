import Mathlib.Algebra.BigOperators.Group.List.Basic
import Mathlib.Data.List.TakeWhile
import Mathlib.Order.Lattice
import ExaServe.Lib.Digits
import ExaServe.Lib.Except
import ExaServe.Control.Contracts
import Mathlib.Algebra.GroupWithZero.Nat
import Mathlib.Data.List.Infix

namespace ExaServe.Resources.ShardPrune

open Lib Control

def valueError (message : String) : Raised := .other "ValueError" message

def listText (parts : List Int) : String := "[" ++ ", ".intercalate (parts.map toString) ++ "]"

section Text

variable (decimal : Char → Option Nat)

/-- `int(text)`. -/
def readInt (text : List Char) : Option Int := readSigned decimal (Plan.strip text)

def layersMark : List Char := ".layers.".toList

/-- The layer number where the text starts with a match of `_LAYER_RE`. -/
def layerHere (text : List Char) : Option Nat :=
  if layersMark <+: text then
    let after := text.drop layersMark.length
    let digits := after.takeWhile fun c => (decimal c).isSome
    if digits ≠ [] ∧ (after.dropWhile fun c => (decimal c).isSome).head? = some '.' then
      some (digits.foldl (fun value c => 10 * value + (decimal c).getD 0) 0)
    else none
  else none

/-- The number `_LAYER_RE.search` finds in a weight name. -/
def layerNumber : List Char → Option Nat
  | [] => none
  | c :: rest => (layerHere decimal (c :: rest)).or (layerNumber rest)

end Text

section Partition

/-- The remainder goes to the stages before the last, from the back. -/
def evenPartition (numLayers ppSize : Nat) : List Nat :=
  (List.range (numLayers % ppSize)).foldl (fun parts step => parts.modify (ppSize - (step + 2)) (· + 1))
    (List.replicate ppSize (numLayers / ppSize))

/-- The counts of a configured partition, when it gives each stage a layer and all of them
    to the stages. -/
def ManualPartition (numLayers ppSize : Nat) (parts : List Int) : Prop :=
  parts.length = ppSize ∧ parts.sum = numLayers ∧ ∀ part ∈ parts, 1 ≤ part

instance (numLayers ppSize : Nat) (parts : List Int) : Decidable (ManualPartition numLayers ppSize parts) :=
  inferInstanceAs (Decidable (_ ∧ _ ∧ _))

variable (decimal : Char → Option Nat) (environ : Option String)

/-- `VLLM_PP_LAYER_PARTITION`, as an argument or from the environment. -/
def override (partitionEnv : Option String) : Option String :=
  match partitionEnv.or environ with
  | some "" => none
  | configured => configured

def ppPartitions (numLayers ppSize : Nat) (partitionEnv : Option String) : Except Raised (List Nat) := do
  ensure (1 ≤ numLayers) (valueError "num_layers must be a positive integer")
  ensure (1 ≤ ppSize ∧ ppSize ≤ numLayers)
    (valueError "pp_size must be a positive integer no larger than num_layers")
  match override environ partitionEnv with
  | some text =>
    match (text.toList.splitOn ',').mapM (readInt decimal) with
    | some parts => do
      ensure (ManualPartition numLayers ppSize parts) (valueError
        s!"VLLM_PP_LAYER_PARTITION={listText parts} inconsistent with pp_size={ppSize}, num_layers={numLayers}")
      .ok (parts.map Int.toNat)
    | none => .error (valueError "VLLM_PP_LAYER_PARTITION must contain integers")
  | none => .ok (evenPartition numLayers ppSize)

def stageFrom (layer acc stage : Nat) : List Nat → Option Nat
  | [] => none
  | part :: rest => if layer < acc + part then some stage else stageFrom layer (acc + part) (stage + 1) rest

def stageOfLayer (layer : Nat) (parts : List Nat) : Nat := (stageFrom layer 0 0 parts).getD (parts.length - 1)

/-- The layers of a stage, as vLLM's `get_pp_indices` gives them: from the first to before
    the second. -/
def getPpIndices (parts : List Nat) (stage : Nat) : Nat × Nat :=
  ((parts.take stage).sum, (parts.take (stage + 1)).sum)

end Partition

section Weights

variable (decimal : Char → Option Nat) (environ : Option String)

def mentions (text name : String) : Bool := decide (text.toList <:+: name.toList)

def startsWith (name text : String) : Bool := decide (text.toList <+: name.toList)

/-- A weight outside the layers that belongs to the embedding. -/
def isEmbedding (name : String) : Bool :=
  (layerNumber decimal name.toList).isNone && mentions "embed_tokens" name

/-- The loop body of `weights_for_stage`. -/
def keeps (parts : List Nat) (ppSize stage : Nat) (tieWordEmbeddings : Bool) (name : String) : Bool :=
  match layerNumber decimal name.toList with
  | some layer => stageOfLayer layer parts = stage
  | none =>
    if mentions "embed_tokens" name then stage = 0 || (tieWordEmbeddings && stage = ppSize - 1)
    else if mentions "lm_head" name || startsWith name "model.norm" || startsWith name "norm." then stage = ppSize - 1
    else stage = 0

def weightsForStage (weightMap : List (String × String)) (numLayers ppSize stage : Nat) (tieWordEmbeddings : Bool)
    (partitionEnv : Option String) : Except Raised (List String) := do
  let parts ← ppPartitions decimal environ numLayers ppSize partitionEnv
  .ok ((weightMap.map Prod.fst).filter (keeps decimal parts ppSize stage tieWordEmbeddings))

end Weights

section Stage

/-- The directory of a model: its config, the index files with their contents, its files by
    their relative paths in order, which paths `_resolve_model_input` resolves, and sizes. -/
structure ModelDir where
  config : Json
  indexes : List (String × Json)
  files : List String
  resolves : String → Bool
  size : String → Nat

structure StageInputs where
  indexName : String
  metadata : Json
  weightMap : List (String × String)
  numLayers : Nat
  tied : Bool

/-- The parts of a relative path, as `Path` reads it. -/
def pathParts (path : String) : List (List Char) :=
  (path.toList.splitOn '/').filter fun part => part ≠ [] ∧ part ≠ ['.']

def safeShard (shard : String) : Bool :=
  shard.toList.head? ≠ some '/' && ['.', '.'] ∉ pathParts shard && '\x00' ∉ shard.toList

def weightEntry : String × Json → Option (String × String)
  | (weight, .str shard) => if weight ≠ "" ∧ shard ≠ "" then some (weight, shard) else none
  | _ => none

def readWeightMap : Json → Option (List (String × String))
  | .obj [] => none
  | .obj fields => fields.mapM weightEntry
  | _ => none

def readIndex : Json → Option (Json × List (String × String))
  | .obj fields =>
    if (Json.fieldNames fields).all (["metadata", "weight_map"].contains ·) then
      ((Json.lookup "weight_map" fields).bind readWeightMap).map fun weightMap =>
        ((Json.lookup "metadata" fields).getD (.obj []), weightMap)
    else none
  | _ => none

def readConfig : Json → Except Raised (Nat × Bool)
  | .obj fields => do
    let numLayers ← match Json.lookup "num_hidden_layers" fields with
      | some (.int count) =>
        if 1 ≤ count then .ok count.toNat
        else .error (valueError "model config num_hidden_layers must be a positive integer")
      | _ => .error (valueError "model config num_hidden_layers must be a positive integer")
    match (Json.lookup "tie_word_embeddings" fields).getD (.bool false) with
    | .bool tied => .ok (numLayers, tied)
    | _ => .error (valueError "model config tie_word_embeddings must be boolean")
  | _ => .error (valueError "model config.json must be an object")

variable (decimal : Char → Option Nat) (environ : Option String)

def stageInputs (model : ModelDir) (ppSize stage : Nat) (partitionEnv : Option String) :
    Except Raised StageInputs := do
  ensure (1 ≤ ppSize) (valueError "pp_size must be a positive integer")
  ensure (stage < ppSize) (valueError "stage must be an integer in [0, pp_size)")
  ensure (model.resolves "config.json" = true)
    (valueError "model config.json resolves outside the model repository or is not a file")
  let (numLayers, tied) ← readConfig model.config
  match model.indexes with
  | [] => .error (.other "FileNotFoundError" "no *.safetensors.index.json")
  | [(indexName, index)] =>
    ensure (model.resolves indexName = true)
      (valueError "safetensors index resolves outside the model repository or is not a file")
    match readIndex index with
    | none => .error (valueError "safetensors index has an invalid shape")
    | some (metadata, weightMap) =>
      (weightMap.map Prod.snd).forM fun shard => do
        ensure (safeShard shard = true)
          (valueError s!"safetensors index contains an unsafe shard path: {quotedText shard}")
        ensure (model.resolves shard = true)
          (valueError s!"safetensors shard {quotedText shard} resolves outside the model repository or is not a file")
      let _ ← ppPartitions decimal environ numLayers ppSize partitionEnv
      .ok { indexName, metadata, weightMap, numLayers, tied }
  | _ => .error (valueError "expected exactly one *.safetensors.index.json")

/-- The index entries of the weights a stage keeps. -/
def StageInputs.pruned (inputs : StageInputs) (kept : List String) : List (String × String) :=
  inputs.weightMap.filter fun entry => decide (entry.1 ∈ kept)

/-- `sorted({wm[w] for w in keep})`. -/
def shardsOf (pruned : List (String × String)) : List String :=
  (pruned.map Prod.snd).dedup.insertionSort (· ≤ ·)

structure StageShards where
  shards : List String
  kept : List String
  bytes : Nat

def planStageShards (model : ModelDir) (ppSize stage : Nat) (partitionEnv : Option String) :
    Except Raised StageShards := do
  let inputs ← stageInputs decimal environ model ppSize stage partitionEnv
  let kept ← weightsForStage decimal environ inputs.weightMap inputs.numLayers ppSize stage inputs.tied partitionEnv
  let shards := shardsOf (inputs.pruned kept)
  .ok { shards, kept, bytes := (shards.map model.size).sum }

/-- What is built for a stage: the links by their paths with the model files they lead to,
    and the pruned index. -/
structure StageDir where
  links : List (List (List Char) × String)
  indexName : String
  metadata : Json
  index : List (String × String)
  shards : List String
  bytes : Nat

/-- A link is made where nothing is yet, below directories only. -/
def placeLink (links : List (List (List Char) × String)) (path : String) :
    Except Raised (List (List (List Char) × String)) :=
  if links.any fun link => link.1.isPrefixOf (pathParts path) || (pathParts path).isPrefixOf link.1 then
    .error (.other "FileExistsError" path)
  else .ok (links ++ [(pathParts path, path)])

def modelWeightSuffixes : List String := [".safetensors", ".bin", ".pt", ".pth", ".gguf"]

def completionMarker : String := ".exaserve_complete.json"

def ignoredMetadataDirs : List String := [".cache", ".git", "__pycache__"]

def endsWith (name text : String) : Bool := decide (text.toList <:+ name.toList)

/-- The runtime metadata a stage carries besides its shards. -/
def isMetadata (shards : List String) (file : String) : Bool :=
  let parts := pathParts file
  let name := String.ofList (parts.getLastD [])
  parts.all (fun part => !ignoredMetadataDirs.contains (String.ofList part)) && !shards.contains file &&
    name ≠ completionMarker && !modelWeightSuffixes.any (endsWith name ·) && !endsWith name ".index.json"

def linkMetadata (model : ModelDir) (links : List (List (List Char) × String)) (file : String) :
    Except Raised (List (List (List Char) × String)) := do
  ensure (model.resolves file = true)
    (valueError s!"runtime metadata {quotedText file} resolves outside the model repository or is not a file")
  placeLink links file

/-- `build_stage_dir` in a fresh output directory. -/
def buildStageDir (model : ModelDir) (ppSize stage : Nat) (partitionEnv : Option String) :
    Except Raised StageDir := do
  let inputs ← stageInputs decimal environ model ppSize stage partitionEnv
  let kept ← weightsForStage decimal environ inputs.weightMap inputs.numLayers ppSize stage inputs.tied partitionEnv
  let pruned := inputs.pruned kept
  let shards := shardsOf pruned
  let linked ← shards.foldlM placeLink []
  -- The index replaces whatever a shard of its own name left there.
  let beside := linked.filter fun link => link.1 ≠ [inputs.indexName.toList]
  let links ← (model.files.filter (isMetadata shards)).foldlM (linkMetadata model) beside
  .ok {
    links, shards
    indexName := inputs.indexName
    metadata := inputs.metadata
    index := pruned
    bytes := (shards.map model.size).sum }

end Stage

end ExaServe.Resources.ShardPrune
