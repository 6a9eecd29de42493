import Mathlib.Data.List.Dedup
import Mathlib.Tactic.Ring
import ExaServe.Resources.ShardPrune

namespace ExaServe.Resources.ShardPrune

open Lib Control

section Partition

theorem modify_after {α : Type} (front : List α) (item : α) (back : List α) (f : α → α) :
    (front ++ item :: back).modify front.length f = front ++ f item :: back := by
  induction front with
  | nil => rfl
  | cons head rest ih => simp [ih]

/-- After some steps of the loop the raised counts stand right before the last one. -/
theorem raised_parts (per ppSize : Nat) {steps : Nat} (fits : steps + 1 ≤ ppSize) :
    (List.range steps).foldl (fun parts step => parts.modify (ppSize - (step + 2)) (· + 1))
      (List.replicate ppSize per) =
    List.replicate (ppSize - (steps + 1)) per ++ (List.replicate steps (per + 1) ++ [per]) := by
  induction steps with
  | zero =>
    have whole : ppSize = (ppSize - 1) + 1 := by omega
    rw [List.range_zero, List.foldl_nil, List.replicate_zero, List.nil_append, ← List.replicate_succ', ← whole]
  | succ steps ih =>
    have split : ppSize - (steps + 1) = (ppSize - (steps + 2)) + 1 := by omega
    have at_split : (List.replicate (ppSize - (steps + 2)) per).length = ppSize - (steps + 2) :=
      List.length_replicate
    have step := modify_after (List.replicate (ppSize - (steps + 2)) per) per
      (List.replicate steps (per + 1) ++ [per]) (· + 1)
    rw [at_split] at step
    rw [List.range_succ, List.foldl_append, ih (by omega), split, List.replicate_succ', List.append_assoc]
    exact step

variable {numLayers ppSize : Nat}

theorem evenPartition_eq (positive : 1 ≤ ppSize) : evenPartition numLayers ppSize =
    List.replicate (ppSize - (numLayers % ppSize + 1)) (numLayers / ppSize) ++
      (List.replicate (numLayers % ppSize) (numLayers / ppSize + 1) ++ [numLayers / ppSize]) :=
  raised_parts _ _ (Nat.mod_lt numLayers positive)

theorem evenPartition_length (positive : 1 ≤ ppSize) : (evenPartition numLayers ppSize).length = ppSize := by
  have remainder := Nat.mod_lt numLayers positive
  rw [evenPartition_eq positive]
  simp only [List.length_append, List.length_replicate, List.length_singleton]
  omega

theorem evenPartition_sum (positive : 1 ≤ ppSize) : (evenPartition numLayers ppSize).sum = numLayers := by
  have remainder := Nat.mod_lt numLayers positive
  obtain ⟨before, split⟩ : ∃ before, ppSize = before + (numLayers % ppSize + 1) :=
    ⟨ppSize - (numLayers % ppSize + 1), by omega⟩
  have whole := Nat.div_add_mod numLayers ppSize
  have gap : ppSize - (numLayers % ppSize + 1) = before := by omega
  rw [evenPartition_eq positive, gap]
  simp only [List.sum_append, List.sum_replicate_nat, List.sum_singleton]
  calc before * (numLayers / ppSize) + (numLayers % ppSize * (numLayers / ppSize + 1) + numLayers / ppSize)
      = (before + (numLayers % ppSize + 1)) * (numLayers / ppSize) + numLayers % ppSize := by ring
    _ = ppSize * (numLayers / ppSize) + numLayers % ppSize := by rw [← split]
    _ = numLayers := whole

theorem evenPartition_mem (positive : 1 ≤ ppSize) {part : Nat} (member : part ∈ evenPartition numLayers ppSize) :
    part = numLayers / ppSize ∨ part = numLayers / ppSize + 1 := by
  rw [evenPartition_eq positive] at member
  simp only [List.mem_append, List.mem_replicate, List.mem_singleton] at member
  rcases member with ⟨-, same⟩ | ⟨-, same⟩ | same
  · exact .inl same
  · exact .inr same
  · exact .inl same

theorem evenPartition_last (positive : 1 ≤ ppSize) :
    (evenPartition numLayers ppSize).getLast? = some (numLayers / ppSize) := by
  rw [evenPartition_eq positive]
  simp

variable {decimal : Char → Option Nat} {environ partitionEnv : Option String} {parts : List Nat}

theorem manual_sum {counts : List Int} (each : ∀ part ∈ counts, 1 ≤ part) :
    ((counts.map Int.toNat).sum : Int) = counts.sum := by
  induction counts with
  | nil => rfl
  | cons head rest ih =>
    have first := each head List.mem_cons_self
    have later := ih fun part member => each part (List.mem_cons_of_mem _ member)
    simp only [List.map_cons, List.sum_cons, Nat.cast_add]
    omega

/-- What every partition the function returns is. -/
structure Partition (numLayers ppSize : Nat) (parts : List Nat) : Prop where
  length : parts.length = ppSize
  sum : parts.sum = numLayers
  positive : ∀ part ∈ parts, 1 ≤ part

theorem ppPartitions_sound (done : ppPartitions decimal environ numLayers ppSize partitionEnv = .ok parts) :
    1 ≤ ppSize ∧ Partition numLayers ppSize parts := by
  obtain ⟨_, _, rest⟩ := bind_ok done
  obtain ⟨_, sized, found⟩ := bind_ok rest
  have ⟨some_stage, some_layer⟩ := ensure_holds sized
  refine ⟨some_stage, ?_⟩
  cases configured : override environ partitionEnv with
  | none =>
    simp only [configured] at found
    cases found
    refine ⟨evenPartition_length some_stage, evenPartition_sum some_stage, ?_⟩
    intro part member
    have quotient : 1 ≤ numLayers / ppSize := Nat.div_pos some_layer some_stage
    rcases evenPartition_mem some_stage member with same | same
    · omega
    · omega
  | some text =>
    simp only [configured] at found
    cases read : (text.toList.splitOn ',').mapM (readInt decimal) with
    | none => simp only [read] at found; cases found
    | some counts =>
      simp only [read] at found
      obtain ⟨_, checked, same⟩ := bind_ok found
      obtain ⟨sized, total, each⟩ := ensure_holds checked
      cases same
      have exact_sum := manual_sum each
      refine ⟨by simpa using sized, by omega, ?_⟩
      intro part member
      obtain ⟨count, among, rfl⟩ := List.mem_map.mp member
      have least := each count among
      omega

end Partition

section Layers

variable {parts : List Nat}

theorem stageFrom_spec {layer acc stage : Nat} (reached : acc ≤ layer) (below : layer < acc + parts.sum) :
    ∃ offset, stageFrom layer acc stage parts = some (stage + offset) ∧ offset < parts.length ∧
      acc + (parts.take offset).sum ≤ layer ∧ layer < acc + (parts.take (offset + 1)).sum := by
  induction parts generalizing acc stage with
  | nil =>
    simp only [List.sum_nil] at below
    omega
  | cons part rest ih =>
    by_cases here : layer < acc + part
    · exact ⟨0, if_pos here, by simp, by simpa using reached, by simpa using here⟩
    · rw [List.sum_cons] at below
      obtain ⟨offset, found, within, first, last⟩ := @ih (acc + part) (stage + 1) (Nat.le_of_not_lt here) (by omega)
      refine ⟨offset + 1, ?_, by simpa using within, ?_, ?_⟩
      · rw [stageFrom, if_neg here, found]
        congr 1
        omega
      · rw [List.take_succ_cons, List.sum_cons]
        omega
      · rw [List.take_succ_cons, List.sum_cons]
        omega

theorem take_sum_mono {first second : Nat} (ordered : first ≤ second) :
    (parts.take first).sum ≤ (parts.take second).sum := by
  obtain ⟨more, rfl⟩ := Nat.exists_eq_add_of_le ordered
  rw [List.take_add, List.sum_append]
  omega

theorem stageFrom_lt {layer acc stage found : Nat} (done : stageFrom layer acc stage parts = some found) :
    found < stage + parts.length := by
  induction parts generalizing acc stage with
  | nil => cases done
  | cons part rest ih =>
    rw [stageFrom] at done
    rw [List.length_cons]
    by_cases here : layer < acc + part
    · rw [if_pos here] at done
      cases done
      omega
    · rw [if_neg here] at done
      have later := ih done
      omega

theorem stageOfLayer_lt (layer : Nat) (some_stage : 1 ≤ parts.length) : stageOfLayer layer parts < parts.length := by
  unfold stageOfLayer
  cases found : stageFrom layer 0 0 parts with
  | none =>
    rw [Option.getD_none]
    omega
  | some stage =>
    have within := stageFrom_lt found
    rw [Option.getD_some]
    omega

/-- Each layer is in the block of its stage and of no other. -/
theorem stageOfLayer_iff {layer stage : Nat} (below : layer < parts.sum) :
    stageOfLayer layer parts = stage ↔
      (getPpIndices parts stage).1 ≤ layer ∧ layer < (getPpIndices parts stage).2 := by
  obtain ⟨offset, found, -, first, last⟩ := @stageFrom_spec parts layer 0 0 (Nat.zero_le layer) (by omega)
  rw [Nat.zero_add] at found first last
  have same : stageOfLayer layer parts = offset := by
    rw [stageOfLayer, found]
    rfl
  rw [same]
  constructor
  · rintro rfl
    exact ⟨first, last⟩
  · rintro ⟨from_stage, to_stage⟩
    rcases Nat.lt_trichotomy offset stage with earlier | equal | later
    · have mono := @take_sum_mono parts (offset + 1) stage earlier
      simp only [getPpIndices] at from_stage
      omega
    · exact equal
    · have mono := @take_sum_mono parts (stage + 1) offset later
      simp only [getPpIndices] at to_stage
      omega

end Layers

section Weights

variable {decimal : Char → Option Nat} {environ partitionEnv : Option String} {parts : List Nat}
variable {numLayers ppSize : Nat} {tied : Bool} {name : String}

theorem keeps_layer {layer : Nat} (numbered : layerNumber decimal name.toList = some layer) (stage : Nat) :
    keeps decimal parts ppSize stage tied name = true ↔ stageOfLayer layer parts = stage := by
  unfold keeps
  rw [numbered]
  exact decide_eq_true_iff

theorem keeps_tied (embedded : isEmbedding decimal name = true) (stage : Nat) :
    keeps decimal parts ppSize stage true name = true ↔ stage = 0 ∨ stage = ppSize - 1 := by
  simp only [isEmbedding, Bool.and_eq_true, Option.isNone_iff_eq_none] at embedded
  unfold keeps
  rw [embedded.1]
  simp [embedded.2]

/-- Outside the layers and the tied embedding a name has one of two homes. -/
theorem keeps_global (unnumbered : layerNumber decimal name.toList = none)
    (untied : ¬ (tied = true ∧ isEmbedding decimal name = true)) :
    (∀ stage, keeps decimal parts ppSize stage tied name = true ↔ stage = 0) ∨
      ∀ stage, keeps decimal parts ppSize stage tied name = true ↔ stage = ppSize - 1 := by
  unfold keeps
  rw [unnumbered]
  simp only [isEmbedding, unnumbered, Option.isNone_none, Bool.true_and] at untied
  by_cases embedded : mentions "embed_tokens" name = true
  · have apart : tied = false := by
      cases tied
      · rfl
      · exact absurd ⟨rfl, embedded⟩ untied
    left
    intro stage
    simp [embedded, apart]
  · by_cases final : (mentions "lm_head" name || startsWith name "model.norm" || startsWith name "norm.") = true
    · right
      intro stage
      rw [if_neg embedded, if_pos final]
      exact decide_eq_true_iff
    · left
      intro stage
      rw [if_neg embedded, if_neg final]
      exact decide_eq_true_iff

theorem keeps_once (some_stage : 1 ≤ ppSize) (sized : parts.length = ppSize)
    (untied : ¬ (tied = true ∧ isEmbedding decimal name = true)) :
    ∃! stage, stage < ppSize ∧ keeps decimal parts ppSize stage tied name = true := by
  cases numbered : layerNumber decimal name.toList with
  | some layer =>
    have within := stageOfLayer_lt layer (show 1 ≤ parts.length by omega)
    refine ⟨stageOfLayer layer parts, ⟨by omega, (keeps_layer numbered _).mpr rfl⟩, ?_⟩
    rintro stage ⟨-, kept⟩
    exact ((keeps_layer numbered stage).mp kept).symm
  | none =>
    rcases @keeps_global decimal parts ppSize tied name numbered untied with only | only
    · refine ⟨0, ⟨some_stage, (only 0).mpr rfl⟩, ?_⟩
      rintro stage ⟨-, kept⟩
      exact (only stage).mp kept
    · refine ⟨ppSize - 1, ⟨by omega, (only _).mpr rfl⟩, ?_⟩
      rintro stage ⟨-, kept⟩
      exact (only stage).mp kept

/-- Every name is kept by some stage. -/
theorem keeps_somewhere (some_stage : 1 ≤ ppSize) (sized : parts.length = ppSize) (tied : Bool) (name : String) :
    ∃ stage, stage < ppSize ∧ keeps decimal parts ppSize stage tied name = true := by
  by_cases shared : tied = true ∧ isEmbedding decimal name = true
  · obtain ⟨rfl, embedded⟩ := shared
    exact ⟨0, some_stage, (keeps_tied embedded 0).mpr (.inl rfl)⟩
  · exact (keeps_once some_stage sized shared).exists

theorem weightsForStage_eq (weightMap : List (String × String)) (stage : Nat)
    (partitioned : ppPartitions decimal environ numLayers ppSize partitionEnv = .ok parts) :
    weightsForStage decimal environ weightMap numLayers ppSize stage tied partitionEnv =
      .ok ((weightMap.map Prod.fst).filter (keeps decimal parts ppSize stage tied)) := by
  unfold weightsForStage
  rw [ok_bind partitioned]

end Weights

section Stages

variable {decimal : Char → Option Nat} {environ partitionEnv : Option String} {model : ModelDir}
variable {ppSize stage : Nat} {inputs : StageInputs}

theorem stageInputs_stage (found : stageInputs decimal environ model ppSize stage partitionEnv = .ok inputs)
    {other : Nat} (within : other < ppSize) :
    stageInputs decimal environ model ppSize other partitionEnv = .ok inputs := by
  unfold stageInputs at found ⊢
  obtain ⟨_, sized, rest⟩ := bind_ok found
  obtain ⟨_, _, rest⟩ := bind_ok rest
  rw [ok_bind sized, ok_bind (ensure_ok within _)]
  exact rest

theorem stageInputs_partition (found : stageInputs decimal environ model ppSize stage partitionEnv = .ok inputs) :
    ∃ parts, ppPartitions decimal environ inputs.numLayers ppSize partitionEnv = .ok parts := by
  unfold stageInputs at found
  obtain ⟨_, _, rest⟩ := bind_ok found
  obtain ⟨_, _, rest⟩ := bind_ok rest
  obtain ⟨_, _, rest⟩ := bind_ok rest
  obtain ⟨⟨numLayers, tied⟩, _, rest⟩ := bind_ok rest
  dsimp only at rest
  split at rest
  · cases rest
  · obtain ⟨_, _, rest⟩ := bind_ok rest
    split at rest
    · cases rest
    · obtain ⟨_, _, rest⟩ := bind_ok rest
      obtain ⟨parts, partitioned, same⟩ := bind_ok rest
      cases same
      exact ⟨parts, partitioned⟩
  · cases rest

theorem mem_shardsOf {pruned : List (String × String)} {shard : String} :
    shard ∈ shardsOf pruned ↔ shard ∈ pruned.map Prod.snd := by
  rw [shardsOf, List.mem_insertionSort, List.mem_dedup]

theorem planStageShards_eq {parts : List Nat}
    (found : stageInputs decimal environ model ppSize stage partitionEnv = .ok inputs)
    (partitioned : ppPartitions decimal environ inputs.numLayers ppSize partitionEnv = .ok parts) :
    ∃ bytes, planStageShards decimal environ model ppSize stage partitionEnv = .ok {
      shards := shardsOf (inputs.pruned
        ((inputs.weightMap.map Prod.fst).filter (keeps decimal parts ppSize stage inputs.tied)))
      kept := (inputs.weightMap.map Prod.fst).filter (keeps decimal parts ppSize stage inputs.tied)
      bytes } := by
  unfold planStageShards
  rw [ok_bind found, ok_bind (weightsForStage_eq inputs.weightMap stage partitioned)]
  exact ⟨_, rfl⟩

/-- The shards of the stages together are the shards of the index. -/
theorem shards_cover (found : stageInputs decimal environ model ppSize 0 partitionEnv = .ok inputs) (shard : String) :
    shard ∈ inputs.weightMap.map Prod.snd ↔ ∃ stage planned,
      planStageShards decimal environ model ppSize stage partitionEnv = .ok planned ∧ shard ∈ planned.shards := by
  obtain ⟨parts, partitioned⟩ := stageInputs_partition found
  obtain ⟨some_stage, sound⟩ := ppPartitions_sound partitioned
  constructor
  · intro member
    obtain ⟨entry, among, rfl⟩ := List.mem_map.mp member
    obtain ⟨stage, within, kept⟩ := @keeps_somewhere decimal parts ppSize some_stage sound.length inputs.tied entry.1
    obtain ⟨bytes, planned⟩ := planStageShards_eq (stageInputs_stage found within) partitioned
    refine ⟨stage, _, planned, mem_shardsOf.mpr (List.mem_map_of_mem (List.mem_filter.mpr ⟨among, ?_⟩))⟩
    rw [decide_eq_true_iff, List.mem_filter]
    exact ⟨List.mem_map_of_mem among, kept⟩
  · rintro ⟨stage, planned, done, member⟩
    unfold planStageShards at done
    obtain ⟨stage_inputs, read, rest⟩ := bind_ok done
    obtain ⟨kept, _, same⟩ := bind_ok rest
    cases same
    obtain ⟨_, sized, checked⟩ := bind_ok read
    obtain ⟨_, within, _⟩ := bind_ok checked
    have again := stageInputs_stage found (ensure_holds within)
    rw [read] at again
    cases again
    rw [mem_shardsOf] at member
    obtain ⟨entry, among, rfl⟩ := List.mem_map.mp member
    exact List.mem_map_of_mem (List.mem_filter.mp among).1

/-- The directory has an entry at the path of this shard. -/
def StageDir.Carries (built : StageDir) (shard : String) : Prop :=
  (pathParts shard, shard) ∈ built.links ∨ pathParts shard = [built.indexName.toList]

theorem placeLink_ok {links placed : List (List (List Char) × String)} {path : String}
    (done : placeLink links path = .ok placed) : placed = links ++ [(pathParts path, path)] := by
  unfold placeLink at done
  split at done
  · cases done
  · cases done
    rfl

theorem placed_links {links placed : List (List (List Char) × String)} {paths : List String}
    (done : paths.foldlM placeLink links = .ok placed) :
    (∀ link ∈ links, link ∈ placed) ∧ ∀ path ∈ paths, (pathParts path, path) ∈ placed := by
  induction paths generalizing links with
  | nil =>
    cases done
    exact ⟨fun _ member => member, fun _ member => absurd member List.not_mem_nil⟩
  | cons path rest ih =>
    rw [List.foldlM_cons] at done
    obtain ⟨next, first, later⟩ := bind_ok done
    have same := placeLink_ok first
    obtain ⟨kept, placed_rest⟩ := ih later
    constructor
    · intro link member
      exact kept link (by rw [same]; exact List.mem_append_left _ member)
    · intro other member
      rcases List.mem_cons.mp member with rfl | member
      · exact kept _ (by rw [same]; exact List.mem_append_right _ (List.mem_singleton.mpr rfl))
      · exact placed_rest other member

theorem linkMetadata_kept {files : List String} {links placed : List (List (List Char) × String)}
    (done : files.foldlM (linkMetadata model) links = .ok placed) : ∀ link ∈ links, link ∈ placed := by
  induction files generalizing links with
  | nil =>
    cases done
    exact fun _ member => member
  | cons file rest ih =>
    rw [List.foldlM_cons] at done
    obtain ⟨next, first, later⟩ := bind_ok done
    obtain ⟨_, _, linked⟩ := bind_ok first
    intro link member
    apply ih later
    rw [placeLink_ok linked]
    exact List.mem_append_left _ member

theorem buildStageDir_carries {built : StageDir}
    (done : buildStageDir decimal environ model ppSize stage partitionEnv = .ok built) :
    ∀ entry ∈ built.index, entry.2 ∈ built.shards ∧ built.Carries entry.2 := by
  unfold buildStageDir at done
  obtain ⟨inputs, _, rest⟩ := bind_ok done
  obtain ⟨kept, _, rest⟩ := bind_ok rest
  obtain ⟨linked, shards_linked, rest⟩ := bind_ok rest
  obtain ⟨links, metadata_linked, same⟩ := bind_ok rest
  cases same
  intro entry member
  have sharded : entry.2 ∈ shardsOf (inputs.pruned kept) := mem_shardsOf.mpr (List.mem_map_of_mem member)
  refine ⟨sharded, ?_⟩
  by_cases named : pathParts entry.2 = [inputs.indexName.toList]
  · exact .inr named
  · left
    apply linkMetadata_kept metadata_linked
    have placed := (placed_links shards_linked).2 entry.2 sharded
    exact List.mem_filter.mpr ⟨placed, decide_eq_true named⟩

end Stages

section Sharding

variable (decimal : Char → Option Nat) (environ : Option String)

/-- The override, if there is one, is a list of integers that partitions the layers. -/
def Admissible (numLayers ppSize : Nat) (partitionEnv : Option String) : Prop :=
  ∀ text, override environ partitionEnv = some text →
    ∃ counts, (text.toList.splitOn ',').mapM (readInt decimal) = some counts ∧ ManualPartition numLayers ppSize counts

theorem ppPartitions_even {numLayers ppSize : Nat} {partitionEnv : Option String} (some_stage : 1 ≤ ppSize)
    (fits : ppSize ≤ numLayers) (plain : override environ partitionEnv = none) :
    ppPartitions decimal environ numLayers ppSize partitionEnv = .ok (evenPartition numLayers ppSize) := by
  unfold ppPartitions
  rw [ok_bind (ensure_ok (some_stage.trans fits) _), ok_bind (ensure_ok ⟨some_stage, fits⟩ _), plain]

theorem ppPartitions_manual {numLayers ppSize : Nat} {partitionEnv : Option String} {text : String}
    {counts : List Int} (some_stage : 1 ≤ ppSize) (fits : ppSize ≤ numLayers)
    (configured : override environ partitionEnv = some text)
    (read : (text.toList.splitOn ',').mapM (readInt decimal) = some counts)
    (manual : ManualPartition numLayers ppSize counts) :
    ppPartitions decimal environ numLayers ppSize partitionEnv = .ok (counts.map Int.toNat) := by
  unfold ppPartitions
  rw [ok_bind (ensure_ok (some_stage.trans fits) _), ok_bind (ensure_ok ⟨some_stage, fits⟩ _), configured]
  dsimp only
  rw [read]
  dsimp only
  rw [ok_bind (ensure_ok manual _)]

theorem ppPartitions_accepts {numLayers ppSize : Nat} {partitionEnv : Option String} (some_stage : 1 ≤ ppSize)
    (fits : ppSize ≤ numLayers) (admissible : Admissible decimal environ numLayers ppSize partitionEnv) :
    ∃ parts, ppPartitions decimal environ numLayers ppSize partitionEnv = .ok parts := by
  cases configured : override environ partitionEnv with
  | none => exact ⟨_, ppPartitions_even decimal environ some_stage fits configured⟩
  | some text =>
    obtain ⟨counts, read, manual⟩ := admissible text configured
    exact ⟨_, ppPartitions_manual decimal environ some_stage fits configured read manual⟩

/-- Without an override the counts differ by at most one, and the last is least. -/
theorem ppPartitions_balanced {numLayers ppSize : Nat} {partitionEnv : Option String} {parts : List Nat}
    (done : ppPartitions decimal environ numLayers ppSize partitionEnv = .ok parts)
    (plain : override environ partitionEnv = none) :
    (∀ first ∈ parts, ∀ second ∈ parts, first ≤ second + 1) ∧
      ∃ last, parts.getLast? = some last ∧ ∀ part ∈ parts, last ≤ part := by
  obtain ⟨_, _, rest⟩ := bind_ok done
  obtain ⟨_, sized, _⟩ := bind_ok rest
  have ⟨some_stage, fits⟩ := ensure_holds sized
  rw [ppPartitions_even decimal environ some_stage fits plain] at done
  cases done
  constructor
  · intro first among_first second among_second
    have one := evenPartition_mem some_stage among_first
    have other := evenPartition_mem some_stage among_second
    omega
  · refine ⟨_, evenPartition_last some_stage, ?_⟩
    intro part member
    have one := evenPartition_mem some_stage member
    omega

/-- The stage keeps the weight. -/
def KeptBy (weightMap : List (String × String)) (numLayers ppSize : Nat) (tied : Bool) (partitionEnv : Option String)
    (name : String) (stage : Nat) : Prop :=
  ∃ kept, weightsForStage decimal environ weightMap numLayers ppSize stage tied partitionEnv = .ok kept ∧ name ∈ kept

theorem keptBy_iff {weightMap : List (String × String)} {numLayers ppSize : Nat} {tied : Bool}
    {partitionEnv : Option String} {parts : List Nat}
    (partitioned : ppPartitions decimal environ numLayers ppSize partitionEnv = .ok parts)
    {name : String} (mapped : name ∈ weightMap.map Prod.fst) (stage : Nat) :
    KeptBy decimal environ weightMap numLayers ppSize tied partitionEnv name stage ↔
      keeps decimal parts ppSize stage tied name = true := by
  unfold KeptBy
  rw [weightsForStage_eq weightMap stage partitioned]
  constructor
  · rintro ⟨kept, same, member⟩
    cases same
    exact (List.mem_filter.mp member).2
  · intro kept
    exact ⟨_, rfl, List.mem_filter.mpr ⟨mapped, kept⟩⟩

end Sharding

def asciiDecimal (c : Char) : Option Nat := if c.isDigit then some (c.toNat - 48) else none

/-- A model of three layers with its weights in two shards. -/
def smallModel : ModelDir where
  config := .obj [("num_hidden_layers", .int 3), ("tie_word_embeddings", .bool true)]
  indexes := [("model.safetensors.index.json", .obj [("weight_map", .obj [
    ("model.embed_tokens.weight", .str "first.safetensors"), ("model.layers.2.mlp.weight", .str "last.safetensors")])])]
  files := ["config.json", "first.safetensors", "last.safetensors"]
  resolves _ := true
  size _ := 1

end ExaServe.Resources.ShardPrune
