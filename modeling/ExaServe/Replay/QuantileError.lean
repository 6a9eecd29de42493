import ExaServe.Replay.HistogramQuantile

namespace ExaServe.Replay.ExactHistogram

open Lib Control

section Samples

variable {samples : List Nat} {fraction : ℚ}

theorem seconds_le {first second : Nat} : seconds first ≤ seconds second ↔ first ≤ second := by
  unfold seconds
  rw [div_le_div_iff_of_pos_right (by norm_num)]
  exact Nat.cast_le

theorem seconds_lt {first second : Nat} : seconds first < seconds second ↔ first < second := by
  rw [← not_le, seconds_le, not_le]

theorem snapshotOf_valid (samples : List Nat) :
    Valid (snapshotOf samples) (logarithmicHistogramBounds.map seconds) where
  bounds := by rw [snapshotOf_eq]
  some_bound := by
    intro empty
    have first := logarithmicHistogramBounds_geometric.head
    rw [List.map_eq_nil_iff.mp empty] at first
    cases first
  nonneg := by
    intro bound member
    obtain ⟨nanoseconds, -, rfl⟩ := List.mem_map.mp member
    exact seconds_nonneg nanoseconds
  ascending :=
    List.pairwise_map.mpr (logarithmicHistogramBounds_geometric.ascending.imp fun less => seconds_lt.mpr less)
  lengths := by simp [snapshotOf_eq]
  total := by rw [snapshotOf_sum, snapshotOf_eq]
  sum := by
    rw [snapshotOf_eq]
    exact seconds_nonneg _

theorem bucketOf_mono {bounds : List Nat} {first second : Nat} (ordered : first ≤ second) :
    bucketOf bounds first ≤ bucketOf bounds second := by
  apply List.findIdx_le_findIdx
  intro bound _ inside
  exact decide_eq_true (ordered.trans (of_decide_eq_true inside))

/-- The `⌈f * n⌉`-th smallest of `n` samples. -/
def nearestRank (samples : List Nat) (fraction : ℚ) : Option Nat :=
  (samples.insertionSort (· ≤ ·))[⌈(samples.length : ℚ) * fraction⌉.toNat - 1]?

theorem rankOf_eq {count : Nat} (some_count : count ≠ 0) (positive : 0 < fraction) :
    rankOf count fraction = ⌈(count : ℚ) * fraction⌉.toNat := by
  have natural : (0 : ℚ) < count := by exact_mod_cast Nat.pos_of_ne_zero some_count
  have ceiling : 0 < ⌈(count : ℚ) * fraction⌉ := Int.ceil_pos.mpr (mul_pos natural positive)
  unfold rankOf
  omega

/-- The bucket that reaches a rank holds the sample of that rank. -/
theorem bucket_of_rank {bounds : List Nat} {rank index sample : Nat} (positive : 1 ≤ rank)
    (crosses : Crosses (placeCounts (bucketOf bounds) (bounds.length + 1) samples) rank index)
    (here : (samples.insertionSort (· ≤ ·))[rank - 1]? = some sample) : bucketOf bounds sample = index := by
  have inside := crosses.inside
  rw [placeCounts_length] at inside
  have before := crosses.before
  rw [placeCounts_take (by omega)] at before
  have reached := crosses.reached
  rw [placeCounts_take (by omega)] at reached
  have sorted : ((samples.insertionSort (· ≤ ·)).map (bucketOf bounds)).Pairwise (· ≤ ·) :=
    List.pairwise_map.mpr ((List.pairwise_insertionSort (· ≤ ·) samples).imp fun ordered => bucketOf_mono ordered)
  have placed : ((samples.insertionSort (· ≤ ·)).map (bucketOf bounds))[rank - 1]? =
      some (bucketOf bounds sample) := by
    rw [List.getElem?_map, here, Option.map_some]
  have counted : ∀ bound, ((samples.insertionSort (· ≤ ·)).map (bucketOf bounds)).countP (· ≤ bound) =
      samples.countP fun d => bucketOf bounds d < bound + 1 := by
    intro bound
    rw [List.countP_map, (List.perm_insertionSort _ samples).countP_eq]
    apply List.countP_congr
    intro d _
    rw [Function.comp_apply, decide_eq_true_eq, decide_eq_true_eq, Nat.lt_succ_iff]
  have below := sorted_le_iff sorted placed
  have upper : bucketOf bounds sample ≤ index := by
    rw [below index, counted]
    omega
  by_contra other
  obtain ⟨previous, rfl⟩ : ∃ previous, index = previous + 1 := ⟨index - 1, by omega⟩
  have lower := (below previous).mp (by omega)
  rw [counted] at lower
  omega

end Samples

section Buckets

variable {bounds : List Nat} {index sample : Nat}

/-- The bucket of a duration in seconds. -/
def secondsBucket (value : ℚ) : Nat := (logarithmicHistogramBounds.map seconds).findIdx fun bound => value ≤ bound

theorem secondsBucket_seconds (sample : Nat) :
    secondsBucket (seconds sample) = bucketOf logarithmicHistogramBounds sample := by
  rw [secondsBucket, List.findIdx_map, bucketOf]
  congr 1
  funext bound
  exact decide_eq_decide.mpr seconds_le

theorem secondsBucket_eq (inside : index < logarithmicHistogramBounds.length) {value : ℚ}
    (above : index ≠ 0 → edge (logarithmicHistogramBounds.map seconds) index < value)
    (below : value ≤ edge (logarithmicHistogramBounds.map seconds) (index + 1)) : secondsBucket value = index := by
  have within : index < (logarithmicHistogramBounds.map seconds).length := by rw [List.length_map]; exact inside
  have valid := snapshotOf_valid []
  rw [secondsBucket, List.findIdx_eq within]
  rw [edge_succ within] at below
  refine ⟨decide_eq_true below, ?_⟩
  intro j earlier
  have edge_le := valid.edge_mono (show j + 1 ≤ index by omega) (le_of_lt within)
  rw [edge_succ (earlier.trans within)] at edge_le
  exact decide_eq_false (not_le.mpr (edge_le.trans_lt (above (by omega))))

theorem bucketOf_edges (inside : bucketOf logarithmicHistogramBounds sample < logarithmicHistogramBounds.length) :
    (bucketOf logarithmicHistogramBounds sample ≠ 0 →
      edge (logarithmicHistogramBounds.map seconds) (bucketOf logarithmicHistogramBounds sample) < seconds sample) ∧
    seconds sample ≤
      edge (logarithmicHistogramBounds.map seconds) (bucketOf logarithmicHistogramBounds sample + 1) := by
  have within : bucketOf logarithmicHistogramBounds sample < (logarithmicHistogramBounds.map seconds).length := by
    rw [List.length_map]
    exact inside
  constructor
  · intro later
    obtain ⟨previous, bucket⟩ := Nat.exists_eq_succ_of_ne_zero later
    have missed := List.not_of_lt_findIdx (show previous < logarithmicHistogramBounds.findIdx
      (fun bound => decide (sample ≤ bound)) from by rw [← bucketOf, bucket]; exact Nat.lt_succ_self _)
    rw [bucket, edge_succ (by omega), List.getElem_map]
    exact seconds_lt.mpr (not_le.mp (of_decide_eq_false missed))
  · rw [edge_succ within, List.getElem_map, seconds_le]
    exact of_decide_eq_true (@List.findIdx_getElem _ (fun bound => decide (sample ≤ bound))
      logarithmicHistogramBounds inside)

/-- A bucket is at most two percent of its lower edge wide. -/
theorem edge_width (later : index ≠ 0) (inside : index < logarithmicHistogramBounds.length) :
    edge (logarithmicHistogramBounds.map seconds) (index + 1) ≤
      edge (logarithmicHistogramBounds.map seconds) index * (102 / 100) := by
  obtain ⟨previous, rfl⟩ := Nat.exists_eq_succ_of_ne_zero later
  have follows := (List.isChain_iff_getElem.mp logarithmicHistogramBounds_geometric.chain previous inside).2
  have within : previous < logarithmicHistogramBounds.length := by omega
  have cast : (100 : ℚ) * (logarithmicHistogramBounds[previous + 1] : ℕ) ≤
      102 * (logarithmicHistogramBounds[previous] : ℕ) := by exact_mod_cast follows
  rw [edge_succ (by rw [List.length_map]; exact inside), edge_succ (by rw [List.length_map]; omega), List.getElem_map,
    List.getElem_map]
  unfold seconds
  linarith

theorem bucket_finite : bucketOf logarithmicHistogramBounds sample < logarithmicHistogramBounds.length ↔
    sample ≤ lastBound := by
  have last := logarithmicHistogramBounds_geometric.last
  rw [bucketOf, List.findIdx_lt_length]
  constructor
  · rintro ⟨bound, member, inside⟩
    obtain ⟨front, split⟩ := List.getLast?_eq_some_iff.mp last
    have ascending := logarithmicHistogramBounds_geometric.ascending
    rw [split] at member ascending
    have below : bound ≤ lastBound := by
      rcases List.mem_append.mp member with early | final
      · exact ((List.pairwise_append.mp ascending).2.2 bound early lastBound List.mem_cons_self).le
      · rw [List.mem_singleton.mp final]
    exact (of_decide_eq_true inside).trans below
  · intro inside
    exact ⟨lastBound, List.mem_of_getLast? last, decide_eq_true inside⟩

theorem bucket_later (above : 50000 < sample) : bucketOf logarithmicHistogramBounds sample ≠ 0 := by
  have head := logarithmicHistogramBounds_geometric.head
  cases bounds : logarithmicHistogramBounds with
  | nil =>
    rw [bounds] at head
    cases head
  | cons first rest =>
    rw [bounds, List.head?_cons, Option.some.injEq] at head
    rw [bucketOf, List.findIdx_cons, head, decide_eq_false (by omega)]
    exact Nat.succ_ne_zero _

theorem last_edge : edge (logarithmicHistogramBounds.map seconds) logarithmicHistogramBounds.length =
    seconds lastBound := by
  have last := logarithmicHistogramBounds_geometric.last
  obtain ⟨front, split⟩ := List.getLast?_eq_some_iff.mp last
  rw [split, List.length_append, List.length_singleton, edge_succ (by simp), List.getElem_map]
  simp

end Buckets

section Error

variable {samples : List Nat} {fraction : ℚ}

/-- The read percentile and the sample it estimates. -/
theorem percentile_of_samples (some_sample : samples ≠ []) (positive : 0 < fraction) (small : fraction ≤ 1) :
    ∃ value sample, histogramPercentile (snapshotOf samples) fraction = .ok value ∧
      nearestRank samples fraction = some sample ∧
      (sample ≤ lastBound → secondsBucket value = secondsBucket (seconds sample)) ∧
      (50000 < sample → sample ≤ lastBound → |value - seconds sample| ≤ seconds sample * (2 / 100)) ∧
      (lastBound < sample → value ≤ seconds sample) := by
  have count : (snapshotOf samples).count = samples.length := by rw [snapshotOf_eq]
  have some_count : samples.length ≠ 0 := by simpa using some_sample
  have valid := snapshotOf_valid samples
  obtain ⟨index, inside, crosses, read, -⟩ := valid.percentile_eq (count.symm ▸ some_count) small
  have reached := crosses.reached
  rw [take_sum_succ inside] at reached
  rw [count] at read crosses reached
  have rank_pos := rankOf_pos samples.length fraction
  have rank_le := rankOf_le some_count small
  have stands : rankOf samples.length fraction - 1 < (samples.insertionSort (· ≤ ·)).length := by
    rw [List.length_insertionSort]
    omega
  have here := List.getElem?_eq_getElem stands
  generalize (samples.insertionSort (· ≤ ·))[rankOf samples.length fraction - 1] = sample at here
  have counts : (snapshotOf samples).counts =
      placeCounts (bucketOf logarithmicHistogramBounds) (logarithmicHistogramBounds.length + 1) samples := by
    rw [snapshotOf_eq]
  have bucket : bucketOf logarithmicHistogramBounds sample = index :=
    bucket_of_rank rank_pos (counts ▸ crosses) here
  refine ⟨_, sample, read, by rw [nearestRank, ← rankOf_eq some_count positive]; exact here, ?_, ?_, ?_⟩
  all_goals
    have bounds := @bucket_finite sample
    rw [bucket] at bounds
  · intro finite
    have within := bounds.mpr finite
    have edges := valid.value_bounds (by rw [List.length_map]; exact within) crosses.before reached
    rw [secondsBucket_seconds, bucket]
    apply secondsBucket_eq within _ edges.2
    intro later
    have position := (position_bounds crosses.before reached).1
    have step : edge (logarithmicHistogramBounds.map seconds) index <
        edge (logarithmicHistogramBounds.map seconds) (index + 1) := by
      have sample_edges := @bucketOf_edges sample (by rw [bucket]; exact within)
      rw [bucket] at sample_edges
      exact (sample_edges.1 later).trans_le sample_edges.2
    have share := mul_pos position (sub_pos.mpr step)
    rw [valueAt, if_pos (by rw [List.length_map]; exact within)]
    linarith
  · intro above finite
    have within := bounds.mpr finite
    have later : index ≠ 0 := bucket ▸ bucket_later above
    have edges := valid.value_bounds (by rw [List.length_map]; exact within) crosses.before reached
    have sample_edges := @bucketOf_edges sample (by rw [bucket]; exact within)
    rw [bucket] at sample_edges
    have width := edge_width later within
    have lower := sample_edges.1 later
    rw [abs_le]
    constructor
    · linarith [sample_edges.2, edges.1]
    · linarith [edges.2]
  · intro beyond
    have overflow : index = logarithmicHistogramBounds.length := by
      have size := inside
      rw [counts, placeCounts_length] at size
      have outside : ¬ index < logarithmicHistogramBounds.length := fun within => by
        have finite := bounds.mp within
        omega
      omega
    have plain : ¬ index < (logarithmicHistogramBounds.map seconds).length := by rw [List.length_map]; omega
    rw [valueAt, if_neg plain, overflow, last_edge]
    exact (seconds_lt.mpr beyond).le

/-- Merging is a homomorphism in any order and grouping; a percentile lies in the bucket of the
    sample of its rank, within two percent of it; both readers agree; and the median is at most
    the 99th percentile. -/
theorem histogram_homomorphism :
    (∀ samples histogram, Gathered samples histogram →
      ∀ whole, samples.Perm whole → histogram = snapshotOf whole) ∧
    (∀ parts : List (List Nat × HistogramSnapshot), parts ≠ [] → (∀ part ∈ parts, Gathered part.1 part.2) →
      ∃ result, mergeLatencyHistograms (parts.map Prod.snd) = .ok result) ∧
    (∀ samples fraction, samples ≠ [] → 0 < fraction → fraction ≤ 1 →
      ∃ value sample, histogramPercentile (snapshotOf samples) fraction = .ok value ∧
        nearestRank samples fraction = some sample ∧
        (sample ≤ lastBound → secondsBucket value = secondsBucket (seconds sample)) ∧
        (50000 < sample → sample ≤ lastBound → |value - seconds sample| ≤ seconds sample * (2 / 100)) ∧
        (lastBound < sample → value ≤ seconds sample)) ∧
    ∀ histogram finite, Valid histogram finite →
      (∀ fraction, 0 ≤ fraction → fraction ≤ 1 → ∃ value, histogramPercentile histogram fraction = .ok value ∧
        percentileFromHistogram histogram fraction = some value) ∧
      ∃ p50 p99, histogramPercentile histogram (50 / 100) = .ok p50 ∧
        histogramPercentile histogram (99 / 100) = .ok p99 ∧ p50 ≤ p99 := by
  refine ⟨?_, ?_, ?_, ?_⟩
  · intro samples histogram gathered whole same
    rw [gathered.eq, snapshotOf_perm same]
  · intro parts some_part each
    exact Gathered.merge some_part each
  · intro samples fraction some_sample positive small
    exact percentile_of_samples some_sample positive small
  · intro histogram finite valid
    exact ⟨fun fraction _ small => valid.readers_agree small, valid.percentile_mono (by norm_num) (by norm_num)⟩

theorem two_ranks_merge :
    (∃ result, mergeLatencyHistograms [snapshotOf [3], snapshotOf [5, 90000]] = .ok result ∧
      result = snapshotOf [90000, 3, 5]) ∧
    ∃ p50 p99, histogramPercentile (snapshotOf [3, 90000]) (50 / 100) = .ok p50 ∧
      histogramPercentile (snapshotOf [3, 90000]) (99 / 100) = .ok p99 ∧ p50 ≤ p99 := by
  obtain ⟨whole, merges, -, valid⟩ := histogram_homomorphism
  constructor
  · have each : ∀ part ∈ [([3], snapshotOf [3]), ([5, 90000], snapshotOf [5, 90000])], Gathered part.1 part.2 := by
      simp [Gathered.observed]
    obtain ⟨result, merged⟩ := merges _ (by simp) each
    exact ⟨result, merged, whole _ result (.merged each merged) _ (by decide)⟩
  · exact (valid _ _ (snapshotOf_valid [3, 90000])).2

end Error

end ExaServe.Replay.ExactHistogram
