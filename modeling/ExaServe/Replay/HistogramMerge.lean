import Mathlib.Data.List.Chain
import Mathlib.Tactic.Ring
import ExaServe.Lib.OrderStatistics
import ExaServe.Replay.Histogram

namespace ExaServe.Replay.ExactHistogram

open Lib Control

section Bounds

/-- A bound is followed by a greater one, at most two percent above it. -/
def Follows (current next : Nat) : Prop := current < next ∧ 100 * next ≤ 102 * current

theorem nextBound_follows {current : Nat} (large : 50 ≤ current) : Follows current (nextBound current) := by
  refine ⟨lt_nextBound current, ?_⟩
  simp only [nextBound]
  split
  · omega
  · omega

theorem boundsFrom_cons {current : Nat} (inside : current ≤ lastBound) :
    boundsFrom current = current :: boundsFrom (nextBound current) := by
  rw [boundsFrom, if_pos inside]

/-- The bounds from one on: they begin with it, follow each other and end within two percent of
    the last one. -/
theorem boundsFrom_spec {current : Nat} (large : 50 ≤ current) (inside : current ≤ lastBound) :
    (boundsFrom current).IsChain Follows ∧
      ∃ last, (boundsFrom current).getLast? = some last ∧ last ≤ lastBound ∧ 50 ≤ last ∧
        lastBound < nextBound last := by
  induction current using boundsFrom.induct with
  | case1 current _ ih =>
    have grows := lt_nextBound current
    by_cases more : nextBound current ≤ lastBound
    · obtain ⟨chain, last, ends, below, wide, beyond⟩ := ih (by omega) more
      rw [boundsFrom_cons more] at chain ends
      rw [boundsFrom_cons inside, boundsFrom_cons more]
      refine ⟨List.isChain_cons_cons.mpr ⟨nextBound_follows large, chain⟩, last, ?_, below, wide, beyond⟩
      rw [List.getLast?_cons_cons, ends]
    · have stop : boundsFrom (nextBound current) = [] := by rw [boundsFrom, if_neg more]
      rw [boundsFrom_cons inside, stop]
      exact ⟨List.isChain_singleton _, current, rfl, inside, large, by omega⟩
  | case2 current outside => exact absurd inside outside

/-- The layout every client has: from 50 µs to two hours in steps of at most two percent. -/
structure Geometric (bounds : List Nat) : Prop where
  head : bounds.head? = some 50000
  last : bounds.getLast? = some lastBound
  chain : bounds.IsChain Follows

theorem logarithmicHistogramBounds_geometric : Geometric logarithmicHistogramBounds := by
  have start : 50000 ≤ lastBound := by decide
  obtain ⟨chain, last, ends, below, wide, beyond⟩ := boundsFrom_spec (by decide) start
  have first : (boundsFrom 50000).head? = some 50000 := by rw [boundsFrom_cons start, List.head?_cons]
  rw [logarithmicHistogramBounds]
  simp only [ends]
  by_cases short : last < lastBound
  · rw [if_pos short]
    have step := (nextBound_follows wide).2
    refine ⟨?_, by simp, ?_⟩
    · rw [List.head?_append, first, Option.some_or]
    · rw [List.isChain_append]
      refine ⟨chain, List.isChain_singleton _, ?_⟩
      intro before before_last after after_first
      rw [ends, Option.mem_some_iff] at before_last
      rw [List.head?_cons, Option.mem_some_iff] at after_first
      subst before_last after_first
      exact ⟨short, by omega⟩
  · rw [if_neg short]
    exact ⟨first, by rw [ends, show last = lastBound by omega], chain⟩

theorem Geometric.ascending {bounds : List Nat} (geometric : Geometric bounds) : bounds.Pairwise (· < ·) :=
  List.isChain_iff_pairwise.mp (geometric.chain.imp fun _ _ follows => follows.1)

end Bounds

section Snapshots

/-- The counts of a snapshot by bucket. -/
theorem observed_eq (bounds samples : List Nat) :
    samples.foldl (fun h (d : Nat) => h.observe d) (newDurationHistogram bounds) =
      ⟨bounds, placeCounts (bucketOf bounds) (bounds.length + 1) samples, samples.length, samples.sum⟩ := by
  induction samples using List.reverseRecOn with
  | nil => simp [newDurationHistogram, placeCounts_nil]
  | append_singleton samples d ih =>
    rw [List.foldl_append, ih, List.foldl_cons, List.foldl_nil, placeCounts_concat]
    simp [DurationHistogram.observe]

theorem snapshotOf_eq (samples : List Nat) : snapshotOf samples =
    { bucketUpperBoundsS := logarithmicHistogramBounds.map seconds ++ [-1]
      counts := placeCounts (bucketOf logarithmicHistogramBounds) (logarithmicHistogramBounds.length + 1) samples
      count := samples.length
      sumS := seconds samples.sum } := by
  rw [snapshotOf, observed_eq]
  rfl

/-- The order of the durations does not matter. -/
theorem snapshotOf_perm {samples others : List Nat} (same : samples.Perm others) :
    snapshotOf samples = snapshotOf others := by
  rw [snapshotOf_eq, snapshotOf_eq, placeCounts_perm same, same.length_eq, same.sum_eq]

theorem seconds_nonneg (nanoseconds : Nat) : 0 ≤ seconds nanoseconds := by
  unfold seconds
  positivity

theorem bucketOf_le {bounds : List Nat} (d : Nat) : bucketOf bounds d < bounds.length + 1 :=
  Nat.lt_succ_of_le List.findIdx_le_length

theorem snapshotOf_sum (samples : List Nat) : (snapshotOf samples).counts.sum = samples.length := by
  have whole := @placeCounts_take _ (bucketOf logarithmicHistogramBounds) (logarithmicHistogramBounds.length + 1)
    samples _ le_rfl
  rw [List.take_of_length_le (by simp)] at whole
  rw [snapshotOf_eq]
  simp only
  rw [whole, List.countP_eq_length]
  intro d _
  exact decide_eq_true (bucketOf_le d)

/-- One rank's histogram is added to what was merged. -/
theorem mergeFrom_snapshot (parts : List (List Nat)) (rank : Nat) (merged : List Nat) :
    mergeFrom (logarithmicHistogramBounds.map seconds ++ [-1]) rank (snapshotOf merged) (parts.map snapshotOf) =
      .ok (snapshotOf (merged ++ parts.flatten)) := by
  induction parts generalizing rank merged with
  | nil => rw [List.map_nil, mergeFrom, List.flatten_nil, List.append_nil]
  | cons samples rest ih =>
    have valid : ¬ ((snapshotOf samples).bucketUpperBoundsS ≠ logarithmicHistogramBounds.map seconds ++ [-1] ∨
        (snapshotOf samples).counts.length ≠ (logarithmicHistogramBounds.map seconds ++ [-1]).length ∨
        (snapshotOf samples).counts.sum ≠ (snapshotOf samples).count ∨ (snapshotOf samples).sumS < 0) := by
      rw [snapshotOf_sum, snapshotOf_eq]
      have sum := seconds_nonneg samples.sum
      simp [sum]
    have added : { snapshotOf merged with
        counts := List.zipWith (· + ·) (snapshotOf merged).counts (snapshotOf samples).counts
        count := (snapshotOf merged).count + (snapshotOf samples).count
        sumS := (snapshotOf merged).sumS + (snapshotOf samples).sumS } = snapshotOf (merged ++ samples) := by
      simp only [snapshotOf_eq, placeCounts_append, List.length_append, List.sum_append, seconds, Nat.cast_add]
      congr 1
      ring
    rw [List.map_cons, mergeFrom, if_neg valid, added, ih, List.flatten_cons, List.append_assoc]

theorem mergeLatencyHistograms_snapshots {parts : List (List Nat)} (some_part : parts ≠ []) :
    mergeLatencyHistograms (parts.map snapshotOf) = .ok (snapshotOf parts.flatten) := by
  obtain ⟨samples, rest, rfl⟩ := List.exists_cons_of_ne_nil some_part
  have bounds : (snapshotOf samples).bucketUpperBoundsS = logarithmicHistogramBounds.map seconds ++ [-1] := by
    rw [snapshotOf_eq]
  have some_bound : logarithmicHistogramBounds ≠ [] := by
    intro none
    have first := logarithmicHistogramBounds_geometric.head
    rw [none] at first
    cases first
  have layout : ¬ ((logarithmicHistogramBounds.map seconds ++ [-1]).length < 2 ∨
      (logarithmicHistogramBounds.map seconds ++ [-1]).getLast? ≠ some (-1)) := by
    have positive := List.length_pos_iff.mpr some_bound
    simp
    omega
  have blank : (⟨logarithmicHistogramBounds.map seconds ++ [-1],
      List.replicate (logarithmicHistogramBounds.map seconds ++ [-1]).length 0, 0, 0⟩ : HistogramSnapshot) =
      snapshotOf [] := by
    rw [snapshotOf_eq, placeCounts_nil]
    simp [seconds]
  rw [List.map_cons, mergeLatencyHistograms]
  simp only [bounds]
  rw [if_neg layout, blank, ← List.map_cons, mergeFrom_snapshot, List.nil_append]

/-- Histograms as they are gathered: of one process, or merged from gathered ones. -/
inductive Gathered : List Nat → HistogramSnapshot → Prop where
  | observed (samples : List Nat) : Gathered samples (snapshotOf samples)
  | merged {parts : List (List Nat × HistogramSnapshot)} {result : HistogramSnapshot}
      (each : ∀ part ∈ parts, Gathered part.1 part.2)
      (done : mergeLatencyHistograms (parts.map Prod.snd) = .ok result) :
      Gathered (parts.flatMap Prod.fst) result

theorem snapshots_of_each {parts : List (List Nat × HistogramSnapshot)}
    (each : ∀ part ∈ parts, part.2 = snapshotOf part.1) :
    parts.map Prod.snd = (parts.map Prod.fst).map snapshotOf := by
  rw [List.map_map]
  exact List.map_congr_left each

/-- Whatever the order and the grouping, the result is the histogram of all the durations. -/
theorem Gathered.eq {samples : List Nat} {histogram : HistogramSnapshot} (gathered : Gathered samples histogram) :
    histogram = snapshotOf samples := by
  induction gathered with
  | observed samples => rfl
  | @merged parts result each done ih =>
    by_cases some_part : parts = []
    · subst some_part
      cases done
    · rw [snapshots_of_each ih, mergeLatencyHistograms_snapshots (by simpa using some_part)] at done
      rw [← Except.ok.inj done, List.flatMap_def]

theorem Gathered.merge {parts : List (List Nat × HistogramSnapshot)} (some_part : parts ≠ [])
    (each : ∀ part ∈ parts, Gathered part.1 part.2) :
    ∃ result, mergeLatencyHistograms (parts.map Prod.snd) = .ok result := by
  rw [snapshots_of_each fun part member => (each part member).eq]
  exact ⟨_, mergeLatencyHistograms_snapshots (by simpa using some_part)⟩

end Snapshots

end ExaServe.Replay.ExactHistogram
