import Mathlib.Algebra.Order.Floor.Ring
import Mathlib.Data.Rat.Floor
import ExaServe.Lib.Except
import ExaServe.Control.Contracts

namespace ExaServe.Replay.ExactHistogram

open Lib Control

section Bounds

/-- Nanoseconds of the last finite bound, two hours. -/
def lastBound : Nat := 7200 * 10 ^ 9

/-- Two percent more, cut to a nanosecond. The float product of the source is cut to the same:
    its error is below the distance of a fraction with denominator 50 to the next integer. -/
def nextBound (current : Nat) : Nat :=
  let next := current * 102 / 100
  if next ≤ current then current + 1 else next

theorem lt_nextBound (current : Nat) : current < nextBound current := by
  simp only [nextBound]
  split
  · omega
  · omega

def boundsFrom (current : Nat) : List Nat :=
  if current ≤ lastBound then current :: boundsFrom (nextBound current) else []
termination_by lastBound + 1 - current
decreasing_by
  have grows := lt_nextBound current
  omega

def logarithmicHistogramBounds : List Nat :=
  let bounds := boundsFrom 50000
  match bounds.getLast? with
  | some last => if last < lastBound then bounds ++ [lastBound] else bounds
  | none => bounds

end Bounds

section Observing

/-- A snapshot in exact numbers. -/
structure HistogramSnapshot where
  bucketUpperBoundsS : List ℚ
  counts : List Nat
  count : Nat
  sumS : ℚ
  deriving DecidableEq

structure DurationHistogram where
  bounds : List Nat
  counts : List Nat
  total : Nat
  sumNs : Nat

def newDurationHistogram (bounds : List Nat) : DurationHistogram where
  bounds
  counts := List.replicate (bounds.length + 1) 0
  total := 0
  sumNs := 0

/-- The first bucket whose bound a duration does not exceed, else the overflow bucket. -/
def bucketOf (bounds : List Nat) (d : Nat) : Nat := bounds.findIdx fun bound => d ≤ bound

/-- A negative duration counts as zero. -/
def DurationHistogram.observe (h : DurationHistogram) (d : Int) : DurationHistogram :=
  { h with
    counts := h.counts.modify (bucketOf h.bounds d.toNat) (· + 1)
    total := h.total + 1
    sumNs := h.sumNs + d.toNat }

def seconds (nanoseconds : Nat) : ℚ := nanoseconds / 10 ^ 9

def DurationHistogram.snapshot (h : DurationHistogram) : HistogramSnapshot where
  bucketUpperBoundsS := h.bounds.map seconds ++ [-1]
  counts := h.counts
  count := h.total
  sumS := seconds h.sumNs

/-- The snapshot after some durations were observed. -/
def snapshotOf (samples : List Nat) : HistogramSnapshot :=
  (samples.foldl (fun h (d : Nat) => h.observe d) (newDurationHistogram logarithmicHistogramBounds)).snapshot

end Observing

section Merging

def valueError {α : Type} (message : String) : Except Raised α := .error (.other "ValueError" message)

/-- The loop over the ranks, with what is merged so far. -/
def mergeFrom (bounds : List ℚ) : Nat → HistogramSnapshot → List HistogramSnapshot → Except Raised HistogramSnapshot
  | _, merged, [] => .ok merged
  | rank, merged, histogram :: rest =>
    if histogram.bucketUpperBoundsS ≠ bounds ∨ histogram.counts.length ≠ bounds.length ∨
        histogram.counts.sum ≠ histogram.count ∨ histogram.sumS < 0 then
      valueError s!"rank {rank} latency histogram values are invalid"
    else
      mergeFrom bounds (rank + 1)
        { merged with
          counts := List.zipWith (· + ·) merged.counts histogram.counts
          count := merged.count + histogram.count
          sumS := merged.sumS + histogram.sumS } rest

def mergeLatencyHistograms : List HistogramSnapshot → Except Raised HistogramSnapshot
  | [] => valueError "latency histogram merge requires at least one rank"
  | first :: rest =>
    let bounds := first.bucketUpperBoundsS
    if bounds.length < 2 ∨ bounds.getLast? ≠ some (-1) then valueError "latency histogram has no bucket layout"
    else mergeFrom bounds 0 ⟨bounds, List.replicate bounds.length 0, 0, 0⟩ (first :: rest)

end Merging

section Percentiles

def itemAt (items : List ℚ) (index : Nat) : Except Raised ℚ :=
  match items[index]? with
  | some item => .ok item
  | none => .error (.other "IndexError" "list index out of range")

/-- The value read in the bucket that reaches the threshold. -/
def bucketValue (bounds : List ℚ) (threshold index cumulative bucketCount : Nat) : Except Raised ℚ := do
  let upper ← itemAt bounds index
  if upper < 0 then
    if index = 0 then valueError "latency histogram overflow has no finite lower bound"
    else itemAt bounds (index - 1)
  else
    let lower ← if index = 0 then .ok 0 else itemAt bounds (index - 1)
    let prior := cumulative - bucketCount
    if bucketCount = 0 then .ok upper
    else
      let position : ℚ := (threshold - prior : Nat) / bucketCount
      .ok (lower + position * (upper - lower))

def percentileFrom (bounds : List ℚ) (threshold : Nat) : Nat → Nat → List Nat → Except Raised ℚ
  | _, _, [] => valueError "latency histogram count exceeds bucket coverage"
  | index, before, bucketCount :: rest =>
    let cumulative := before + bucketCount
    if cumulative < threshold then percentileFrom bounds threshold (index + 1) cumulative rest
    else bucketValue bounds threshold index cumulative bucketCount

def histogramPercentile (histogram : HistogramSnapshot) (fraction : ℚ) : Except Raised ℚ :=
  if histogram.count = 0 then .ok 0
  else
    let threshold := max 1 ⌈histogram.count * fraction⌉
    percentileFrom histogram.bucketUpperBoundsS threshold.toNat 0 0 histogram.counts

/-- The Go client's reading; none where an index is out of range. -/
def goBucketValue (bounds : List ℚ) (threshold index cumulative count : Nat) : Option ℚ := do
  let upper ← bounds[index]?
  if upper < 0 then
    if 0 < index then bounds[index - 1]? else some 0
  else
    let lower ← if 0 < index then bounds[index - 1]? else some 0
    let prevCumulative := cumulative - count
    if count = 0 then some upper
    else
      let fraction : ℚ := (threshold - prevCumulative : Nat) / count
      some (lower + fraction * (upper - lower))

def goPercentileFrom (bounds : List ℚ) (threshold : Nat) : Nat → Nat → List Nat → Option ℚ
  -- the greatest finite bound, where the buckets do not cover the count
  | _, _, [] => some ((bounds.reverse.find? fun bound => 0 ≤ bound).getD 0)
  | i, before, count :: rest =>
    let cumulative := before + count
    if threshold ≤ cumulative then goBucketValue bounds threshold i cumulative count
    else goPercentileFrom bounds threshold (i + 1) cumulative rest

def percentileFromHistogram (snap : HistogramSnapshot) (p : ℚ) : Option ℚ :=
  if snap.count = 0 then some 0
  else
    let ceiling := ⌈snap.count * p⌉.toNat
    let threshold := if ceiling = 0 then 1 else ceiling
    goPercentileFrom snap.bucketUpperBoundsS threshold 0 0 snap.counts

end Percentiles

end ExaServe.Replay.ExactHistogram
