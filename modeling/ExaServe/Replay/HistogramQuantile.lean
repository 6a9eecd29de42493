import Mathlib.Tactic.Linarith
import Mathlib.Tactic.FieldSimp
import ExaServe.Replay.HistogramMerge

namespace ExaServe.Replay.ExactHistogram

open Lib Control

section Crossing

variable {bounds : List ℚ} {counts : List Nat} {threshold : Nat}

/-- The bucket whose count reaches the threshold. -/
structure Crosses (counts : List Nat) (threshold index : Nat) : Prop where
  inside : index < counts.length
  before : (counts.take index).sum < threshold
  reached : threshold ≤ (counts.take (index + 1)).sum

theorem take_sum_succ {index : Nat} (inside : index < counts.length) :
    (counts.take (index + 1)).sum = (counts.take index).sum + counts[index] := by
  rw [List.take_succ_eq_append_getElem inside, List.sum_append, List.sum_singleton]

theorem take_sum_le {first second : Nat} (ordered : first ≤ second) :
    (counts.take first).sum ≤ (counts.take second).sum := by
  obtain ⟨rest, split⟩ := List.take_prefix_take_left (l := counts) ordered
  rw [← split, List.sum_append]
  omega

theorem Crosses.le {lower upper first second : Nat} (one : Crosses counts lower first)
    (other : Crosses counts upper second) (ordered : lower ≤ upper) : first ≤ second := by
  by_contra later
  have sums := @take_sum_le counts (second + 1) first (by omega)
  have before := one.before
  have reached := other.reached
  omega

/-- Both readers stop at the bucket that reaches the threshold. -/
theorem percentileFrom_crosses {index before : Nat} (below : before < threshold)
    (covered : threshold ≤ before + counts.sum) :
    ∃ (steps : Nat) (inside : steps < counts.length), before + (counts.take steps).sum < threshold ∧
      threshold ≤ before + (counts.take (steps + 1)).sum ∧
      percentileFrom bounds threshold index before counts =
        bucketValue bounds threshold (index + steps) (before + (counts.take (steps + 1)).sum) counts[steps] ∧
      goPercentileFrom bounds threshold index before counts =
        goBucketValue bounds threshold (index + steps) (before + (counts.take (steps + 1)).sum) counts[steps] := by
  induction counts generalizing index before with
  | nil =>
    rw [List.sum_nil] at covered
    omega
  | cons count rest ih =>
    by_cases reached : threshold ≤ before + count
    · refine ⟨0, Nat.succ_pos _, by simpa using below, by simpa using reached, ?_, ?_⟩
      · rw [percentileFrom, if_neg (by omega)]
        simp
      · rw [goPercentileFrom, if_pos reached]
        simp
    · rw [List.sum_cons] at covered
      obtain ⟨steps, inside, under, over_, python, go⟩ := @ih (index + 1) (before + count) (by omega) (by omega)
      have sums : ∀ n, before + ((count :: rest).take (n + 1)).sum = before + count + (rest.take n).sum := by
        intro n
        rw [List.take_succ_cons, List.sum_cons, Nat.add_assoc]
      refine ⟨steps + 1, Nat.succ_lt_succ inside, ?_, ?_, ?_, ?_⟩
      · rw [sums]
        exact under
      · rw [sums]
        exact over_
      · rw [percentileFrom, sums, List.getElem_cons_succ, if_pos (by omega), python,
          show index + (steps + 1) = index + 1 + steps by omega]
      · rw [goPercentileFrom, sums, List.getElem_cons_succ, if_neg reached, go,
          show index + (steps + 1) = index + 1 + steps by omega]

end Crossing

section Values

/-- A snapshot as the validation accepts it: ascending bounds that are not negative, then the
    overflow bucket's -1, and counts that add up. -/
structure Valid (histogram : HistogramSnapshot) (finite : List ℚ) : Prop where
  bounds : histogram.bucketUpperBoundsS = finite ++ [-1]
  some_bound : finite ≠ []
  nonneg : ∀ bound ∈ finite, 0 ≤ bound
  ascending : finite.Pairwise (· < ·)
  lengths : histogram.counts.length = histogram.bucketUpperBoundsS.length
  total : histogram.counts.sum = histogram.count
  sum : 0 ≤ histogram.sumS

variable (finite : List ℚ)

/-- The lower edge of a bucket, which is the upper edge of the one before. -/
def edge (index : Nat) : ℚ := if index = 0 then 0 else finite[index - 1]?.getD 0

/-- The value read in a bucket: interpolated, the lower edge in the overflow bucket. -/
def valueAt (threshold index prior count : Nat) : ℚ :=
  if index < finite.length then
    edge finite index + ((threshold - prior : Nat) : ℚ) / count * (edge finite (index + 1) - edge finite index)
  else edge finite index

variable {finite} {histogram : HistogramSnapshot} {index second : Nat}

theorem edge_zero : edge finite 0 = 0 := rfl

theorem itemAt_some {items : List ℚ} {item : ℚ} (found : items[index]? = some item) :
    itemAt items index = .ok item := by
  rw [itemAt, found]

theorem edge_succ (inside : index < finite.length) : edge finite (index + 1) = finite[index] := by
  rw [edge, if_neg (Nat.succ_ne_zero _), Nat.add_sub_cancel, List.getElem?_eq_getElem inside,
    Option.getD_some]

theorem Valid.edge_nonneg (valid : Valid histogram finite) : 0 ≤ edge finite index := by
  unfold edge
  split
  · exact le_rfl
  · cases found : finite[index - 1]? with
    | none => exact le_rfl
    | some bound => exact valid.nonneg bound (List.mem_of_getElem? found)

theorem Valid.edge_mono (valid : Valid histogram finite) {first : Nat} (ordered : first ≤ second)
    (inside : second ≤ finite.length) : edge finite first ≤ edge finite second := by
  by_cases start : first = 0
  · rw [start]
    exact valid.edge_nonneg
  · obtain ⟨before, rfl⟩ := Nat.exists_eq_succ_of_ne_zero start
    obtain ⟨last, rfl⟩ := Nat.exists_eq_succ_of_ne_zero (show second ≠ 0 by omega)
    rw [edge_succ (by omega), edge_succ (by omega)]
    rcases (Nat.le_of_succ_le_succ ordered).lt_or_eq with less | same
    · exact (List.pairwise_iff_getElem.mp valid.ascending before last (by omega) (by omega) less).le
    · subst same
      exact le_rfl

/-- A position in a bucket that is reached. -/
theorem position_bounds {threshold prior count : Nat} (before : prior < threshold)
    (reached : threshold ≤ prior + count) :
    0 < ((threshold - prior : Nat) : ℚ) / count ∧ ((threshold - prior : Nat) : ℚ) / count ≤ 1 := by
  have positive : (0 : ℚ) < count := by exact_mod_cast (show 0 < count by omega)
  constructor
  · exact div_pos (by exact_mod_cast (show 0 < threshold - prior by omega)) positive
  · rw [div_le_one positive]
    exact_mod_cast (show threshold - prior ≤ count by omega)

theorem Valid.value_bounds (valid : Valid histogram finite) {threshold prior count : Nat}
    (inside : index < finite.length) (before : prior < threshold) (reached : threshold ≤ prior + count) :
    edge finite index ≤ valueAt finite threshold index prior count ∧
      valueAt finite threshold index prior count ≤ edge finite (index + 1) := by
  have position := position_bounds before reached
  have width : 0 ≤ edge finite (index + 1) - edge finite index := by
    have ordered := valid.edge_mono (Nat.le_succ index) inside
    linarith
  rw [valueAt, if_pos inside]
  constructor
  · have share := mul_nonneg position.1.le width
    linarith
  · have share := mul_le_of_le_one_left width position.2
    linarith

/-- What both readers read in a bucket that is reached. -/
theorem Valid.bucketValue_eq (valid : Valid histogram finite) {threshold prior count : Nat}
    (inside : index ≤ finite.length) (before : prior < threshold) (reached : threshold ≤ prior + count) :
    bucketValue histogram.bucketUpperBoundsS threshold index (prior + count) count =
        .ok (valueAt finite threshold index prior count) ∧
      goBucketValue histogram.bucketUpperBoundsS threshold index (prior + count) count =
        some (valueAt finite threshold index prior count) := by
  have some_count : ¬ count = 0 := by omega
  have lower : index ≠ 0 → (finite ++ [-1])[index - 1]? = some (edge finite index) := by
    intro later
    have within : index - 1 < finite.length := by omega
    rw [List.getElem?_append_left within, List.getElem?_eq_getElem within, ← edge_succ within,
      show index - 1 + 1 = index by omega]
  rw [valid.bounds]
  by_cases last : index < finite.length
  · have upper : (finite ++ [-1])[index]? = some (edge finite (index + 1)) := by
      rw [List.getElem?_append_left last, List.getElem?_eq_getElem last, edge_succ last]
    have finite_bound : ¬ edge finite (index + 1) < 0 := not_lt.mpr valid.edge_nonneg
    rw [valueAt, if_pos last]
    rw [bucketValue, goBucketValue, ok_bind (itemAt_some upper), upper]
    by_cases start : index = 0
    · subst start
      simp [finite_bound, some_count, ok_bind rfl, edge_zero]
    · simp [itemAt_some (lower start), lower start, finite_bound, some_count, start, ok_bind rfl,
        Nat.pos_of_ne_zero start]
  · have edge_index : index = finite.length := by omega
    have later : index ≠ 0 := by
      rw [edge_index]
      exact (List.length_pos_iff.mpr valid.some_bound).ne'
    have upper : (finite ++ [-1])[index]? = some (-1) := by simp [edge_index]
    rw [valueAt, if_neg last, bucketValue, goBucketValue, ok_bind (itemAt_some upper), upper]
    simp [itemAt_some (lower later), lower later, later, Nat.pos_of_ne_zero later]

end Values

section Readers

variable {histogram : HistogramSnapshot} {finite : List ℚ} {fraction : ℚ}

/-- The rank that is looked for: the least not below the fraction of the count. -/
def rankOf (count : Nat) (fraction : ℚ) : Nat := max 1 ⌈count * fraction⌉.toNat

theorem rankOf_pos (count : Nat) (fraction : ℚ) : 1 ≤ rankOf count fraction := Nat.le_max_left _ _

theorem rankOf_le {count : Nat} (some_count : count ≠ 0) (small : fraction ≤ 1) : rankOf count fraction ≤ count := by
  have product : (count : ℚ) * fraction ≤ count := by
    have natural : (0 : ℚ) ≤ count := Nat.cast_nonneg count
    nlinarith
  have ceiling : ⌈(count : ℚ) * fraction⌉ ≤ count := Int.ceil_le.mpr (by exact_mod_cast product)
  unfold rankOf
  omega

theorem rankOf_mono {count : Nat} {lower upper : ℚ} (ordered : lower ≤ upper) :
    rankOf count lower ≤ rankOf count upper := by
  have product : (count : ℚ) * lower ≤ count * upper := mul_le_mul_of_nonneg_left ordered (Nat.cast_nonneg count)
  have ceiling := Int.ceil_le_ceil product
  unfold rankOf
  omega

theorem max_ceil_toNat (count : Nat) : (max 1 ⌈(count : ℚ) * fraction⌉).toNat = rankOf count fraction := by
  unfold rankOf
  omega

/-- Both readers give the value of the bucket that reaches the rank. -/
theorem Valid.percentile_eq (valid : Valid histogram finite) (some_count : histogram.count ≠ 0)
    (small : fraction ≤ 1) :
    ∃ (index : Nat) (inside : index < histogram.counts.length),
      Crosses histogram.counts (rankOf histogram.count fraction) index ∧
      histogramPercentile histogram fraction = .ok (valueAt finite (rankOf histogram.count fraction) index
        (histogram.counts.take index).sum histogram.counts[index]) ∧
      percentileFromHistogram histogram fraction = some (valueAt finite (rankOf histogram.count fraction) index
        (histogram.counts.take index).sum histogram.counts[index]) := by
  have positive := rankOf_pos histogram.count fraction
  have covered : rankOf histogram.count fraction ≤ 0 + histogram.counts.sum := by
    rw [valid.total, Nat.zero_add]
    exact rankOf_le some_count small
  obtain ⟨index, inside, before, reached, python, go⟩ :=
    @percentileFrom_crosses histogram.bucketUpperBoundsS histogram.counts _ 0 0 positive covered
  rw [Nat.zero_add] at before
  rw [Nat.zero_add] at reached
  have bucket : index ≤ finite.length := by
    have length := valid.lengths
    rw [valid.bounds, List.length_append, List.length_singleton] at length
    omega
  have value := valid.bucketValue_eq bucket before (by rw [← take_sum_succ inside]; exact reached)
  rw [← take_sum_succ inside] at value
  have threshold : (if ⌈(histogram.count : ℚ) * fraction⌉.toNat = 0 then 1
      else ⌈(histogram.count : ℚ) * fraction⌉.toNat) = rankOf histogram.count fraction := by
    unfold rankOf
    split_ifs with zero
    · omega
    · omega
  refine ⟨index, inside, ⟨inside, before, reached⟩, ?_, ?_⟩
  · rw [histogramPercentile, if_neg some_count]
    simp only
    rw [max_ceil_toNat, python, Nat.zero_add, Nat.zero_add, value.1]
  · rw [percentileFromHistogram, if_neg some_count]
    simp only
    rw [threshold, go, Nat.zero_add, Nat.zero_add, value.2]

/-- The Go client and the Python summary read the same percentile. -/
theorem Valid.readers_agree (valid : Valid histogram finite) (small : fraction ≤ 1) :
    ∃ value, histogramPercentile histogram fraction = .ok value ∧
      percentileFromHistogram histogram fraction = some value := by
  by_cases empty : histogram.count = 0
  · exact ⟨0, by rw [histogramPercentile, if_pos empty], by rw [percentileFromHistogram, if_pos empty]⟩
  · obtain ⟨index, inside, -, python, go⟩ := valid.percentile_eq empty small
    exact ⟨_, python, go⟩

/-- A greater fraction never reads a smaller percentile. -/
theorem Valid.percentile_mono (valid : Valid histogram finite) {lower upper : ℚ} (ordered : lower ≤ upper)
    (small : upper ≤ 1) :
    ∃ least most, histogramPercentile histogram lower = .ok least ∧ histogramPercentile histogram upper = .ok most ∧
      least ≤ most := by
  by_cases empty : histogram.count = 0
  · exact ⟨0, 0, by rw [histogramPercentile, if_pos empty], by rw [histogramPercentile, if_pos empty], le_rfl⟩
  · obtain ⟨first, inside, one, read_one, -⟩ := valid.percentile_eq empty (ordered.trans small)
    obtain ⟨second, within, other, read_other, -⟩ := valid.percentile_eq empty small
    have ranks := @rankOf_mono histogram.count _ _ ordered
    have length := valid.lengths
    rw [valid.bounds, List.length_append, List.length_singleton] at length
    refine ⟨_, _, read_one, read_other, ?_⟩
    have one_reached := one.reached
    rw [take_sum_succ inside] at one_reached
    have other_reached := other.reached
    rw [take_sum_succ within] at other_reached
    have above : edge finite second ≤ valueAt finite (rankOf histogram.count upper) second
        (histogram.counts.take second).sum histogram.counts[second] := by
      by_cases finite_bucket : second < finite.length
      · exact (valid.value_bounds finite_bucket other.before other_reached).1
      · rw [valueAt, if_neg finite_bucket]
    rcases (one.le other ranks).lt_or_eq with earlier | same
    · have below := (valid.value_bounds (show first < finite.length by omega) one.before one_reached).2
      exact below.trans ((valid.edge_mono earlier (by omega)).trans above)
    · subst same
      by_cases finite_bucket : first < finite.length
      · have width : 0 ≤ edge finite (first + 1) - edge finite first := by
          have step := valid.edge_mono (Nat.le_succ first) finite_bucket
          linarith
        have closer : ((rankOf histogram.count lower - (histogram.counts.take first).sum : Nat) : ℚ) ≤
            (rankOf histogram.count upper - (histogram.counts.take first).sum : Nat) := by
          exact_mod_cast Nat.sub_le_sub_right ranks _
        have position := div_le_div_of_nonneg_right closer (Nat.cast_nonneg (α := ℚ) histogram.counts[first])
        have share := mul_le_mul_of_nonneg_right position width
        rw [valueAt, if_pos finite_bucket, valueAt, if_pos finite_bucket]
        linarith
      · rw [valueAt, if_neg finite_bucket, valueAt, if_neg finite_bucket]

end Readers

end ExaServe.Replay.ExactHistogram
