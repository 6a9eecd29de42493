import Mathlib.Algebra.Order.Field.Rat
import Mathlib.Tactic.Linarith
import ExaServe.Lib.Binary64

namespace Lib

/-- A 64-bit signed integer holds what is left of a value. -/
def toInt64 (value : Int) : Int := value.bmod (2 ^ 64)

theorem toInt64_eq {value : Int} (low : -2 ^ 63 ≤ value) (high : value < 2 ^ 63) : toInt64 value = value := by
  unfold toInt64
  apply Int.bmod_eq_of_le
  · omega
  · omega

theorem toInt64_lt (value : Int) : toInt64 value < 2 ^ 63 := by
  have bound := @Int.bmod_lt value (2 ^ 64) (by decide)
  unfold toInt64
  omega

theorem toInt64_ne {value : Int} (high : 2 ^ 63 ≤ value) : toInt64 value ≠ value := by
  have bound := toInt64_lt value
  omega

/-- The magnitude of a quotient rounded to 53 bits: the bits below the 128th after the point
    only say whether the quotient was exact. -/
def roundQuotient (dividend divisor : Nat) : ℚ :=
  (roundNat (2 * (dividend * 2 ^ 128 / divisor) + if dividend * 2 ^ 128 % divisor = 0 then 0 else 1) : ℚ) / 2 ^ 129

/-- The binary64 quotient of two 64-bit integers, the divisor positive. -/
def floatQuotient (dividend divisor : Int) : ℚ :=
  let magnitude := roundQuotient (roundNat dividend.natAbs) (roundNat divisor.natAbs)
  if dividend < 0 then -magnitude else magnitude

theorem roundQuotient_nonneg (dividend divisor : Nat) : 0 ≤ roundQuotient dividend divisor := by
  unfold roundQuotient
  exact div_nonneg (Nat.cast_nonneg _) (by norm_num)

/-- Rounding moves a number by at most a 2^53rd part of it. -/
theorem roundNat_error (n : Nat) :
    (2 ^ 53 - 1) * n ≤ 2 ^ 53 * roundNat n ∧ 2 ^ 53 * roundNat n ≤ (2 ^ 53 + 1) * n := by
  by_cases large : 2 ^ 52 ≤ n
  · have lead := quotient_ge large
    have split := Nat.div_add_mod n (2 ^ (n.log2 - 52))
    have rest := Nat.mod_lt n (Nat.two_pow_pos (n.log2 - 52))
    rw [roundNat, roundShift]
    generalize 2 ^ (n.log2 - 52) = unit at *
    have units : 2 ^ 52 * unit ≤ unit * (n / unit) := by
      rw [Nat.mul_comm unit]
      exact Nat.mul_le_mul_right _ lead
    have down : n / unit * unit = unit * (n / unit) := Nat.mul_comm _ _
    have up : (n / unit + 1) * unit = unit * (n / unit) + unit := by rw [Nat.add_mul, Nat.one_mul, down]
    rw [down, up]
    generalize unit * (n / unit) = whole at *
    generalize n % unit = low at *
    split_ifs with near
    · omega
    · have far : unit ≤ 2 * low := by omega
      omega
  · rw [roundNat_small (by omega)]
    omega

/-- The bits after the 128th are lost, but for one that says that there were some. -/
theorem sticky_ge {dividend divisor : Nat} (divides : 0 < divisor) :
    2 * dividend ≤ (2 * (dividend / divisor) + if dividend % divisor = 0 then 0 else 1) * divisor + divisor := by
  have split := Nat.div_add_mod dividend divisor
  have rest := Nat.mod_lt dividend divides
  rw [Nat.add_mul, Nat.mul_assoc, Nat.mul_comm (dividend / divisor)]
  split_ifs with exact_
  · omega
  · omega

theorem roundQuotient_ge {dividend divisor : Nat} (positive : 0 < dividend) (divides : 0 < divisor)
    (small : divisor ≤ 2 ^ 64) :
    (dividend : ℚ) / divisor * (1 - 1 / 2 ^ 53 - 1 / 2 ^ 64) ≤ roundQuotient dividend divisor := by
  have sticky := @sticky_ge (dividend * 2 ^ 128) divisor divides
  rw [roundQuotient]
  generalize 2 * (dividend * 2 ^ 128 / divisor) + (if dividend * 2 ^ 128 % divisor = 0 then 0 else 1) = bits at *
  have error := (roundNat_error bits).1
  have relative : (2 ^ 53 - 1) * (bits * divisor) ≤ 2 ^ 53 * (roundNat bits * divisor) := by
    rw [← Nat.mul_assoc, ← Nat.mul_assoc]
    exact Nat.mul_le_mul_right _ error
  have wide : divisor * 2 ^ 64 ≤ dividend * 2 ^ 128 := by
    calc divisor * 2 ^ 64 ≤ 2 ^ 64 * 2 ^ 64 := Nat.mul_le_mul_right _ small
      _ = 1 * 2 ^ 128 := by norm_num
      _ ≤ dividend * 2 ^ 128 := Nat.mul_le_mul_right _ positive
  have divisor_pos : (0 : ℚ) < divisor := Nat.cast_pos.mpr divides
  rw [div_mul_eq_mul_div, div_le_div_iff₀ divisor_pos (by norm_num)]
  have measured : (dividend : ℚ) * (2 * 2 ^ 128 * (2 ^ 64 - 1 / 2)) ≤ 2 ^ 64 * (bits * divisor) := by
    have lifted : ((2 ^ 64 * (2 * (dividend * 2 ^ 128)) : Nat) : ℚ) ≤
        ((2 ^ 64 * (bits * divisor) + dividend * 2 ^ 128 : Nat) : ℚ) := by
      apply Nat.cast_le.mpr
      omega
    push_cast at lifted
    linarith
  have rounded : ((2 ^ 53 - 1 : ℚ) * (bits * divisor)) ≤ 2 ^ 53 * (roundNat bits * divisor) := by
    have lifted := (Nat.cast_le (α := ℚ)).mpr relative
    push_cast at lifted
    linarith
  have natural : (0 : ℚ) ≤ dividend := Nat.cast_nonneg _
  generalize (bits : ℚ) * divisor = product at *
  generalize (roundNat bits : ℚ) * divisor = result at *
  norm_num at *
  linarith

/-- A quotient that is rounded down to a bound is at most two units in 2^53 above it. -/
theorem floatQuotient_le {dividend divisor : Int} {bound : ℚ} (natural : 0 ≤ dividend) (positive : 0 < divisor)
    (small : divisor < 2 ^ 63) (near : floatQuotient dividend divisor ≤ bound) :
    (dividend : ℚ) ≤ bound * divisor * (1 + 1 / 2 ^ 51) := by
  lift dividend to Nat using natural
  lift divisor to Nat using positive.le
  rw [floatQuotient, if_neg (by omega), Int.natAbs_natCast, Int.natAbs_natCast] at near
  have bound_nonneg := (roundQuotient_nonneg _ _).trans near
  rcases Nat.eq_zero_or_pos dividend with zero | counted
  · rw [zero]
    positivity
  · have below := (roundNat_error dividend).1
    have above := (roundNat_error divisor).2
    have divisor_ge := (roundNat_error divisor).1
    have quotient := (roundQuotient_ge (show 0 < roundNat dividend by omega) (show 0 < roundNat divisor by omega)
      (by omega)).trans near
    have divisor_pos : (0 : ℚ) < roundNat divisor := Nat.cast_pos.mpr (by omega)
    rw [div_mul_eq_mul_div, div_le_iff₀ divisor_pos] at quotient
    have low := (Nat.cast_le (α := ℚ)).mpr below
    have high := (Nat.cast_le (α := ℚ)).mpr above
    push_cast at low high
    have scaled := mul_le_mul_of_nonneg_left high bound_nonneg
    have product_nonneg : 0 ≤ bound * divisor := mul_nonneg bound_nonneg (Nat.cast_nonneg _)
    rw [mul_left_comm, mul_left_comm bound] at scaled
    push_cast
    generalize bound * (divisor : ℚ) = product at *
    generalize bound * (roundNat divisor : ℚ) = reach at *
    norm_num at *
    linarith

theorem floatQuotient_nonpos {dividend divisor : Int} (small : dividend ≤ 0) :
    floatQuotient dividend divisor ≤ 0 := by
  rw [floatQuotient]
  by_cases negative : dividend < 0
  · rw [if_pos negative]
    have magnitude := roundQuotient_nonneg (roundNat dividend.natAbs) (roundNat divisor.natAbs)
    linarith
  · have zero : dividend = 0 := by omega
    subst zero
    simp [roundQuotient, roundNat_small]

end Lib
