import Mathlib.Data.Nat.Log
import Mathlib.Tactic.Ring

namespace Lib

/-- The multiple of `2 ^ shift` nearest to a number, the even one of two equally near. -/
def roundShift (n shift : Nat) : Nat :=
  if 2 * (n % 2 ^ shift) < 2 ^ shift ∨ (2 * (n % 2 ^ shift) = 2 ^ shift ∧ n / 2 ^ shift % 2 = 0) then
    n / 2 ^ shift * 2 ^ shift
  else (n / 2 ^ shift + 1) * 2 ^ shift

/-- A number rounded to 53 significant bits. -/
def roundNat (n : Nat) : Nat := roundShift n (n.log2 - 52)

theorem roundShift_ge (n shift : Nat) : n / 2 ^ shift * 2 ^ shift ≤ roundShift n shift := by
  unfold roundShift
  split
  · exact le_rfl
  · exact Nat.mul_le_mul_right _ (Nat.le_succ _)

theorem roundShift_le (n shift : Nat) : roundShift n shift ≤ (n / 2 ^ shift + 1) * 2 ^ shift := by
  unfold roundShift
  split
  · exact Nat.mul_le_mul_right _ (Nat.le_succ _)
  · exact le_rfl

theorem roundNat_small {n : Nat} (small : n < 2 ^ 53) : roundNat n = n := by
  have short : n.log2 - 52 = 0 := by
    by_cases zero : n = 0
    · rw [zero]
      rfl
    · have below := (Nat.log2_lt zero).mpr small
      omega
  rw [roundNat, short, roundShift]
  simp [Nat.mod_one]

section Large

variable {n : Nat} (large : 2 ^ 52 ≤ n)

include large

theorem exponent_ge : 52 ≤ n.log2 := (Nat.le_log2 (by omega)).mpr large

/-- The leading bits of a number that is rounded. -/
theorem quotient_ge : 2 ^ 52 ≤ n / 2 ^ (n.log2 - 52) := by
  have exponent := exponent_ge large
  rw [Nat.le_div_iff_mul_le (Nat.two_pow_pos _), ← Nat.pow_add, show 52 + (n.log2 - 52) = n.log2 by omega]
  exact Nat.log2_self_le (by omega)

theorem quotient_lt : n / 2 ^ (n.log2 - 52) < 2 ^ 53 := by
  have exponent := exponent_ge large
  rw [Nat.div_lt_iff_lt_mul (Nat.two_pow_pos _), ← Nat.pow_add, show 53 + (n.log2 - 52) = n.log2 + 1 by omega]
  exact Nat.lt_log2_self

theorem roundNat_ge : 2 ^ n.log2 ≤ roundNat n := by
  have exponent := exponent_ge large
  calc 2 ^ n.log2 = 2 ^ 52 * 2 ^ (n.log2 - 52) := by rw [← Nat.pow_add, show 52 + (n.log2 - 52) = n.log2 by omega]
    _ ≤ n / 2 ^ (n.log2 - 52) * 2 ^ (n.log2 - 52) := Nat.mul_le_mul_right _ (quotient_ge large)
    _ ≤ roundNat n := roundShift_ge _ _

theorem roundNat_le : roundNat n ≤ 2 ^ (n.log2 + 1) := by
  have exponent := exponent_ge large
  calc roundNat n ≤ (n / 2 ^ (n.log2 - 52) + 1) * 2 ^ (n.log2 - 52) := roundShift_le _ _
    _ ≤ 2 ^ 53 * 2 ^ (n.log2 - 52) := Nat.mul_le_mul_right _ (quotient_lt large)
    _ = 2 ^ (n.log2 + 1) := by rw [← Nat.pow_add, show 53 + (n.log2 - 52) = n.log2 + 1 by omega]

end Large

/-- From half a unit below a power of two on, rounding reaches it. -/
theorem roundNat_reaches (half n : Nat) : 2 ^ (54 + half) ≤ roundNat n ↔ 2 ^ (54 + half) - 2 ^ half ≤ n := by
  have top : 2 ^ (54 + half) = 2 ^ 54 * 2 ^ half := Nat.pow_add _ _ _
  have below : 2 ^ (53 + half) = 2 ^ 53 * 2 ^ half := Nat.pow_add _ _ _
  have unit : 2 ^ (half + 1) = 2 * 2 ^ half := Nat.pow_succ'
  have positive : 0 < 2 ^ half := Nat.two_pow_pos _
  by_cases large : 2 ^ 52 ≤ n
  · rcases Nat.lt_trichotomy n.log2 (53 + half) with low | level | high
    · have rounded : roundNat n ≤ 2 ^ (53 + half) := (roundNat_le large).trans (Nat.pow_le_pow_right (by decide) low)
      have under : n < 2 ^ (53 + half) := Nat.lt_log2_self.trans_le (Nat.pow_le_pow_right (by decide) low)
      omega
    · have lead := quotient_ge large
      have bound := quotient_lt large
      have shift : n.log2 - 52 = half + 1 := by omega
      rw [roundNat, roundShift, top]
      rw [shift, unit] at lead bound ⊢
      generalize 2 ^ half = ulp at *
      have split := Nat.div_add_mod n (2 * ulp)
      have rest := Nat.mod_lt n (show 0 < 2 * ulp by omega)
      generalize n / (2 * ulp) = quotient at *
      generalize n % (2 * ulp) = low at *
      -- only the greatest quotient can be rounded up to the power of two
      by_cases last : quotient = 9007199254740991
      · have odd : ¬ quotient % 2 = 0 := by omega
        have reach : (quotient + 1) * (2 * ulp) = 2 ^ 54 * ulp := by rw [last]; ring
        have short : quotient * (2 * ulp) + 2 * ulp = 2 ^ 54 * ulp := by rw [last]; ring
        have whole : n + 2 * ulp = 2 ^ 54 * ulp + low := by rw [← split, last]; ring
        generalize 2 ^ 54 * ulp = power at *
        by_cases down : 2 * low < 2 * ulp
        · rw [if_pos (.inl down)]
          omega
        · rw [if_neg fun near => near.elim down fun tie => odd tie.2, reach]
          omega
      · have room : (quotient + 1) * (2 * ulp) ≤ 9007199254740991 * (2 * ulp) := Nat.mul_le_mul_right _ (by omega)
        have expand : (quotient + 1) * (2 * ulp) = 2 * ulp * quotient + 2 * ulp := by ring
        have under : quotient * (2 * ulp) = 2 * ulp * quotient := by ring
        split_ifs with down
        all_goals omega
    · have rounded := (Nat.pow_le_pow_right (show 0 < 2 by decide) high).trans (roundNat_ge large)
      have above := (Nat.pow_le_pow_right (show 0 < 2 by decide) high).trans (Nat.log2_self_le (show n ≠ 0 by omega))
      rw [show (53 + half).succ = 54 + half by omega] at rounded above
      omega
  · have same := roundNat_small (show n < 2 ^ 53 by omega)
    omega

/-- The first power of two beyond binary64, and the least number rounded to it. -/
def doubleLimit : Nat := 2 ^ 1024

def doubleReach : Nat := 2 ^ 1024 - 2 ^ 970

theorem roundNat_overflow (n : Nat) : doubleLimit ≤ roundNat n ↔ doubleReach ≤ n := by
  have reaches := roundNat_reaches 970 n
  rw [show 54 + 970 = 1024 from rfl] at reaches
  exact reaches

theorem not_overflow {n : Nat} (small : n < 2 ^ 53) : ¬ doubleReach ≤ n := by
  rw [← roundNat_overflow, roundNat_small small, doubleLimit, Nat.not_le]
  exact small.trans (Nat.pow_lt_pow_right Nat.one_lt_two (show 53 < 1024 by decide))

end Lib
