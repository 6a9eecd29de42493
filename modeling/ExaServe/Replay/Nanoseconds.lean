import ExaServe.Lib.JsonRoundTrip
import ExaServe.Lib.Padded
import ExaServe.Replay.GoRecords
import Mathlib.Algebra.Order.Field.Basic
import Mathlib.Algebra.Order.Field.Rat
import Mathlib.Algebra.Order.Ring.Cast
import Mathlib.Tactic.NormNum
import Mathlib.Tactic.Positivity

namespace ExaServe.Replay

open Lib

/-- Times in whole nanoseconds: floats of the client on which a run can be computed. -/
structure Nanoseconds where
  ns : Int
  deriving DecidableEq

namespace Nanoseconds

theorem ns_injective : Function.Injective Nanoseconds.ns := by
  rintro ⟨left⟩ ⟨right⟩ same
  exact congrArg _ same

instance : LE Nanoseconds := ⟨fun left right => left.ns ≤ right.ns⟩
instance : LT Nanoseconds := ⟨fun left right => left.ns < right.ns⟩
instance : DecidableLE Nanoseconds := fun left right => inferInstanceAs (Decidable (left.ns ≤ right.ns))
instance : DecidableLT Nanoseconds := fun left right => inferInstanceAs (Decidable (left.ns < right.ns))

instance : LinearOrder Nanoseconds where
  le_refl time := Int.le_refl time.ns
  le_trans _ _ _ first second := Int.le_trans first second
  le_antisymm _ _ below above := ns_injective (Int.le_antisymm below above)
  lt_iff_le_not_ge _ _ := Int.lt_iff_le_and_not_ge
  le_total left right := Int.le_total left.ns right.ns
  toDecidableLE := inferInstance
  toDecidableLT := inferInstance
  toDecidableEq := inferInstance

/-- Whole seconds, a point and nine digits. -/
def text (time : Nanoseconds) : List Char :=
  let digits := Nat.toDigits 10 (time.ns.natAbs / 10 ^ 9) ++ '.' :: padded 9 (time.ns.natAbs % 10 ^ 9)
  if time.ns < 0 then '-' :: digits else digits

theorem splitWhole_seconds (negative : Bool) (whole fraction : Nat) :
    splitWhole negative (Nat.toDigits 10 whole ++ '.' :: padded 9 fraction) =
      some ⟨negative, Nat.toDigits 10 whole, padded 9 fraction, 0⟩ := by
  have digits : ∀ c ∈ Nat.toDigits 10 whole, c.isDigit = true := Json.digits_isDigit
  have taken : (Nat.toDigits 10 whole ++ '.' :: padded 9 fraction).takeWhile Char.isDigit = Nat.toDigits 10 whole := by
    rw [List.takeWhile_append_of_pos digits, List.takeWhile_cons_of_neg (by decide), List.append_nil]
  have dropped : (Nat.toDigits 10 whole ++ '.' :: padded 9 fraction).dropWhile Char.isDigit =
      '.' :: padded 9 fraction := by
    rw [List.dropWhile_append_of_pos digits, List.dropWhile_cons_of_neg (by decide)]
  have plain : ¬ (Nat.toDigits 10 whole = [] ∨
      (1 < (Nat.toDigits 10 whole).length ∧ (Nat.toDigits 10 whole).head? = some '0')) := by
    rintro (empty | ⟨long, zero⟩)
    · exact Nat.toDigits_ne_nil empty
    · rcases Nat.eq_zero_or_pos whole with rfl | positive
      · simp at long
      · exact Json.toDigits_head positive zero
  have fraction_taken : (padded 9 fraction).takeWhile Char.isDigit = padded 9 fraction :=
    List.takeWhile_eq_self_iff.mpr (padded_isDigit 9 fraction)
  have fraction_dropped : (padded 9 fraction).dropWhile Char.isDigit = [] :=
    List.dropWhile_eq_nil_iff.mpr (padded_isDigit 9 fraction)
  have some_digits : padded 9 fraction ≠ [] := by
    intro empty
    exact Nat.toDigits_ne_nil (List.append_eq_nil_iff.mp empty).2
  unfold splitWhole
  simp only [taken, dropped]
  rw [if_neg plain]
  simp [splitFraction, fraction_taken, fraction_dropped, some_digits, splitExponent]

theorem splitDecimal_seconds (whole fraction : Nat) :
    splitDecimal (Nat.toDigits 10 whole ++ '.' :: padded 9 fraction) =
      some ⟨false, Nat.toDigits 10 whole, padded 9 fraction, 0⟩ := by
  unfold splitDecimal
  split
  · rename_i rest same
    obtain ⟨first, digits, split⟩ := List.exists_cons_of_ne_nil (Nat.toDigits_ne_nil (n := whole) (b := 10))
    have digit : first.isDigit = true := Json.digits_isDigit (n := whole) first (split ▸ List.mem_cons_self)
    rw [split, List.cons_append] at same
    rw [(List.cons.inj same).1] at digit
    exact absurd digit (by decide)
  · exact splitWhole_seconds false whole fraction

theorem splitDecimal_text (time : Nanoseconds) :
    splitDecimal time.text = some ⟨time.ns < 0, Nat.toDigits 10 (time.ns.natAbs / 10 ^ 9),
      padded 9 (time.ns.natAbs % 10 ^ 9), 0⟩ := by
  by_cases negative : time.ns < 0
  · simp only [text, if_pos negative, decide_eq_true negative]
    exact splitWhole_seconds true _ _
  · simp only [text, if_neg negative, decide_eq_false negative]
    exact splitDecimal_seconds _ _

/-- The digits of a time are those of its nanoseconds. -/
theorem value_seconds (negative : Bool) (count : Nat) :
    Decimal.value ⟨negative, Nat.toDigits 10 (count / 10 ^ 9), padded 9 (count % 10 ^ 9), 0⟩ =
      (if negative then -(count : ℚ) else count) / 10 ^ 9 := by
  have length : (padded 9 (count % 10 ^ 9)).length = 9 :=
    padded_length (by decide) (Nat.mod_lt _ (by decide))
  have digits : Nat.ofDigitChars 10 (Nat.toDigits 10 (count / 10 ^ 9) ++ padded 9 (count % 10 ^ 9)) 0 = count := by
    rw [Nat.ofDigitChars_append, Nat.ofDigitChars_ten_toDigits, Nat.ofDigitChars_eq_ofDigitChars_zero, length,
      ofDigitChars_padded]
    exact Nat.div_add_mod count (10 ^ 9)
  unfold Decimal.value
  simp only [digits, length]
  have scale : ¬ (0 : Int) ≤ 0 - (9 : Nat) := by decide
  rw [if_neg scale]
  cases negative <;> simp [div_eq_mul_inv]

theorem text_valid (time : Nanoseconds) : isFloatText time.text = true := by
  have digit {c : Char} (held : c.isDigit = true) : isNumberChar c = true := Json.digit_isNumberChar held
  have chars (whole fraction : Nat) : ∀ c ∈ Nat.toDigits 10 whole ++ '.' :: padded 9 fraction, isNumberChar c = true := by
    intro c listed
    rcases List.mem_append.mp listed with inside | inside
    · exact digit (Json.digits_isDigit c inside)
    · rcases List.mem_cons.mp inside with rfl | inside
      · decide
      · exact digit (padded_isDigit _ _ c inside)
  simp only [isFloatText, Bool.and_eq_true, List.all_eq_true, List.any_eq_true, Bool.or_eq_true, decide_eq_true_eq, text]
  split
  · refine ⟨⟨fun c listed => ?_, '.', by simp, by simp⟩, ?_⟩
    · rcases List.mem_cons.mp listed with rfl | inside
      · decide
      · exact chars _ _ c inside
    · exact Option.isSome_iff_exists.mpr ⟨_, splitWhole_seconds true _ _⟩
  · exact ⟨⟨chars _ _, '.', by simp, by simp⟩, Option.isSome_iff_exists.mpr ⟨_, splitDecimal_seconds _ _⟩⟩

instance : GoFloat Nanoseconds where
  zero := ⟨0⟩
  sub left right := ⟨left.ns - right.ns⟩
  add left right := ⟨left.ns + right.ns⟩
  nanos time := time.ns
  seconds ns := ⟨ns⟩
  unixNano time := max time.ns 0
  grow ns := ns * 102 / 100
  rank count hundredths := (count * hundredths + 99) / 100
  interpolate lower upper position count := ⟨lower.ns + position * (upper.ns - lower.ns) / count⟩
  fixed digits time := String.ofList (time.text.take (time.text.length - if digits = 0 then 10 else 9 - digits))
  ratio part whole := ⟨part * 10 ^ 9 / whole⟩
  one := ⟨10 ^ 9⟩
  number time := .float ⟨time.text, text_valid time⟩

theorem numberOf_eq (time : Nanoseconds) : numberOf time = (time.ns : ℚ) / 10 ^ 9 := by
  show (Option.map Decimal.value (splitDecimal time.text)).getD 0 = _
  rw [splitDecimal_text, Option.map_some, Option.getD_some, value_seconds]
  congr 1
  by_cases negative : time.ns < 0
  · rw [decide_eq_true negative, if_pos rfl, ← Int.cast_natCast, ← Int.cast_neg, Int.natCast_natAbs,
      abs_of_neg negative, neg_neg]
  · rw [decide_eq_false negative, if_neg Bool.false_ne_true, ← Int.cast_natCast, Int.natCast_natAbs,
      abs_of_nonneg (not_lt.mp negative)]

instance : LawfulGoFloat Nanoseconds where
  sub_nonneg _ _ := Int.sub_nonneg
  add_nonneg _ _ := Int.add_nonneg
  seconds_nonneg _ := Iff.rfl
  seconds_lt _ _ _ lower _ := lower
  rank_le count hundredths within := by
    show (count * hundredths + 99) / 100 ≤ count
    have product : count * hundredths ≤ count * 100 := Nat.mul_le_mul_left count within
    omega
  interpolate_nonneg lower upper position count nonneg ordered := by
    have spread : 0 ≤ upper.ns - lower.ns := Int.sub_nonneg.mpr ordered
    have part : 0 ≤ (position : Int) * (upper.ns - lower.ns) / count :=
      Int.ediv_nonneg (Int.mul_nonneg (Int.natCast_nonneg _) spread) (Int.natCast_nonneg _)
    exact Int.add_nonneg nonneg part
  number_plain time := .inr ⟨_, rfl⟩
  number_lt left right := by
    have positive : (0 : ℚ) < 10 ^ 9 := by positivity
    rw [numberOf_eq, numberOf_eq, div_lt_div_iff_of_pos_right positive, Int.cast_lt]
    rfl
  number_zero := by
    rw [numberOf_eq]
    simp [show (0 : Nanoseconds).ns = 0 from rfl]
  number_mark := by
    rw [numberOf_eq]
    show ((-(10 ^ 9) : Int) : ℚ) / 10 ^ 9 = -1
    norm_num

end Nanoseconds

end ExaServe.Replay
