import Mathlib.Data.List.DropRight
import Mathlib.Data.List.Lex
import Mathlib.Data.String.Basic
import Mathlib.Tactic.GCongr
import Mathlib.Tactic.Ring

namespace Lib

/-- `f"{n:0{width}d}"`: decimal digits, filled with zeros from the left. -/
def padded (width n : Nat) : List Char :=
  List.replicate (width - (Nat.toDigits 10 n).length) '0' ++ Nat.toDigits 10 n

theorem padded_length {width n : Nat} (some_width : 0 < width) (small : n < 10 ^ width) :
    (padded width n).length = width := by
  have short := (Nat.length_toDigits_le_iff (by decide : 1 < 10) some_width).mpr small
  simp only [padded, List.length_append, List.length_replicate]
  omega

theorem padded_isDigit (width n : Nat) : ∀ c ∈ padded width n, c.isDigit = true := by
  intro c member
  rcases List.mem_append.mp member with zero | digit
  · rw [(List.mem_replicate.mp zero).2]
    decide
  · exact Nat.isDigit_of_mem_toDigits (by decide) (by decide) digit

theorem ofDigitChars_padded (width n : Nat) : Nat.ofDigitChars 10 (padded width n) 0 = n := by
  rw [padded, Nat.ofDigitChars_append, Nat.ofDigitChars_replicate_zero, Nat.mul_zero, Nat.ofDigitChars_ten_toDigits]

/-- A number is read back from its digits, whatever follows the first other character. -/
theorem padded_cons_inj {width m n : Nat} {stop : Char} {leftRest rightRest : List Char}
    (stops : stop.isDigit = false)
    (same : padded width m ++ stop :: leftRest = padded width n ++ stop :: rightRest) : m = n := by
  have digits (k : Nat) (rest : List Char) :
      (padded width k ++ stop :: rest).takeWhile Char.isDigit = padded width k := by
    rw [List.takeWhile_append_of_pos (padded_isDigit width k), List.takeWhile_cons_of_neg (by simp [stops]),
      List.append_nil]
  have read := congrArg (List.takeWhile Char.isDigit) same
  rw [digits, digits] at read
  rw [← ofDigitChars_padded width m, read, ofDigitChars_padded]

theorem ofDigitChars_bound {digits : List Char} (all : ∀ c ∈ digits, c.isDigit = true) (start : Nat) :
    start * 10 ^ digits.length ≤ Nat.ofDigitChars 10 digits start ∧
      Nat.ofDigitChars 10 digits start < (start + 1) * 10 ^ digits.length := by
  induction digits generalizing start with
  | nil => simp
  | cons c rest ih =>
    have digit := all c List.mem_cons_self
    have value : c.toNat - '0'.toNat < 10 := by
      simp only [Char.isDigit, Bool.and_eq_true, decide_eq_true_eq] at digit
      have high : c.toNat ≤ 57 := digit.2
      have zero : '0'.toNat = 48 := rfl
      omega
    rw [Nat.ofDigitChars_cons, List.length_cons]
    obtain ⟨low, high⟩ := ih (fun other member => all other (List.mem_cons_of_mem _ member))
      (10 * start + (c.toNat - '0'.toNat))
    constructor
    · calc start * 10 ^ (rest.length + 1) = 10 * start * 10 ^ rest.length := by ring
        _ ≤ (10 * start + (c.toNat - '0'.toNat)) * 10 ^ rest.length := by gcongr; omega
        _ ≤ _ := low
    · calc _ < (10 * start + (c.toNat - '0'.toNat) + 1) * 10 ^ rest.length := high
        _ ≤ (10 * (start + 1)) * 10 ^ rest.length := by gcongr; omega
        _ = (start + 1) * 10 ^ (rest.length + 1) := by ring

/-- Digit strings of one length are ordered as the numbers they stand for. -/
theorem lt_of_ofDigitChars_lt {left right : List Char} (leftDigits : ∀ c ∈ left, c.isDigit = true)
    (rightDigits : ∀ c ∈ right, c.isDigit = true) (same : left.length = right.length) (start : Nat)
    (less : Nat.ofDigitChars 10 left start < Nat.ofDigitChars 10 right start) : left < right := by
  induction left generalizing right start with
  | nil =>
    cases right with
    | nil => simp at less
    | cons c rest => simp at same
  | cons c left ih =>
    cases right with
    | nil => simp at same
    | cons d right =>
      have lengths : left.length = right.length := by simpa using same
      have left_rest : ∀ x ∈ left, x.isDigit = true := fun x m => leftDigits x (List.mem_cons_of_mem _ m)
      have right_rest : ∀ x ∈ right, x.isDigit = true := fun x m => rightDigits x (List.mem_cons_of_mem _ m)
      rw [Nat.ofDigitChars_cons, Nat.ofDigitChars_cons] at less
      by_cases equal : c = d
      · subst equal
        exact List.cons_lt_cons_iff.mpr (.inr ⟨rfl, ih left_rest right_rest lengths _ less⟩)
      · refine List.cons_lt_cons_iff.mpr (.inl ?_)
        by_contra not_less
        have left_low := (ofDigitChars_bound left_rest (10 * start + (c.toNat - '0'.toNat))).1
        have right_high := (ofDigitChars_bound right_rest (10 * start + (d.toNat - '0'.toNat))).2
        rw [lengths] at left_low
        have apart : d.toNat < c.toNat := by
          have le : d.toNat ≤ c.toNat := not_lt.mp not_less
          have ne : d.toNat ≠ c.toNat := fun h => equal (Char.toNat_inj.mp h).symm
          omega
        have low : '0'.toNat ≤ d.toNat := by
          have digit := rightDigits d List.mem_cons_self
          simp only [Char.isDigit, Bool.and_eq_true, decide_eq_true_eq] at digit
          exact digit.1
        have step : 10 * start + (d.toNat - '0'.toNat) + 1 ≤ 10 * start + (c.toNat - '0'.toNat) := by omega
        have scaled := Nat.mul_le_mul_right (10 ^ right.length) step
        omega

theorem padded_lt {width m n : Nat} (some_width : 0 < width) (less : m < n) (small : n < 10 ^ width) :
    padded width m < padded width n := by
  apply lt_of_ofDigitChars_lt (padded_isDigit width m) (padded_isDigit width n)
  · rw [padded_length some_width (less.trans small), padded_length some_width small]
  · rw [ofDigitChars_padded, ofDigitChars_padded]
    exact less

/-- Texts of one length decide the order of what they begin. -/
theorem append_lt_append {left right : List Char} (same : left.length = right.length) (less : left < right)
    (leftRest rightRest : List Char) : left ++ leftRest < right ++ rightRest := by
  induction left generalizing right with
  | nil =>
    cases right with
    | nil => exact absurd less (lt_irrefl _)
    | cons d right => simp at same
  | cons c left ih =>
    cases right with
    | nil => simp at same
    | cons d right =>
      have lengths : left.length = right.length := by simpa using same
      rcases List.cons_lt_cons_iff.mp less with first | ⟨first, later⟩
      · exact List.cons_lt_cons_iff.mpr (.inl first)
      · exact List.cons_lt_cons_iff.mpr (.inr ⟨first, ih lengths later⟩)

/-- A number at the end of a text is told from what stands before it, when that does not
    end in a digit. -/
theorem digits_suffix_inj {left right : List Char} {stop mark : Char} {m n : Nat} (stops : stop.isDigit = false)
    (marks : mark.isDigit = false)
    (same : left ++ stop :: Nat.toDigits 10 m = right ++ mark :: Nat.toDigits 10 n) :
    left = right ∧ stop = mark ∧ m = n := by
  have digits (front : List Char) {last : Char} (ends : last.isDigit = false) (k : Nat) :
      (front ++ last :: Nat.toDigits 10 k).rtakeWhile Char.isDigit = Nat.toDigits 10 k := by
    have all : ∀ c ∈ (Nat.toDigits 10 k).reverse, c.isDigit = true := fun c member =>
      Nat.isDigit_of_mem_toDigits (by decide) (by decide) (List.mem_reverse.mp member)
    rw [List.rtakeWhile, List.reverse_append, List.reverse_cons, List.append_assoc,
      List.takeWhile_append_of_pos all, List.singleton_append, List.takeWhile_cons_of_neg (by simp [ends]),
      List.append_nil, List.reverse_reverse]
  have read := congrArg (List.rtakeWhile Char.isDigit) same
  rw [digits left stops, digits right marks] at read
  have numbers : m = n := by
    rw [← @Nat.ofDigitChars_ten_toDigits m, read, Nat.ofDigitChars_ten_toDigits]
  subst numbers
  have fronts : left ++ [stop] = right ++ [mark] := by
    rw [List.append_cons left, List.append_cons right] at same
    exact List.append_cancel_right same
  obtain ⟨equal, last⟩ := List.append_inj' fronts rfl
  exact ⟨equal, by simpa using last, rfl⟩

end Lib
