import ExaServe.Lib.Json
import Mathlib.Data.Int.Log
import Mathlib.Data.Rat.Floor

namespace Lib

/-- A finite binary64 number: its sign, which zero has as well, and its exact magnitude. -/
structure Double where
  negative : Bool
  magnitude : ℚ
  deriving DecidableEq

namespace Double

/-- The nearest integer, the even one of two equally near. -/
def halfEven (q : ℚ) : Int :=
  let below := q - ⌊q⌋
  if below < 1 / 2 ∨ (below = 1 / 2 ∧ ⌊q⌋ % 2 = 0) then ⌊q⌋ else ⌊q⌋ + 1

/-- The nearest multiple of the least step at a magnitude, unless it is too large. -/
def nearest (q : ℚ) : Option ℚ :=
  if q = 0 then some 0
  else
    let step : ℚ := (2 : ℚ) ^ max (Int.log 2 q - 52) (-1074)
    let rounded := halfEven (q / step) * step
    if rounded < 2 ^ 1024 then some rounded else none

/-- Decimal digits and the place of the point, as `repr` lays them out. -/
def layout (digits : List Char) (point : Int) : List Char :=
  let zeros (count : Int) := List.replicate count.toNat '0'
  if -4 < point ∧ point ≤ 16 then
    if point ≤ 0 then '0' :: '.' :: (zeros (-point) ++ digits)
    else if digits.length ≤ point then digits ++ zeros (point - digits.length) ++ ['.', '0']
    else digits.take point.toNat ++ '.' :: digits.drop point.toNat
  else
    let exponent := (point - 1).natAbs
    let mantissa := digits.take 1 ++ if digits.length ≤ 1 then [] else '.' :: digits.drop 1
    mantissa ++ 'e' :: (if point ≤ 0 then '-' else '+') ::
      ((if exponent < 10 then ['0'] else []) ++ Nat.toDigits 10 exponent)

/-- `count` steps of a power of ten, in digits without zeros at their end. -/
def decimalText (negative : Bool) (count : Nat) (power : Int) : List Char :=
  let digits := Nat.toDigits 10 count
  let text := layout (digits.reverse.dropWhile (· = '0')).reverse (digits.length + power)
  if negative then '-' :: text else text

/-- The texts of a number's decimals with some digits that are next to it, the nearer first. -/
def decimals (x : Double) (digits : Nat) : List (List Char) :=
  let power := Int.log 10 x.magnitude - digits + 1
  let count := x.magnitude / (10 : ℚ) ^ power
  let low := ⌊count⌋.toNat
  let texts := [decimalText x.negative low power, decimalText x.negative (low + 1) power]
  if halfEven count = low then texts else texts.reverse

end Double

/-- `float(text)`, unless the number is too large. -/
def FloatText.double (t : FloatText) : Option Double := do
  let decimal ← splitDecimal t.text
  let magnitude ← Double.nearest |decimal.value|
  return ⟨decimal.negative, magnitude⟩

/-- The text if it reads as the number. -/
def Double.readsAs (x : Double) (text : List Char) : Option FloatText :=
  if valid : isFloatText text = true then
    if FloatText.double ⟨text, valid⟩ = some x then some ⟨text, valid⟩ else none
  else none

/-- `repr`: the shortest decimal that reads as the number. -/
def Double.repr (x : Double) : Option FloatText :=
  if x.magnitude = 0 then x.readsAs (if x.negative then ['-', '0', '.', '0'] else ['0', '.', '0'])
  else ((List.range 17).flatMap fun digits => x.decimals (digits + 1)).findSome? x.readsAs

/-- `repr(float(text))` -/
def FloatText.printed (t : FloatText) : Option FloatText := do
  let x ← t.double
  x.repr

section Printed

variable {x : Double} {t u : FloatText}

theorem Double.readsAs_double {text : List Char} (read : x.readsAs text = some u) : u.double = some x := by
  unfold Double.readsAs at read
  split_ifs at read with valid same
  cases read
  exact same

theorem Double.repr_double (shown : x.repr = some u) : u.double = some x := by
  unfold Double.repr at shown
  split_ifs at shown with zero
  · exact Double.readsAs_double shown
  · exact Double.readsAs_double shown
  · obtain ⟨text, -, read⟩ := List.exists_of_findSome?_eq_some shown
    exact Double.readsAs_double read

/-- What `repr` prints is read and printed again as it is. -/
theorem FloatText.printed_printed (shown : t.printed = some u) : u.printed = some u := by
  unfold FloatText.printed at shown ⊢
  cases read : t.double with
  | none =>
    rw [read] at shown
    cases shown
  | some x =>
    rw [read] at shown
    have same : u.double = some x := Double.repr_double shown
    rw [same]
    exact shown

end Printed

end Lib
