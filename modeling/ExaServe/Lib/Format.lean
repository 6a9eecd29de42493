import Mathlib.Data.Nat.Log
import Mathlib.Data.Rat.Floor

namespace Lib

/-- The nearest integer, ties to even. -/
def roundHalfEven (value : ℚ) : Int :=
  let below := ⌊value⌋
  let rest := value - below
  if rest < 1 / 2 then below
  else if 1 / 2 < rest then below + 1
  else if below % 2 = 0 then below else below + 1

def stripZeros (digits : List Char) : List Char := (digits.reverse.dropWhile (· = '0')).reverse

/-- A whole part and the digits after its point, without trailing zeros. -/
def trimmedDecimal (whole : String) (fraction : List Char) : String :=
  match stripZeros fraction with
  | [] => whole
  | digits => whole ++ "." ++ String.ofList digits

def fillLeft (width : Nat) (digits : List Char) : List Char :=
  List.replicate (width - digits.length) '0' ++ digits

/-- The power of ten of the first digit of a positive number. -/
def decimalExponent (value : ℚ) : Int :=
  if 1 ≤ value then Nat.log 10 ⌊value⌋₊ else -(Nat.clog 10 ⌈1 / value⌉₊ : Int)

/-- The six leading digits of a positive number and their power of ten. -/
def leadingDigits (value : ℚ) : List Char × Int :=
  let exponent := decimalExponent value
  let rounded := (roundHalfEven (value / 10 ^ (exponent - 5))).toNat
  if rounded < 1000000 then (Nat.toDigits 10 rounded, exponent) else (Nat.toDigits 10 (rounded / 10), exponent + 1)

/-- `f"{value:g}"` of a number that is not negative. -/
def generalFormat (value : ℚ) : String :=
  if value = 0 then "0"
  else
    let (digits, exponent) := leadingDigits value
    if exponent < -4 ∨ 6 ≤ exponent then
      let sign := if exponent < 0 then "-" else "+"
      trimmedDecimal (String.ofList (digits.take 1)) (digits.drop 1) ++ "e" ++ sign ++
        String.ofList (fillLeft 2 (Nat.toDigits 10 exponent.natAbs))
    else if 0 ≤ exponent then
      trimmedDecimal (String.ofList (digits.take (exponent.toNat + 1))) (digits.drop (exponent.toNat + 1))
    else trimmedDecimal "0" (List.replicate (exponent.natAbs - 1) '0' ++ digits)

/-- `f"{value:.1f}"` of a number that is not negative. -/
def tenthsFormat (value : ℚ) : String :=
  let tenths := (roundHalfEven (value * 10)).toNat
  s!"{tenths / 10}.{tenths % 10}"

end Lib
