import Mathlib.Data.Nat.Notation

namespace Lib

-- The value of a decimal digit; the characters that have one are those `int` reads and a
-- regular expression's `\d` matches.
variable (decimal : Char → Option Nat)

/-- The digits that follow a first one, in groups that an underscore may part. -/
def readDigits (value : Nat) : List Char → Option Nat
  | [] => some value
  | ['_'] => none
  | '_' :: c :: rest => (decimal c).bind fun digit => readDigits (10 * value + digit) rest
  | c :: rest => (decimal c).bind fun digit => readDigits (10 * value + digit) rest

def readNatural : List Char → Option Nat
  | [] => none
  | c :: rest => (decimal c).bind fun digit => readDigits decimal digit rest

/-- An integer as `int` reads it, without the blanks around it. -/
def readSigned : List Char → Option Int
  | '-' :: digits => (readNatural decimal digits).map fun value => -(value : Int)
  | '+' :: digits => (readNatural decimal digits).map Int.ofNat
  | digits => (readNatural decimal digits).map Int.ofNat

end Lib
