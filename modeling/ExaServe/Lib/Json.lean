import Mathlib.Data.List.Sort
import Mathlib.Data.String.Basic
import Mathlib.Algebra.Order.Ring.Rat
import Mathlib.Algebra.GroupWithZero.Nat

namespace Lib

def isNumberChar (c : Char) : Bool := c.isDigit || c = '-' || c = '+' || c = '.' || c = 'e' || c = 'E'

structure Decimal where
  negative : Bool
  whole : List Char
  fraction : List Char
  exponent : Int

def splitExponent : List Char → Option Int
  | [] => some 0
  | e :: '-' :: digits =>
    if (e = 'e' ∨ e = 'E') ∧ digits ≠ [] ∧ digits.all Char.isDigit then
      some (-(Nat.ofDigitChars 10 digits 0 : Int)) else none
  | e :: '+' :: digits =>
    if (e = 'e' ∨ e = 'E') ∧ digits ≠ [] ∧ digits.all Char.isDigit then
      some (Nat.ofDigitChars 10 digits 0 : Int) else none
  | e :: digits =>
    if (e = 'e' ∨ e = 'E') ∧ digits ≠ [] ∧ digits.all Char.isDigit then
      some (Nat.ofDigitChars 10 digits 0 : Int) else none

def splitFraction (negative : Bool) (whole : List Char) : List Char → Option Decimal
  | '.' :: rest =>
    let fraction := rest.takeWhile Char.isDigit
    if fraction = [] then none
    else (splitExponent (rest.dropWhile Char.isDigit)).map fun exponent =>
      { negative, whole, fraction, exponent }
  | rest => (splitExponent rest).map fun exponent => { negative, whole, fraction := [], exponent }

def splitWhole (negative : Bool) (text : List Char) : Option Decimal :=
  let whole := text.takeWhile Char.isDigit
  if whole = [] ∨ (1 < whole.length ∧ whole.head? = some '0') then none
  else splitFraction negative whole (text.dropWhile Char.isDigit)

/-- The number grammar of JSON: sign, whole part, fraction, exponent. -/
def splitDecimal : List Char → Option Decimal
  | '-' :: text => splitWhole true text
  | text => splitWhole false text

def Decimal.value (d : Decimal) : ℚ :=
  let digits : ℚ := (Nat.ofDigitChars 10 (d.whole ++ d.fraction) 0 : Nat)
  let scale := d.exponent - d.fraction.length
  (if d.negative then -digits else digits) *
    if 0 ≤ scale then (10 : ℚ) ^ scale.toNat else 1 / (10 : ℚ) ^ (-scale).toNat

def isFloatText (text : List Char) : Bool :=
  text.all isNumberChar && text.any (fun c => c = '.' || c = 'e' || c = 'E') &&
    (splitDecimal text).isSome

/-- A finite float is carried as the text `repr` prints for it; distinct floats
    print differently and reading the text back gives the same float. -/
structure FloatText where
  text : List Char
  valid : isFloatText text = true

instance : DecidableEq FloatText := fun left right =>
  decidable_of_iff (left.text = right.text)
    ⟨fun same => by cases left; cases right; cases same; rfl, fun same => by rw [same]⟩

def FloatText.value (f : FloatText) : ℚ := ((splitDecimal f.text).map Decimal.value).getD 0

inductive Json where
  | null
  | bool (value : Bool)
  | int (value : Int)
  | float (value : FloatText)
  | str (value : String)
  | arr (items : List Json)
  | obj (fields : List (String × Json))

namespace Json

def lookup (key : String) : List (String × Json) → Option Json
  | [] => none
  | field :: rest => if field.1 = key then some field.2 else lookup key rest

def fieldNames (fields : List (String × Json)) : List String := fields.map Prod.fst

/-- The comparison `set(payload) == {...}`. -/
def sameNames (fields : List (String × Json)) (expected : List String) : Bool :=
  (fieldNames fields).all (expected.contains ·) && expected.all ((fieldNames fields).contains ·)

def number? : Json → Option ℚ
  | .bool value => some (if value then 1 else 0)
  | .int value => some value
  | .float value => some value.value
  | _ => none

mutual

/-- Equality of decoded values: objects ignore the order of their keys, and
    booleans, integers and floats compare as numbers. -/
def pyEq : Json → Json → Bool
  | .null, .null => true
  | .str left, .str right => left == right
  | .arr left, .arr right => pyEqItems left right
  | .obj left, .obj right => left.length == right.length && pyEqFields left right
  | .bool left, right => right.number? == some (if left then 1 else 0)
  | .int left, right => right.number? == some (left : ℚ)
  | .float left, right => right.number? == some left.value
  | _, _ => false

def pyEqItems : List Json → List Json → Bool
  | [], [] => true
  | left :: lefts, right :: rights => pyEq left right && pyEqItems lefts rights
  | _, _ => false

def pyEqFields : List (String × Json) → List (String × Json) → Bool
  | [], _ => true
  | (key, value) :: rest, other =>
    (match lookup key other with
      | some found => pyEq value found
      | none => false) && pyEqFields rest other

end

def hexDigit (n : Nat) : Char := if n < 10 then Char.ofNat (48 + n) else Char.ofNat (87 + n)

def hex4 (n : Nat) : List Char :=
  [hexDigit (n / 4096 % 16), hexDigit (n / 256 % 16), hexDigit (n / 16 % 16), hexDigit (n % 16)]

def unicodeEscape (n : Nat) : List Char := '\\' :: 'u' :: hex4 n

/-- Printable ASCII stands for itself; everything else is escaped, characters
    beyond the basic plane as a surrogate pair. -/
def escapeChar (c : Char) : List Char :=
  if c = '"' then ['\\', '"']
  else if c = '\\' then ['\\', '\\']
  else if c = '\n' then ['\\', 'n']
  else if c = '\r' then ['\\', 'r']
  else if c = '\t' then ['\\', 't']
  else if c.toNat = 12 then ['\\', 'f']
  else if c.toNat = 8 then ['\\', 'b']
  else if 32 ≤ c.toNat ∧ c.toNat ≤ 126 then [c]
  else if c.toNat < 65536 then unicodeEscape c.toNat
  else unicodeEscape (55296 + (c.toNat - 65536) / 1024) ++
    unicodeEscape (56320 + (c.toNat - 65536) % 1024)

def quote (s : String) : List Char := '"' :: (s.toList.flatMap escapeChar ++ ['"'])

def intText (n : Int) : List Char :=
  if n < 0 then '-' :: Nat.toDigits 10 n.natAbs else Nat.toDigits 10 n.natAbs

def joinComma : List (List Char) → List Char
  | [] => []
  | [text] => text
  | text :: rest => text ++ ',' :: joinComma rest

def fieldText (field : String × List Char) : List Char := quote field.1 ++ ':' :: field.2

def sortFields {β : Type} (fields : List (String × β)) : List (String × β) :=
  fields.insertionSort fun left right => left.1 ≤ right.1

mutual

/-- `json.dumps(value, sort_keys=True, separators=(",", ":"), allow_nan=False)`. -/
def dumps : Json → List Char
  | .null => "null".toList
  | .bool true => "true".toList
  | .bool false => "false".toList
  | .int value => intText value
  | .float value => value.text
  | .str value => quote value
  | .arr items => '[' :: (joinComma (dumpsItems items) ++ [']'])
  | .obj fields => '{' :: (joinComma ((sortFields (dumpsFields fields)).map fieldText) ++ ['}'])

def dumpsItems : List Json → List (List Char)
  | [] => []
  | item :: rest => dumps item :: dumpsItems rest

def dumpsFields : List (String × Json) → List (String × List Char)
  | [] => []
  | (key, value) :: rest => (key, dumps value) :: dumpsFields rest

end

mutual

/-- The text `repr` prints for a decoded value. -/
def reprText : Json → String
  | .null => "None"
  | .bool true => "True"
  | .bool false => "False"
  | .int value => toString value
  | .float value => String.ofList value.text
  | .str value => "'" ++ value ++ "'"
  | .arr items => "[" ++ ", ".intercalate (reprItems items) ++ "]"
  | .obj fields => "\x7b" ++ ", ".intercalate (reprFields fields) ++ "\x7d"

def reprItems : List Json → List String
  | [] => []
  | item :: rest => reprText item :: reprItems rest

def reprFields : List (String × Json) → List String
  | [] => []
  | (key, value) :: rest => ("'" ++ key ++ "': " ++ reprText value) :: reprFields rest

end

@[simp] theorem dumpsItems_eq_map (items : List Json) : dumpsItems items = items.map dumps := by
  induction items with
  | nil => rfl
  | cons item rest ih => simp [dumpsItems, ih]

@[simp] theorem dumpsFields_eq_map (fields : List (String × Json)) :
    dumpsFields fields = fields.map fun field => (field.1, dumps field.2) := by
  induction fields with
  | nil => rfl
  | cons field rest ih => simp [dumpsFields, ih]

/-- Each item counted with the bracket or comma that follows it. -/
def itemsWidth (items : List Json) : Nat := (items.map fun item => (dumps item).length + 1).sum

theorem itemsWidth_append (left right : List Json) :
    itemsWidth (left ++ right) = itemsWidth left + itemsWidth right := by
  simp [itemsWidth]

theorem joinComma_length {texts : List (List Char)} (nonempty : texts ≠ []) :
    (joinComma texts).length + 1 = (texts.map fun text => text.length + 1).sum := by
  induction texts with
  | nil => exact absurd rfl nonempty
  | cons text rest ih =>
    cases rest with
    | nil => simp [joinComma]
    | cons next rest =>
      have tail := ih (List.cons_ne_nil _ _)
      simp only [joinComma, List.length_append, List.length_cons, List.map_cons, List.sum_cons] at tail ⊢
      omega

theorem dumps_arr_length {items : List Json} (nonempty : items ≠ []) :
    (dumps (.arr items)).length = itemsWidth items + 1 := by
  have some_text : items.map dumps ≠ [] := by simpa using nonempty
  have joined := joinComma_length some_text
  rw [List.map_map] at joined
  simp only [dumps, dumpsItems_eq_map, List.length_cons, List.length_append, List.length_nil]
  unfold itemsWidth
  change _ = (items.map ((fun text : List Char => text.length + 1) ∘ dumps)).sum + 1
  omega

end Json

end Lib
