import ExaServe.Lib.Json

namespace Lib.Json

def skipSpace : List Char → List Char
  | [] => []
  | c :: rest => if c = ' ' ∨ c = '\t' ∨ c = '\n' ∨ c = '\r' then skipSpace rest else c :: rest

def expect (c : Char) : List Char → Option (List Char)
  | [] => none
  | d :: rest => if d = c then some rest else none

def hexValue? (c : Char) : Option Nat :=
  if c.isDigit then some (c.toNat - 48)
  else if 'a' ≤ c ∧ c ≤ 'f' then some (c.toNat - 87)
  else if 'A' ≤ c ∧ c ≤ 'F' then some (c.toNat - 55)
  else none

def parseHex4 : List Char → Option (Nat × List Char)
  | a :: b :: c :: d :: rest => do
    let a ← hexValue? a
    let b ← hexValue? b
    let c ← hexValue? c
    let d ← hexValue? d
    some (a * 4096 + b * 256 + c * 16 + d, rest)
  | _ => none

/-- A unicode escape; a lone surrogate is no character and is refused. -/
def parseUnicode (text : List Char) : Option (Char × List Char) := do
  let (high, rest) ← parseHex4 text
  if 55296 ≤ high ∧ high < 56320 then do
    let next ← expect '\\' rest
    let next ← expect 'u' next
    let (low, rest) ← parseHex4 next
    if 56320 ≤ low ∧ low < 57344 then
      some (Char.ofNat (65536 + (high - 55296) * 1024 + (low - 56320)), rest)
    else none
  else if 56320 ≤ high ∧ high < 57344 then none
  else some (Char.ofNat high, rest)

def parseEscape : List Char → Option (Char × List Char)
  | '"' :: rest => some ('"', rest)
  | '\\' :: rest => some ('\\', rest)
  | '/' :: rest => some ('/', rest)
  | 'b' :: rest => some (Char.ofNat 8, rest)
  | 'f' :: rest => some (Char.ofNat 12, rest)
  | 'n' :: rest => some ('\n', rest)
  | 'r' :: rest => some ('\r', rest)
  | 't' :: rest => some ('\t', rest)
  | 'u' :: rest => parseUnicode rest
  | _ => none

/-- The characters of a string up to its closing quote. -/
def parseChars : Nat → List Char → Option (List Char × List Char)
  | 0, _ => none
  | _ + 1, [] => none
  | fuel + 1, c :: rest =>
    if c = '"' then some ([], rest)
    else if c = '\\' then
      match parseEscape rest with
      | none => none
      | some (decoded, rest) => (parseChars fuel rest).map fun result => (decoded :: result.1, result.2)
    else if c.toNat < 32 then none
    else (parseChars fuel rest).map fun result => (c :: result.1, result.2)

def parseNumber (token : List Char) : Option Json :=
  if valid : isFloatText token = true then some (.float ⟨token, valid⟩)
  else (splitDecimal token).map fun d =>
    let magnitude : Int := (Nat.ofDigitChars 10 d.whole 0 : Nat)
    .int (if d.negative then -magnitude else magnitude)

def literal (expected : List Char) (value : Json) (text : List Char) : Option (Json × List Char) :=
  if expected.isPrefixOf text then some (value, text.drop expected.length) else none

mutual

def parseValue : Nat → List Char → Option (Json × List Char)
  | 0, _ => none
  | _ + 1, [] => none
  | fuel + 1, c :: rest =>
    if c = '"' then do
      let (chars, rest) ← parseChars (rest.length + 1) rest
      some (.str (String.ofList chars), rest)
    else if c = '[' then
      match expect ']' (skipSpace rest) with
      | some rest => some (.arr [], rest)
      | none => do
        let (items, rest) ← parseItems fuel (skipSpace rest)
        some (.arr items, rest)
    else if c = '{' then
      match expect '}' (skipSpace rest) with
      | some rest => some (.obj [], rest)
      | none => do
        let (fields, rest) ← parseFields fuel (skipSpace rest)
        if (fieldNames fields).Nodup then some (.obj fields, rest) else none
    else if c = 'n' then literal "null".toList .null (c :: rest)
    else if c = 't' then literal "true".toList (.bool true) (c :: rest)
    else if c = 'f' then literal "false".toList (.bool false) (c :: rest)
    else do
      let number ← parseNumber ((c :: rest).takeWhile isNumberChar)
      some (number, (c :: rest).dropWhile isNumberChar)

def parseItems : Nat → List Char → Option (List Json × List Char)
  | 0, _ => none
  | fuel + 1, text => do
    let (item, rest) ← parseValue fuel text
    match expect ',' (skipSpace rest) with
    | some next => do
      let (items, rest) ← parseItems fuel (skipSpace next)
      some (item :: items, rest)
    | none => do
      let rest ← expect ']' (skipSpace rest)
      some ([item], rest)

def parseFields : Nat → List Char → Option (List (String × Json) × List Char)
  | 0, _ => none
  | fuel + 1, text => do
    let rest ← expect '"' text
    let (key, rest) ← parseChars (rest.length + 1) rest
    let rest ← expect ':' (skipSpace rest)
    let (value, rest) ← parseValue fuel (skipSpace rest)
    match expect ',' (skipSpace rest) with
    | some next => do
      let (fields, rest) ← parseFields fuel (skipSpace next)
      some ((String.ofList key, value) :: fields, rest)
    | none => do
      let rest ← expect '}' (skipSpace rest)
      some ([(String.ofList key, value)], rest)

end

/-- `json.loads` with non-finite constants and repeated keys refused. -/
def loads (text : List Char) : Option Json := do
  let (value, rest) ← parseValue (2 * text.length + 2) (skipSpace text)
  if skipSpace rest = [] then some value else none

end Lib.Json
