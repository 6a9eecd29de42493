import Mathlib.Data.List.Basic

namespace Lib

def continuation (byte : UInt8) : Option Nat :=
  if 128 ≤ byte.toNat ∧ byte.toNat < 192 then some (byte.toNat - 128) else none

def scalar (minimum value : Nat) : Option Char :=
  if minimum ≤ value ∧ (value < 55296 ∨ 57343 < value) ∧ value < 1114112 then some (Char.ofNat value)
  else none

def decodeTwo (first second : UInt8) : Option Char := do
  let low ← continuation second
  scalar 128 ((first.toNat - 192) * 64 + low)

def decodeThree (first second third : UInt8) : Option Char := do
  let middle ← continuation second
  let low ← continuation third
  scalar 2048 ((first.toNat - 224) * 4096 + middle * 64 + low)

def decodeFour (first second third fourth : UInt8) : Option Char := do
  let high ← continuation second
  let middle ← continuation third
  let low ← continuation fourth
  scalar 65536 ((first.toNat - 240) * 262144 + high * 4096 + middle * 64 + low)

/-- Strict UTF-8: overlong forms and surrogates are refused. -/
def decodeUtf8 : List UInt8 → Option (List Char)
  | [] => some []
  | first :: rest =>
    if first.toNat < 128 then (decodeUtf8 rest).map (Char.ofNat first.toNat :: ·)
    else if first.toNat < 192 then none
    else if first.toNat < 224 then
      match rest with
      | second :: rest => do
        let c ← decodeTwo first second
        let chars ← decodeUtf8 rest
        some (c :: chars)
      | _ => none
    else if first.toNat < 240 then
      match rest with
      | second :: third :: rest => do
        let c ← decodeThree first second third
        let chars ← decodeUtf8 rest
        some (c :: chars)
      | _ => none
    else if first.toNat < 248 then
      match rest with
      | second :: third :: fourth :: rest => do
        let c ← decodeFour first second third fourth
        let chars ← decodeUtf8 rest
        some (c :: chars)
      | _ => none
    else none

theorem decodeUtf8_ascii (text : List Char) (ascii : ∀ c ∈ text, c.toNat < 128) :
    decodeUtf8 (text.map fun c => UInt8.ofNat c.toNat) = some text := by
  induction text with
  | nil => rfl
  | cons c rest ih =>
    have small : c.toNat < 128 := ascii c List.mem_cons_self
    have tail := ih fun d member => ascii d (List.mem_cons_of_mem _ member)
    have value : (UInt8.ofNat c.toNat).toNat = c.toNat := by
      rw [UInt8.toNat_ofNat']
      omega
    rw [List.map_cons]
    unfold decodeUtf8
    simp only [value, small, if_true, tail, Option.map_some, Char.ofNat_toNat]

end Lib
