import ExaServe.Lib.Chunks
import Mathlib.Data.List.Basic
import Mathlib.Algebra.Group.Nat.Defs

namespace Lib.Sha256

abbrev Word := BitVec 32

def roundConstants : List Word :=
  [0x428a2f98, 0x71374491, 0xb5c0fbcf, 0xe9b5dba5, 0x3956c25b, 0x59f111f1, 0x923f82a4, 0xab1c5ed5,
   0xd807aa98, 0x12835b01, 0x243185be, 0x550c7dc3, 0x72be5d74, 0x80deb1fe, 0x9bdc06a7, 0xc19bf174,
   0xe49b69c1, 0xefbe4786, 0x0fc19dc6, 0x240ca1cc, 0x2de92c6f, 0x4a7484aa, 0x5cb0a9dc, 0x76f988da,
   0x983e5152, 0xa831c66d, 0xb00327c8, 0xbf597fc7, 0xc6e00bf3, 0xd5a79147, 0x06ca6351, 0x14292967,
   0x27b70a85, 0x2e1b2138, 0x4d2c6dfc, 0x53380d13, 0x650a7354, 0x766a0abb, 0x81c2c92e, 0x92722c85,
   0xa2bfe8a1, 0xa81a664b, 0xc24b8b70, 0xc76c51a3, 0xd192e819, 0xd6990624, 0xf40e3585, 0x106aa070,
   0x19a4c116, 0x1e376c08, 0x2748774c, 0x34b0bcb5, 0x391c0cb3, 0x4ed8aa4a, 0x5b9cca4f, 0x682e6ff3,
   0x748f82ee, 0x78a5636f, 0x84c87814, 0x8cc70208, 0x90befffa, 0xa4506ceb, 0xbef9a3f7, 0xc67178f2]

structure State where
  a : Word
  b : Word
  c : Word
  d : Word
  e : Word
  f : Word
  g : Word
  h : Word

def initialState : State :=
  { a := 0x6a09e667, b := 0xbb67ae85, c := 0x3c6ef372, d := 0xa54ff53a
    e := 0x510e527f, f := 0x9b05688c, g := 0x1f83d9ab, h := 0x5be0cd19 }

def State.words (s : State) : List Word := [s.a, s.b, s.c, s.d, s.e, s.f, s.g, s.h]

def State.add (s t : State) : State :=
  { a := s.a + t.a, b := s.b + t.b, c := s.c + t.c, d := s.d + t.d
    e := s.e + t.e, f := s.f + t.f, g := s.g + t.g, h := s.h + t.h }

def round (s : State) (input : Word × Word) : State :=
  let sum1 := s.e.rotateRight 6 ^^^ s.e.rotateRight 11 ^^^ s.e.rotateRight 25
  let choose := (s.e &&& s.f) ^^^ (~~~s.e &&& s.g)
  let first := s.h + sum1 + choose + input.1 + input.2
  let sum0 := s.a.rotateRight 2 ^^^ s.a.rotateRight 13 ^^^ s.a.rotateRight 22
  let majority := (s.a &&& s.b) ^^^ (s.a &&& s.c) ^^^ (s.b &&& s.c)
  { a := first + (sum0 + majority), b := s.a, c := s.b, d := s.c
    e := s.d + first, f := s.e, g := s.f, h := s.g }

/-- The message schedule, newest word first. -/
def extend : Nat → List Word → List Word
  | 0, newest => newest
  | n + 1, newest =>
    let w2 := newest.getD 1 0
    let w7 := newest.getD 6 0
    let w15 := newest.getD 14 0
    let w16 := newest.getD 15 0
    let small0 := w15.rotateRight 7 ^^^ w15.rotateRight 18 ^^^ (w15 >>> 3)
    let small1 := w2.rotateRight 17 ^^^ w2.rotateRight 19 ^^^ (w2 >>> 10)
    extend n ((small1 + w7 + small0 + w16) :: newest)

def wordOfBytes : List UInt8 → Word
  | [a, b, c, d] =>
    BitVec.ofNat 32 (a.toNat * 16777216 + b.toNat * 65536 + c.toNat * 256 + d.toNat)
  | _ => 0

def bytesOfWord (w : Word) : List UInt8 :=
  [UInt8.ofNat (w.toNat / 16777216), UInt8.ofNat (w.toNat / 65536),
   UInt8.ofNat (w.toNat / 256), UInt8.ofNat w.toNat]

def compress (s : State) (block : List UInt8) : State :=
  let words := (chunksOf 4 16 block).map wordOfBytes
  let schedule := (extend 48 words.reverse).reverse
  s.add ((schedule.zip roundConstants).foldl round s)

def bigEndian : Nat → Nat → List UInt8
  | 0, _ => []
  | width + 1, n => UInt8.ofNat (n / 256 ^ width) :: bigEndian width n

def pad (message : List UInt8) : List UInt8 :=
  message ++ (0x80 :: (List.replicate ((119 - message.length % 64) % 64) 0 ++
    bigEndian 8 (message.length * 8)))

def digest (message : List UInt8) : List UInt8 :=
  let padded := pad message
  ((chunksOf 64 (padded.length / 64) padded).foldl compress initialState).words.flatMap bytesOfWord

def hexChar (n : Nat) : Char := if n < 10 then Char.ofNat (48 + n) else Char.ofNat (87 + n)

def hexdigest (message : List UInt8) : String :=
  String.ofList ((digest message).flatMap fun byte =>
    [hexChar (byte.toNat / 16), hexChar (byte.toNat % 16)])

def hmacBlock (key : List UInt8) : List UInt8 :=
  let short := if 64 < key.length then digest key else key
  short ++ List.replicate (64 - short.length) 0

def hmac (key message : List UInt8) : List UInt8 :=
  let block := hmacBlock key
  digest (block.map (· ^^^ 0x5c) ++ digest (block.map (· ^^^ 0x36) ++ message))

theorem digest_length (message : List UInt8) : (digest message).length = 32 := by
  simp [digest, State.words, bytesOfWord]

theorem hexdigest_length (message : List UInt8) : (hexdigest message).toList.length = 64 := by
  simp [hexdigest, List.length_flatMap, digest_length]

theorem hexdigest_chars (message : List UInt8) :
    ∀ c ∈ (hexdigest message).toList, ∃ n < 16, c = hexChar n := by
  intro c member
  simp only [hexdigest, String.toList_ofList, List.mem_flatMap, List.mem_cons, List.not_mem_nil,
    or_false] at member
  obtain ⟨byte, _, rfl | rfl⟩ := member
  · have bound := byte.toNat_lt
    exact ⟨byte.toNat / 16, by omega, rfl⟩
  · exact ⟨byte.toNat % 16, by omega, rfl⟩

theorem hmac_length (key message : List UInt8) : (hmac key message).length = 32 :=
  digest_length _

end Lib.Sha256
