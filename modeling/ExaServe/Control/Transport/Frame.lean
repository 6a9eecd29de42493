import ExaServe.Control.Contracts

namespace ExaServe.Control

open Lib Plan

def macBytes : Nat := 32

def mac (secret body : List UInt8) : List UInt8 := Sha256.hmac secret body

/-- The bytes `write_frame` hands to the socket: length, authentication code, body. -/
def writeFrame (secret : List UInt8) (maxFrameBytes : Nat) (env : Envelope) :
    Except Raised (List UInt8) := do
  let body ← encodeEnvelope env
  if maxFrameBytes < body.length then .error (rejected .oversized)
  else
    let frame := mac secret body ++ body
    .ok (Sha256.bigEndian 4 frame.length ++ frame)

def unpackLength (header : List UInt8) : Nat :=
  header.foldl (fun value byte => value * 256 + byte.toNat) 0

/-- What `read_frame` does with the header: the number of bytes to read next. -/
def frameLength (maxFrameBytes : Nat) (header : List UInt8) : Except Raised Nat :=
  let length := unpackLength header
  if maxFrameBytes + macBytes < length ∨ length < macBytes then .error (rejected .oversized)
  else .ok length

/-- What `read_frame` does with the rest of the frame. -/
def openFrame (secret frame : List UInt8) : Except Raised Envelope :=
  let body := frame.drop macBytes
  if frame.take macBytes ≠ mac secret body then .error (rejected .badMac) else decodeEnvelope body

end ExaServe.Control
