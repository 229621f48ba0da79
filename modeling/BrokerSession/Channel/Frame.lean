import BrokerSession.Bytes
import BrokerSession.Channel.IoError

namespace BrokerSession

/-!
# Size-delimited frames

A frame is a four-byte signed size followed by that many bytes of payload.
Frames are cut off the front of a buffer; a buffer that holds no whole frame,
or whose size is out of range, is left as it is.
-/

/-- The number of bytes that hold the size of a frame. -/
def frameHeadLength : Nat := 4

/-- The largest size that the head of a frame can announce. -/
def maxFrameSize : Nat := 2147483647

/-- Cuts frames off a buffer and makes them, up to a largest payload. -/
structure FrameCodec where
  maxSize : Nat
  deriving Repr, DecidableEq

namespace FrameCodec

/-- The codec that accepts every size a frame can announce. -/
def unlimited : FrameCodec := ⟨maxFrameSize⟩

/-- The payload size that a buffer announces, once its head is complete. -/
def peekSize (codec : FrameCodec) (buffer : Bytes) :
    Except IoError (Option Nat) :=
  let head : Bytes := buffer.take frameHeadLength
  if head.length < frameHeadLength then .ok none
  else
    let size := Bytes.toInt32 head
    if size < 0 ∨ codec.maxSize < size.toNatClampNeg then
      .error
        { kind := .invalidData
          message :=
            s!"Invalid frame size {size.toInt} (maximum {codec.maxSize})" }
    else .ok (some size.toNatClampNeg)

/-- The first payload and the rest of a buffer, once the frame is complete. -/
def decode (codec : FrameCodec) (buffer : Bytes) :
    Except IoError (Option (Bytes × Bytes)) := do
  match ← codec.peekSize buffer with
  | none => return none
  | some size =>
      let body := buffer.drop frameHeadLength
      let payload := body.take size
      if payload.length < size then return none
      else return some (payload, body.drop size)

def encode (codec : FrameCodec) (payload : Bytes) : Except IoError Bytes :=
  if payload.length ≤ codec.maxSize ∧ payload.length ≤ maxFrameSize then
    .ok (Bytes.bigEndian frameHeadLength payload.length ++ payload)
  else
    .error
      { kind := .invalidInput
        message := s!"Frame of {payload.length} bytes exceeds maximum size" }

end FrameCodec

end BrokerSession
