import BrokerSession.Channel.Frame

namespace BrokerSession

/-!
# Buffers of frames

A frame buffer is fed at its end, with bytes as they arrive or with frames that
its codec makes, and gives up whole frames at its front.  A step that is refused
leaves it as it was.
-/

/-- The bytes that no frame has been cut from yet, and the codec that cuts. -/
structure FrameBuffer where
  codec : FrameCodec
  bytes : Bytes := []
  deriving Repr, DecidableEq

namespace FrameBuffer

def feed (buffer : FrameBuffer) (arriving : Bytes) : FrameBuffer :=
  { buffer with bytes := buffer.bytes ++ arriving }

/-- Cut the first frame off, once it is complete. -/
def decode (buffer : FrameBuffer) :
    Except IoError (Option Bytes) × FrameBuffer :=
  match buffer.codec.decode buffer.bytes with
  | .ok (some (payload, rest)) =>
      (.ok (some payload), { buffer with bytes := rest })
  | .ok none => (.ok none, buffer)
  | .error failure => (.error failure, buffer)

/-- Append the frame of a payload. -/
def encode (buffer : FrameBuffer) (payload : Bytes) :
    Except IoError Unit × FrameBuffer :=
  match buffer.codec.encode payload with
  | .ok framed => (.ok (), buffer.feed framed)
  | .error failure => (.error failure, buffer)

/-- What the owner of a frame buffer may do to it. -/
inductive Step where
  | feed (arriving : Bytes)
  | decode
  | encode (payload : Bytes)
  deriving Repr, DecidableEq

/-- Do a step; only cutting a frame off yields a payload. -/
def perform (buffer : FrameBuffer) :
    Step → Except IoError (Option Bytes) × FrameBuffer
  | .feed arriving => (.ok none, buffer.feed arriving)
  | .decode => buffer.decode
  | .encode payload =>
      let (outcome, later) := buffer.encode payload
      (outcome.map fun _ => none, later)

end FrameBuffer

end BrokerSession
