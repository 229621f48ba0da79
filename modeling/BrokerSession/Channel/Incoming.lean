import BrokerSession.Channel.Frame
import BrokerSession.Channel.Transport

namespace BrokerSession

/-!
# Incoming frames

An incoming frame is read piece by piece.  No read asks for more than the frame
still needs, so whatever follows the frame stays in the transport.
-/

/-- A frame as far as it has arrived. -/
structure Incoming where
  source : String
  codec : FrameCodec
  buffer : Bytes := []
  payload : Option Bytes := none
  deriving Repr, DecidableEq

namespace Incoming

/-- Wait for a frame of at most `maxSize` bytes of payload. -/
def start (source : String) (maxSize : Nat) : Incoming where
  source := source
  codec := ⟨maxSize⟩

def isComplete (incoming : Incoming) : Bool :=
  incoming.payload.isSome

/-- The bytes that the head, or else the body, of the frame still needs. -/
def needed (incoming : Incoming) : Except IoError Nat := do
  match ← incoming.codec.peekSize incoming.buffer with
  | some size => return frameHeadLength + size - incoming.buffer.length
  | none => return frameHeadLength - incoming.buffer.length

/-- The failure of a frame whose peer closed. -/
def endOfStream (incoming : Incoming) : IoError where
  kind := .unexpectedEof
  message := s!"Connection to {incoming.source} closed"

/-- Read until the frame is complete or nothing more arrived, counting on. -/
def readAfter (incoming : Incoming) (count : Nat) (transport : Transport) :
    Except IoError Nat × Incoming × Transport :=
  if incoming.isComplete then (.ok count, incoming, transport)
  else
    match incoming.needed with
    | .error failure => (.error failure, incoming, transport)
    | .ok needed =>
        match outcome : transport.read needed with
        | (.ok taken, later) =>
            if ended : taken = [] then
              (.error incoming.endOfStream, incoming, later)
            else
              let grown :=
                { incoming with buffer := incoming.buffer ++ taken }
              match grown.codec.decode grown.buffer with
              | .error failure => (.error failure, grown, later)
              | .ok none => readAfter grown (count + taken.length) later
              | .ok (some (payload, rest)) =>
                  (.ok (count + taken.length),
                    { grown with buffer := rest, payload := some payload },
                    later)
        | (.error failure, later) =>
            if again : failure.kind = .interrupted then
              readAfter incoming count later
            else if failure.kind = .wouldBlock then
              (.ok count, incoming, later)
            else
              (.error failure, incoming, later)
termination_by transport.readWork
decreasing_by
  · exact Transport.readWork_read_of_ok outcome ended
  · exact Transport.readWork_read_of_interrupted outcome again

/--
Read what the transport has, up to the end of the frame; the answer is the
number of bytes.

The end of the stream and a size out of range are failures, an interrupted call
is made again, and a blocked one ends the reading for now.
-/
def readFrom (incoming : Incoming) (transport : Transport) :
    Except IoError Nat × Incoming × Transport :=
  incoming.readAfter 0 transport

end Incoming

end BrokerSession
