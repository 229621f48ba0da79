import BrokerSession.Channel.Frame
import BrokerSession.Channel.Transport

namespace BrokerSession

/-!
# Outgoing frames

An outgoing frame keeps the bytes that the transport has not accepted yet.
Accepted bytes leave it for good, so nothing is ever sent twice.
-/

/-- A framed payload and what is still to be written of it. -/
structure Outgoing where
  destination : String
  size : Nat
  remaining : Bytes
  deriving Repr, DecidableEq

namespace Outgoing

/-- Frame a payload for a destination. -/
def ofPayload (destination : String) (payload : Bytes) :
    Except IoError Outgoing := do
  let framed ← FrameCodec.unlimited.encode payload
  return { destination, size := framed.length, remaining := framed }

def isComplete (outgoing : Outgoing) : Bool :=
  outgoing.remaining.isEmpty

/-- Write until nothing is left or the transport takes no more, counting on. -/
def writeAfter
    (outgoing : Outgoing) (written : Nat) (transport : Transport) :
    Except IoError Nat × Outgoing × Transport :=
  if unsent : outgoing.remaining = [] then (.ok written, outgoing, transport)
  else
    match outcome : transport.write outgoing.remaining with
    | (.ok count, later) =>
        if moved : count = 0 then
          (.error
            { kind := .writeZero
              message := s!"Failed to write to {outgoing.destination}" },
            outgoing, later)
        else
          writeAfter
            { outgoing with remaining := outgoing.remaining.drop count }
            (written + count) later
    | (.error failure, later) =>
        if again : failure.kind = .interrupted then
          writeAfter outgoing written later
        else if failure.kind = .wouldBlock then
          (.ok written, outgoing, later)
        else
          (.error failure, outgoing, later)
termination_by transport.writeOutcomes.length + outgoing.remaining.length
decreasing_by
  · have queue := Transport.writeOutcomes_write_le transport outgoing.remaining
    rw [outcome] at queue
    dsimp only at queue
    have left : 0 < outgoing.remaining.length := List.length_pos_iff.mpr unsent
    simp only [List.length_drop]
    omega
  · have queue := Transport.writeOutcomes_write_of_interrupted outcome again
    omega

/--
Write as much as the transport accepts; the answer is the number of bytes.

A transport that accepts nothing without blocking is a failure, an interrupted
call is made again, and a blocked one ends the writing for now.
-/
def writeTo (outgoing : Outgoing) (transport : Transport) :
    Except IoError Nat × Outgoing × Transport :=
  outgoing.writeAfter 0 transport

end Outgoing

end BrokerSession
