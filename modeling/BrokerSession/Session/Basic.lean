import BrokerSession.Channel.Incoming
import BrokerSession.Config.Basic
import BrokerSession.Sasl.Client
import BrokerSession.Session.Envelope
import BrokerSession.Session.Ledger
import BrokerSession.Session.Stage

namespace BrokerSession

/-!
# Sessions

A session owns its transport and its mechanism.  At most one frame is being
written and at most one is being read.  A change of stage that is asked for
while a frame is partly written stays pending until the frame is flushed, so a
session never waits for an answer to bytes that the peer has not received.

The journal lists, oldest first, what the session framed, flushed, took,
decoded and evaluated.
-/

/-- What a session did, in the terms of its exchange. -/
inductive Event where
  /-- A payload was framed for sending, as a request if it has a header. -/
  | framed (header : Option RequestHeader) (frame : Bytes)
  /-- The frame being written was accepted to its last byte. -/
  | flushed
  /-- A whole frame was taken from the transport. -/
  | taken (payload : Bytes)
  /-- A response was decoded against the header of its request. -/
  | decoded (header : RequestHeader) (response : Response)
  /-- The mechanism answered a challenge. -/
  | evaluated (challenge : Bytes) (outcome : Except MechanismError (Option Bytes))

/-- A session that is being opened over a transport. -/
structure Session (Client : Type) where
  config : Config
  node : String
  host : String
  subject : Subject
  transport : Transport
  client : Client
  ledger : Ledger := {}
  started : Bool := false
  stage : Stage
  pending : Option Stage := none
  incoming : Option Incoming := none
  outgoing : Option Outgoing := none
  correlationId : Int32 := -1
  /-- The header of the request whose response is awaited. -/
  outstanding : Option RequestHeader := none
  handshakeVersion : Int16 := 0
  /-- The version at which tokens are wrapped; without one they travel raw. -/
  authenticateVersion : Option Int16 := none
  journal : List Event := []

namespace Session

variable {Client : Type}

/-- A session with a given mechanism. -/
def start
    (config : Config) (node host : String) (subject : Subject)
    (transport : Transport) (client : Client) : Session Client :=
  { config, node, host, subject, transport, client
    stage := .first config.handshakeRequestEnable }

/--
A session with the mechanism that its configuration names.

The configuration has to be usable and the subject has to have what the
mechanism needs; `entropy` feeds the nonce.
-/
def create
    (config : Config) (node host : String) (subject : Subject)
    (transport : Transport) (entropy : Bytes) :
    Except SessionError (Session SaslClient) := do
  config.validate.mapError fun broken => .invalidConfig broken.message
  let client ← (SaslClient.create config.mechanism subject entropy).mapError
    fun cause => .mechanism config.mechanism host cause
  return start config node host subject transport client

def isComplete (session : Session Client) : Bool :=
  session.stage = .complete

/-- The authenticated identity, once the session is complete. -/
def principal? (session : Session Client) : Option Principal :=
  if session.isComplete then
    session.subject.firstPrincipal.toOption.map Principal.user
  else none

def describe (session : Session Client) : String :=
  Text.structured "SaslClientAuthenticator"
    [("node", Text.quoted session.node),
      ("mechanism", Text.quoted session.config.mechanism),
      ("state", session.stage.name),
      ("pending_state", Text.optional (session.pending.map Stage.name)),
      ("correlation_id", toString session.correlationId.toInt)]

def note (session : Session Client) (event : Event) : Session Client :=
  { session with journal := session.journal ++ [event] }

/-- Ask, or stop asking, to be told when writing becomes possible. -/
def setWriteInterest (session : Session Client) (interest : Bool) :
    Session Client :=
  { session with transport := session.transport.setWriteInterest interest }

/--
Move to a stage, or keep the move pending while a frame is partly written.

Completing the session is recorded.
-/
def setStage (session : Session Client) (stage : Stage) : Session Client :=
  if session.outgoing.isSome then { session with pending := some stage }
  else
    let moved := { session with pending := none, stage := stage }
    if stage = .complete then
      { moved.setWriteInterest false with
        ledger := moved.ledger.recordSucceeded }
    else moved

/-- Drop the flushed frame and make the pending move. -/
def settle (session : Session Client) : Session Client :=
  let settled :=
    { (session.note .flushed).setWriteInterest false with
      outgoing := none, pending := none }
  match session.pending with
  | some stage => settled.setStage stage
  | none => settled

/-- Give up: nothing is written, read or awaited any more. -/
def fail (session : Session Client) : Session Client :=
  { session.setWriteInterest false with
    stage := .failed
    pending := none
    outgoing := none
    incoming := none
    outstanding := none
    ledger := session.ledger.recordFailed }

/--
Release the mechanism's secrets and the frames in flight.

A session that is not complete cannot be resumed afterwards.
-/
def close [Mechanism Client] (session : Session Client) : Session Client :=
  let released :=
    { session with
      client := Mechanism.dispose session.client
      incoming := none
      outgoing := none
      outstanding := none }
  if session.stage.isTerminal then released
  else
    { released.setWriteInterest false with stage := .failed, pending := none }

end Session

end BrokerSession
