import BrokerSession.Proofs.Sasl.Server
import BrokerSession.Session.Advance

namespace BrokerSession

/-!
# Brokers and their connections

A broker cuts its input into frames, reads each of them as a request and
answers it under the correlation id and at the version of the request.  It
consents to the one mechanism that it has, answers tokens as its server's side
of that mechanism does, and reports no error unless the server refuses.

A link is a session that is connected to a broker.  Nothing happens on it
unless somebody does it: the owner of the session calls, the network carries
accepted bytes to the broker, the broker serves a whole frame, and the network
delivers bytes of the answers.
-/

/-- A request with the header that it came behind. -/
structure Asked where
  header : RequestHeader
  request : Request
  deriving Repr, DecidableEq

/-- Read the payload of a request; what follows the body is ignored. -/
def Asked.ofPayload (payload : Bytes) : Except SchemaError Asked :=
  match RequestHeader.read.run payload with
  | .error refusal _ => .error refusal
  | .ok header body => do
      let request ← Request.parse header.api header.version body
      return { header, request }

/-- What an answer says besides what it has to say. -/
structure Manner where
  apiVersions : List ApiVersion
  throttleTimeMs : Int32 := 0
  enabledMechanisms : List String := []
  errorMessage : Option String := none
  sessionLifetimeMs : Int64 := 0
  deriving Repr, DecidableEq

namespace Manner

/-- The answer to a version query. -/
def versions (manner : Manner) : ApiVersionsResponse where
  error := .none
  apiVersions := manner.apiVersions
  throttleTimeMs := manner.throttleTimeMs

/-- The consent to a mechanism, or its refusal. -/
def consent (manner : Manner) (error : ErrorCode) :
    SaslHandshakeResponse where
  error := error
  enabledMechanisms := manner.enabledMechanisms

/-- The answer to a token that the server has accepted. -/
def reply (manner : Manner) (token : Bytes) : SaslAuthenticateResponse where
  error := .none
  errorMessage := manner.errorMessage
  token := token
  sessionLifetimeMs := manner.sessionLifetimeMs

end Manner

structure Broker where
  server : SaslServer
  /-- How the broker answers, given what it has read before. -/
  manner : List (Except SchemaError Asked) → Manner
  /-- What the broker has read, oldest first. -/
  received : List (Except SchemaError Asked) := []

namespace Broker

/-- The answer to a request, and the server's side of the mechanism after it. -/
def respond (broker : Broker) (request : Request) : Response × SaslServer :=
  let manner := broker.manner broker.received
  match request.body with
  | .apiVersions => (.apiVersions manner.versions, broker.server)
  | .saslHandshake mechanism =>
      (.saslHandshake
        (manner.consent
          (if mechanism = broker.server.mechanism then .none
            else .unsupportedSaslMechanism)),
        broker.server)
  | .saslAuthenticate token =>
      match broker.server.evaluate token with
      | some (token, server) =>
          (.saslAuthenticate (manner.reply token), server)
      | none =>
          (.saslAuthenticate
            (.failure .saslAuthenticationFailed "Invalid credentials"),
            broker.server)
  | .stopReplica _ => (.stopReplica (.ofEntries .none []), broker.server)

/-- Read a request and answer it. -/
def receive (broker : Broker) (asked : Asked) : Response × Broker :=
  let (response, server) := broker.respond asked.request
  (response,
    { broker with server, received := broker.received ++ [.ok asked] })

/-- The answers to requests that are read one after the other. -/
def responses : Broker → List Asked → List (Asked × Response)
  | _, [] => []
  | broker, asked :: later =>
      (asked, (broker.receive asked).1) ::
        (broker.receive asked).2.responses later

/-- The frame of a response to a request, if the response can be written. -/
def framed? (header : RequestHeader) (response : Response) : Option Bytes := do
  let payload ←
    (response.serialize header.correlationId header.version).toOption
  (FrameCodec.unlimited.encode payload).toOption

/-- Answer a payload with a frame, or with nothing if it is not a request. -/
def handle (broker : Broker) (payload : Bytes) : Bytes × Broker :=
  match Asked.ofPayload payload with
  | .error refusal =>
      ([], { broker with received := broker.received ++ [.error refusal] })
  | .ok asked =>
      let (response, next) := broker.receive asked
      ((framed? asked.header response).getD [], next)

end Broker

/-- One direction of a connection. -/
structure Pipe where
  /-- The bytes that have come out at the far end. -/
  passed : Bytes := []
  /-- The bytes that are still on their way. -/
  waiting : Bytes := []
  deriving Repr, DecidableEq

namespace Pipe

/-- All bytes that were put in so far. -/
def content (pipe : Pipe) : Bytes := pipe.passed ++ pipe.waiting

def put (pipe : Pipe) (bytes : Bytes) : Pipe :=
  { pipe with waiting := pipe.waiting ++ bytes }

/-- Let some bytes come out at the far end. -/
def advance (pipe : Pipe) (count : Nat) : Pipe where
  passed := pipe.passed ++ pipe.waiting.take count
  waiting := pipe.waiting.drop count

end Pipe

/-- A session and a broker, with the bytes between them. -/
structure Link where
  session : Session SaslClient
  broker : Broker
  /-- What the session's transport has accepted, up to where it is served. -/
  requests : Pipe := {}
  /-- What the broker has answered, up to where it has arrived. -/
  answers : Pipe := {}

namespace Link

/-- What may happen on a link. -/
inductive Step where
  /-- The owner of the session calls it. -/
  | call
  /-- The bytes that the transport has accepted go on their way. -/
  | carry
  /-- The broker answers the next request, if all of it has arrived. -/
  | serve
  /-- Some bytes of the answers arrive. -/
  | deliver (count : Nat)
  | readBudget (budget : Option Nat)
  | writeBudget (budget : Option Nat)
  deriving Repr, DecidableEq

/-- Do something to the session's transport. -/
def onTransport (link : Link) (step : Transport.Step) : Link :=
  { link with
    session := (link.session.perform (.transport step)).2 }

/-- The bytes that the session's transport has accepted. -/
def accepted (link : Link) : Bytes := link.session.transport.outbound

def perform (link : Link) : Step → Link
  | .call => { link with session := link.session.authenticate.2 }
  | .carry =>
      { link.onTransport .take with
        requests := link.requests.put link.accepted }
  | .serve =>
      match FrameCodec.unlimited.decode link.requests.waiting with
      | .ok (some (payload, rest)) =>
          let (answer, broker) := link.broker.handle payload
          { link with
            broker
            requests :=
              link.requests.advance
                (link.requests.waiting.length - rest.length)
            answers := link.answers.put answer }
      | _ => link
  | .deliver count =>
      { link.onTransport (.push (link.answers.waiting.take count)) with
        answers := link.answers.advance count }
  | .readBudget budget => link.onTransport (.readBudget budget)
  | .writeBudget budget => link.onTransport (.writeBudget budget)

/-- The link after so many steps of a schedule. -/
def after (link : Link) (schedule : Nat → Step) : Nat → Link
  | 0 => link
  | time + 1 => (link.after schedule time).perform (schedule time)

/-- A session with a client of its own that is connected to a broker. -/
def start (config : Config) (node host : String) (subject : Subject)
    (client : SaslClient) (broker : Broker) : Link where
  session := Session.start config node host subject {} client
  broker := broker

/-- Whether nothing that goes on is put off for ever. -/
structure IsFair (link : Link) (schedule : Nat → Step) : Prop where
  calls : ∀ now, ∃ time, now ≤ time ∧ schedule time = .call
  carries : ∀ now, ∃ time, now ≤ time ∧ schedule time = .carry
  serves : ∀ now, ∃ time, now ≤ time ∧ schedule time = .serve
  delivers :
    ∀ now, ∃ time count,
      now ≤ time ∧ 0 < count ∧ schedule time = .deliver count
  /-- Budgets are lifted in the end. -/
  lifted :
    ∃ start, ∀ time, start ≤ time →
      let transport := (link.after schedule time).session.transport
      transport.readBudget = none ∧ transport.writeBudget = none

end Link

end BrokerSession
