import BrokerSession.Catalog.Response
import BrokerSession.Session.Error

namespace BrokerSession

/-!
# Stages of a session

A session asks for versions, names its mechanism, and then exchanges tokens
until the mechanism and the server are satisfied.  Without a handshake it
starts with the tokens.
-/

/-- How far a session has come. -/
inductive Stage where
  | sendApiVersionsRequest
  | receiveApiVersionsResponse
  | sendHandshakeRequest
  | receiveHandshakeResponse
  /-- The first token is about to be sent. -/
  | initial
  /-- Tokens are being exchanged. -/
  | intermediate
  /-- The mechanism is complete and the server's last response is owed. -/
  | clientComplete
  | complete
  | failed
  deriving Repr, DecidableEq

namespace Stage

def name : Stage → String
  | .sendApiVersionsRequest => "SendApiVersionsRequest"
  | .receiveApiVersionsResponse => "ReceiveApiVersionsResponse"
  | .sendHandshakeRequest => "SendHandshakeRequest"
  | .receiveHandshakeResponse => "ReceiveHandshakeResponse"
  | .initial => "Initial"
  | .intermediate => "Intermediate"
  | .clientComplete => "ClientComplete"
  | .complete => "Complete"
  | .failed => "Failed"

/-- Whether a session goes no further from here. -/
def isTerminal : Stage → Bool
  | .complete | .failed => true
  | _ => false

/-- The stage that a session begins in. -/
def first (handshake : Bool) : Stage :=
  if handshake then .sendApiVersionsRequest else .initial

/--
The stage that follows once the mechanism is complete.

A server that receives raw tokens sends nothing after the last one; otherwise a
response is owed, unless one has just arrived and nothing was sent in reply.
-/
def afterClientComplete (authenticateEnabled noResponsesPending : Bool) :
    Stage :=
  if !authenticateEnabled || noResponsesPending then .complete
  else .clientComplete

end Stage

namespace SaslHandshakeResponse

/-- Check that the server takes the mechanism. -/
def check (response : SaslHandshakeResponse) (mechanism : String) :
    Except SessionError Unit :=
  let enabled := Text.quotedList response.enabledMechanisms
  match response.error with
  | .none => .ok ()
  | .unsupportedSaslMechanism =>
      .error (.unsupportedSaslMechanism mechanism response.enabledMechanisms)
  | .illegalSaslState =>
      .error (.illegalSaslState
        s!"Unexpected handshake request with client mechanism {mechanism}, enabled mechanisms are {enabled}")
  | code =>
      .error (.saslAuthentication
        s!"Unknown error code {code.display}, client mechanism is {mechanism}, enabled mechanisms are {enabled}")

end SaslHandshakeResponse

end BrokerSession
