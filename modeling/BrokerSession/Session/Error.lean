import BrokerSession.Catalog.ApiKey
import BrokerSession.Catalog.ErrorCode
import BrokerSession.Channel.IoError
import BrokerSession.Sasl.Error
import BrokerSession.Schema.Error
import BrokerSession.Text.Quoted

namespace BrokerSession

/-!
# Session failures

Why a session could not be opened.  A failure says whether a fresh connection
may help, whether the credentials were refused, and whether time ran out.
-/

/-- Why a session could not be opened. -/
inductive SessionError where
  | schema (cause : SchemaError)
  | io (cause : IoError)
  /-- A response answers another request than the outstanding one. -/
  | correlationMismatch (expected actual : Int32)
  /-- A response belongs to another API than the outstanding request. -/
  | unexpectedResponse (expected actual : ApiKey)
  /-- The bytes of a response are not the expected message. -/
  | invalidSaslResponse (cause : SessionError)
  | unsupportedSaslMechanism (mechanism : String) (enabled : List String)
  /-- An exchange came at a time when it is not allowed. -/
  | illegalSaslState (message : String)
  /-- The session has already failed or was closed. -/
  | handshakeTerminated (node : String)
  | saslAuthentication (message : String)
  | mechanism (name host : String) (cause : MechanismError)
  /-- The server answered with any other error code. -/
  | server (api : String) (code : ErrorCode) (message : String)
  | connectionClosed (node : String)
  | timeout (milliseconds : UInt64)
  | invalidConfig (message : String)
  deriving Repr, DecidableEq

namespace SessionError

def kind : SessionError → String
  | .schema _ => "Schema"
  | .io _ => "Io"
  | .correlationMismatch .. => "CorrelationMismatch"
  | .unexpectedResponse .. => "UnexpectedResponse"
  | .invalidSaslResponse _ => "InvalidSaslResponse"
  | .unsupportedSaslMechanism .. => "UnsupportedSaslMechanism"
  | .illegalSaslState _ => "IllegalSaslState"
  | .handshakeTerminated _ => "HandshakeTerminated"
  | .saslAuthentication _ => "SaslAuthentication"
  | .mechanism .. => "Mechanism"
  | .server .. => "Server"
  | .connectionClosed _ => "ConnectionClosed"
  | .timeout _ => "Timeout"
  | .invalidConfig _ => "InvalidConfig"

def message : SessionError → String
  | .schema cause => s!"Schema error: {cause.message}"
  | .io cause => s!"I/O error: {cause.message}"
  | .correlationMismatch expected actual =>
      s!"Correlation id for response ({actual.toInt}) does not match request ({expected.toInt})"
  | .unexpectedResponse expected actual =>
      s!"Unexpected {actual.name} response while awaiting {expected.name}"
  | .invalidSaslResponse cause =>
      s!"Invalid SASL mechanism response, server may be expecting a different protocol: {cause.message}"
  | .unsupportedSaslMechanism wanted enabled =>
      let listed := Text.quotedList enabled
      s!"Client SASL mechanism '{wanted}' not enabled in the server, enabled mechanisms are {listed}"
  | .illegalSaslState message => message
  | .handshakeTerminated node =>
      s!"SASL handshake with node {node} has already failed or was closed"
  | .saslAuthentication message => s!"SASL authentication failed: {message}"
  | .mechanism name host cause =>
      s!"An error occurred when evaluating SASL token received from {host} using mechanism {name}: {cause.message}"
  | .server api code message => s!"{api} failed with {code.display}: {message}"
  | .connectionClosed node =>
      s!"Connection to node {node} closed during authentication"
  | .timeout milliseconds =>
      s!"Operation timed out after {milliseconds.toNat}ms"
  | .invalidConfig message => s!"Invalid configuration: {message}"

/-- Whether the exchange may succeed on a fresh connection. -/
def isRetryable : SessionError → Bool
  | .io _ | .timeout _ | .connectionClosed _ => true
  | .server _ code _ => code.isRetriable
  | _ => false

/-- Whether the peer or the mechanism refused the credentials. -/
def isAuthenticationFailure : SessionError → Bool
  | .saslAuthentication _
  | .unsupportedSaslMechanism ..
  | .illegalSaslState _
  | .mechanism .. => true
  | _ => false

/-- Whether time ran out. -/
def isTimeout : SessionError → Bool
  | .timeout _ => true
  | _ => false

/-- The failure that an input or output failure means to a session. -/
def ofIo (node : String) (cause : IoError) : SessionError :=
  if cause.kind.isDisconnect then .connectionClosed node else .io cause

/--
The failure that an error code in a response of an API means.

The server's explanation, if it sent one, replaces the code's own text.
-/
def ofCode (api : String) (code : ErrorCode) (explanation : Option String) :
    SessionError :=
  let message := explanation.getD code.message
  match code with
  | .saslAuthenticationFailed => .saslAuthentication message
  | .illegalSaslState => .illegalSaslState message
  | _ => .server api code message

end SessionError

end BrokerSession
