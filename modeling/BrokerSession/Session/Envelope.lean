import BrokerSession.Catalog.Request
import BrokerSession.Catalog.Response
import BrokerSession.Channel.Outgoing
import BrokerSession.Session.Error

namespace BrokerSession

/-!
# Envelopes

Every request is sent behind a header that names its API and version and gives
it a correlation id; every response repeats that id.  A response does not name
its API, so it is decoded against the header of the request it answers.
-/

structure RequestHeader where
  api : ApiKey
  version : Int16
  correlationId : Int32
  clientId : Option String
  deriving Repr, DecidableEq

structure ResponseHeader where
  correlationId : Int32
  deriving Repr, DecidableEq

namespace RequestHeader

def encode (header : RequestHeader) : Except SchemaError Bytes := do
  let clientId ← Encode.nullableString "client_id" header.clientId
  return Bytes.ofInt16 header.api.id ++ Bytes.ofInt16 header.version ++
    Bytes.ofInt32 header.correlationId ++ clientId

/-- Read a request header; its fixed part of eight bytes has to be there. -/
def read : Reader RequestHeader := do
  let fixed ← Decode.take "request_header" 8
  match ApiKey.ofId (Bytes.toInt16 (fixed.take 2)) with
  | .error refusal => throw refusal
  | .ok api =>
      let clientId ← Decode.nullableString "client_id"
      return {
        api
        version := Bytes.toInt16 ((fixed.drop 2).take 2)
        correlationId := Bytes.toInt32 (fixed.drop 4)
        clientId }

end RequestHeader

namespace ResponseHeader

def encode (header : ResponseHeader) : Bytes :=
  Bytes.ofInt32 header.correlationId

def read : Reader ResponseHeader := do
  return { correlationId := Bytes.toInt32 (← Decode.take "correlation_id" 4) }

end ResponseHeader

namespace Request

/-- The header and the body of a request, one after the other. -/
def serialize (request : Request) (header : RequestHeader) :
    Except SchemaError Bytes := do
  let head ← header.encode
  return head ++ (← request.encode)

/-- The frame that sends a request to a destination. -/
def toOutgoing (request : Request) (destination : String)
    (header : RequestHeader) : Except SessionError Outgoing := do
  let payload ← (request.serialize header).mapError .schema
  (Outgoing.ofPayload destination payload).mapError .io

end Request

namespace Response

/-- The header and the body of a response, one after the other. -/
def serialize (response : Response) (correlationId : Int32) (version : Int16) :
    Except SchemaError Bytes := do
  return ResponseHeader.encode { correlationId } ++ (← response.encode version)

/-- The frame that sends a response to a destination. -/
def toOutgoing (response : Response) (destination : String)
    (correlationId : Int32) (version : Int16) :
    Except SessionError Outgoing := do
  let payload ← (response.serialize correlationId version).mapError .schema
  (Outgoing.ofPayload destination payload).mapError .io

/-- Decode the payload of a response against the header of its request. -/
def ofPayload (header : RequestHeader) (payload : Bytes) :
    Except SessionError Response :=
  match ResponseHeader.read.run payload with
  | .error refusal _ => .error (.schema refusal)
  | .ok found body =>
      if found.correlationId = header.correlationId then
        (parse header.api header.version body).mapError .schema
      else
        .error
          (.correlationMismatch header.correlationId found.correlationId)

/-- The answer to a version query, refusing responses of other APIs. -/
def toApiVersions : Response → Except SessionError ApiVersionsResponse
  | .apiVersions response => .ok response
  | other => .error (.unexpectedResponse .apiVersions other.api)

/-- The answer to a handshake, refusing responses of other APIs. -/
def toSaslHandshake : Response → Except SessionError SaslHandshakeResponse
  | .saslHandshake response => .ok response
  | other => .error (.unexpectedResponse .saslHandshake other.api)

/-- The answer to a token, refusing responses of other APIs. -/
def toSaslAuthenticate :
    Response → Except SessionError SaslAuthenticateResponse
  | .saslAuthenticate response => .ok response
  | other => .error (.unexpectedResponse .saslAuthenticate other.api)

/-- The answer about stopped replicas, refusing responses of other APIs. -/
def toStopReplica : Response → Except SessionError StopReplicaResponse
  | .stopReplica response => .ok response
  | other => .error (.unexpectedResponse .stopReplica other.api)

end Response

end BrokerSession
