import BrokerSession.Catalog.ApiKey
import BrokerSession.Catalog.ErrorCode
import BrokerSession.Catalog.TopicPartition
import BrokerSession.Catalog.Request
import BrokerSession.UnorderedMap

namespace BrokerSession

/-!
# Responses

A response does not know its version: it is told at which version to be written
or read.  The answer to a version query is the one exception to reading a body
at the version asked for, because a peer that does not know that version
answers with a body of version zero.
-/

/-- The versions of one API that a peer accepts. -/
structure ApiVersion where
  apiKey : Int16
  minVersion : Int16
  maxVersion : Int16
  deriving Repr, DecidableEq

namespace ApiVersion

/-- The versions of an API that this library supports. -/
def ofApi (api : ApiKey) : ApiVersion :=
  ⟨api.id, api.oldestVersion, api.latestVersion⟩

/-- Whether the peer accepts a version. -/
def supports (range : ApiVersion) (version : Int16) : Bool :=
  range.minVersion ≤ version && version ≤ range.maxVersion

/-- The highest version that neither the peer nor `latest` exceeds. -/
def usableVersion (range : ApiVersion) (latest : Int16) : Int16 :=
  if range.maxVersion ≤ latest then range.maxVersion else latest

def toRecord (range : ApiVersion) : Record :=
  Table.ofList
    [("api_key", .int16 range.apiKey),
      ("min_version", .int16 range.minVersion),
      ("max_version", .int16 range.maxVersion)]

def ofRecord (record : Record) : Except SchemaError ApiVersion := do
  let apiKey ← record.int16 "api_key"
  let minVersion ← record.int16 "min_version"
  let maxVersion ← record.int16 "max_version"
  return { apiKey, minVersion, maxVersion }

end ApiVersion

/-- The versions that a peer accepts. -/
structure ApiVersionsResponse where
  error : ErrorCode
  apiVersions : List ApiVersion
  throttleTimeMs : Int32 := 0
  deriving Repr, DecidableEq

/-- Whether the peer takes the mechanism, and which mechanisms it has. -/
structure SaslHandshakeResponse where
  error : ErrorCode
  enabledMechanisms : List String
  deriving Repr, DecidableEq

/-- The server's mechanism token, or why authentication failed. -/
structure SaslAuthenticateResponse where
  error : ErrorCode
  errorMessage : Option String
  token : Bytes
  sessionLifetimeMs : Int64 := 0
  deriving Repr, DecidableEq

/-- A top-level error and one error for each partition, in no order. -/
structure StopReplicaResponse where
  error : ErrorCode
  partitionErrors : UnorderedMap TopicPartition ErrorCode
  deriving Repr, DecidableEq

namespace ApiVersionsResponse

/-- The response that lists every supported API. -/
def supported : ApiVersionsResponse where
  error := .none
  apiVersions := ApiKey.all.map ApiVersion.ofApi

/-- The range of an API, as its first entry lists it. -/
def apiVersion? (response : ApiVersionsResponse) (api : ApiKey) :
    Option ApiVersion :=
  response.apiVersions.find? fun listed => listed.apiKey = api.id

/-- Clients hold themselves back from version 2 on. -/
def shouldClientThrottle (version : Int16) : Bool := 2 ≤ version

/-- The record of the response, with a throttle time from version 1 on. -/
def toRecord (response : ApiVersionsResponse) (version : Int16) : Record :=
  let record : Record := Table.ofList
    [("error_code", .int16 response.error.code),
      ("api_versions",
        .array (response.apiVersions.map fun listed => .struct listed.toRecord))]
  if 1 ≤ version then
    record.insert "throttle_time_ms" (.int32 response.throttleTimeMs)
  else record

/-- Read the ranges, then the throttle time if there is one, then the error. -/
def ofRecord (record : Record) : Except SchemaError ApiVersionsResponse := do
  let apiVersions ←
    (← record.structArray "api_versions").mapM ApiVersion.ofRecord
  let throttleTimeMs ←
    if record.contains "throttle_time_ms" then record.int32 "throttle_time_ms"
    else pure 0
  let error := ErrorCode.ofCode (← record.int16 "error_code")
  return { error, apiVersions, throttleTimeMs }

end ApiVersionsResponse

namespace SaslHandshakeResponse

def toRecord (response : SaslHandshakeResponse) : Record :=
  Table.ofList
    [("error_code", .int16 response.error.code),
      ("enabled_mechanisms", .array (response.enabledMechanisms.map .string))]

/-- Read the mechanisms, then the error. -/
def ofRecord (record : Record) : Except SchemaError SaslHandshakeResponse := do
  let enabledMechanisms ←
    record.arrayOf "enabled_mechanisms" "string" Value.string?
  let error := ErrorCode.ofCode (← record.int16 "error_code")
  return { error, enabledMechanisms }

end SaslHandshakeResponse

namespace SaslAuthenticateResponse

def ofToken (token : Bytes) : SaslAuthenticateResponse where
  error := .none
  errorMessage := none
  token := token

def failure (error : ErrorCode) (explanation : String) :
    SaslAuthenticateResponse where
  error := error
  errorMessage := some explanation
  token := []

/-- The record of the response, with a session lifetime from version 1 on. -/
def toRecord (response : SaslAuthenticateResponse) (version : Int16) : Record :=
  let record : Record := Table.ofList
    [("error_code", .int16 response.error.code),
      ("error_message", .nullableString response.errorMessage),
      ("sasl_auth_bytes", .bytes response.token)]
  if 1 ≤ version then
    record.insert "session_lifetime_ms" (.int64 response.sessionLifetimeMs)
  else record

/-- Read the lifetime if the version has one, then the other fields in order. -/
def ofRecord (version : Int16) (record : Record) :
    Except SchemaError SaslAuthenticateResponse := do
  let sessionLifetimeMs ←
    if 1 ≤ version then record.int64 "session_lifetime_ms" else pure 0
  let error := ErrorCode.ofCode (← record.int16 "error_code")
  let errorMessage ← record.nullableString "error_message"
  let token ← record.bytes "sasl_auth_bytes"
  return { error, errorMessage, token, sessionLifetimeMs }

end SaslAuthenticateResponse

namespace StopReplicaResponse

/-- The response to a list of partitions, the last error of each winning. -/
def ofEntries (error : ErrorCode) (entries : List (TopicPartition × ErrorCode)) :
    StopReplicaResponse where
  error := error
  partitionErrors := UnorderedMap.ofList entries

/-- The partitions with their errors in ascending order. -/
def partitions (response : StopReplicaResponse) :
    Table TopicPartition ErrorCode :=
  response.partitionErrors.toTable

/-- The record of one partition's error. -/
def entryRecord (entry : TopicPartition × ErrorCode) : Record :=
  entry.1.toRecord.insert "error_code" (.int16 entry.2.code)

/-- Read the error of a partition, then the partition itself. -/
def entryOfRecord (record : Record) :
    Except SchemaError (TopicPartition × ErrorCode) := do
  let error := ErrorCode.ofCode (← record.int16 "error_code")
  let place ← TopicPartition.ofRecord record
  return (place, error)

/-- The record of the response, its partitions being collected and sorted. -/
def toRecord (response : StopReplicaResponse) : Record :=
  Table.ofList
    [("error_code", .int16 response.error.code),
      ("partitions",
        .array (response.partitionErrors.sort.map fun entry =>
          .struct (entryRecord entry)))]

/-- Read the partitions, then the top error. -/
def ofRecord (record : Record) : Except SchemaError StopReplicaResponse := do
  let entries ← (← record.structArray "partitions").mapM entryOfRecord
  let error := ErrorCode.ofCode (← record.int16 "error_code")
  return ofEntries error entries

end StopReplicaResponse

inductive Response where
  | apiVersions (response : ApiVersionsResponse)
  | saslHandshake (response : SaslHandshakeResponse)
  | saslAuthenticate (response : SaslAuthenticateResponse)
  | stopReplica (response : StopReplicaResponse)
  deriving Repr, DecidableEq

namespace Response

def api : Response → ApiKey
  | .apiVersions _ => .apiVersions
  | .saslHandshake _ => .saslHandshake
  | .saslAuthenticate _ => .saslAuthenticate
  | .stopReplica _ => .stopReplica

/-- The record of a response at a version. -/
def toRecord (version : Int16) : Response → Record
  | .apiVersions response => response.toRecord version
  | .saslHandshake response => response.toRecord
  | .saslAuthenticate response => response.toRecord version
  | .stopReplica response => response.toRecord

/-- The response of an API that a record describes at a version. -/
def ofRecord (api : ApiKey) (version : Int16) (record : Record) :
    Except SchemaError Response :=
  match api with
  | .apiVersions => .apiVersions <$> ApiVersionsResponse.ofRecord record
  | .saslHandshake => .saslHandshake <$> SaslHandshakeResponse.ofRecord record
  | .saslAuthenticate =>
      .saslAuthenticate <$> SaslAuthenticateResponse.ofRecord version record
  | .stopReplica => .stopReplica <$> StopReplicaResponse.ofRecord record

/--
Every error code in a response with the number of its occurrences, which may be
counted in any order.
-/
def errorCounts : Response → Table ErrorCode Nat
  | .apiVersions response => ErrorCode.count [response.error]
  | .saslHandshake response => ErrorCode.count [response.error]
  | .saslAuthenticate response => ErrorCode.count [response.error]
  | .stopReplica response =>
      ErrorCode.count (response.error :: response.partitions.values)

/-- The wire form of a response's body at a version. -/
def encode (response : Response) (version : Int16) : Except SchemaError Bytes :=
  response.api.responseSchema.encode version (response.toRecord version)

/-- Decode a response body at exactly one version; what follows is ignored. -/
def parseExact (api : ApiKey) (version : Int16) (bytes : Bytes) :
    Except SchemaError Response :=
  match (api.responseSchema.read version).run bytes with
  | .ok record _ => ofRecord api version record
  | .error refusal _ => .error refusal

/--
Decode a response body.

A list of versions that does not decode at the version asked for is decoded
once more, from the start, at version zero.
-/
def parse (api : ApiKey) (version : Int16) (bytes : Bytes) :
    Except SchemaError Response :=
  match api, parseExact api version bytes with
  | .apiVersions, .error _ => parseExact .apiVersions 0 bytes
  | _, outcome => outcome

end Response

end BrokerSession
