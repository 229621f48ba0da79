import BrokerSession.Catalog.ApiKey
import BrokerSession.Catalog.TopicPartition

namespace BrokerSession

/-!
# Requests

A request carries the version that it is written at.  Its body converts to a
record of the API's request schema and back.
-/

/-- Asks a broker to stop replicating a set of partitions. -/
structure StopReplicaRequest where
  controllerId : Int32
  controllerEpoch : Int32
  deletePartitions : Bool
  partitions : List TopicPartition
  deriving Repr, DecidableEq

/-- The content of a request, by API. -/
inductive RequestBody where
  /-- Asks which versions the peer accepts. -/
  | apiVersions
  /-- Names the mechanism that the client wants to use. -/
  | saslHandshake (mechanism : String)
  /-- Carries one mechanism token to the server. -/
  | saslAuthenticate (token : Bytes)
  /-- Asks a broker to stop replicating partitions. -/
  | stopReplica (content : StopReplicaRequest)
  deriving Repr, DecidableEq

/-- A request body together with the version it is written at. -/
structure Request where
  body : RequestBody
  version : Int16
  deriving Repr, DecidableEq

namespace StopReplicaRequest

def toRecord (content : StopReplicaRequest) : Record :=
  Table.ofList
    [("controller_id", .int32 content.controllerId),
      ("controller_epoch", .int32 content.controllerEpoch),
      ("delete_partitions", .boolean content.deletePartitions),
      ("partitions",
        .array (content.partitions.map fun place => .struct place.toRecord))]

/-- Read the partitions first, then the fields of the controller. -/
def ofRecord (record : Record) : Except SchemaError StopReplicaRequest := do
  let partitions ←
    (← record.structArray "partitions").mapM TopicPartition.ofRecord
  let controllerId ← record.int32 "controller_id"
  let controllerEpoch ← record.int32 "controller_epoch"
  let deletePartitions ← record.boolean "delete_partitions"
  return { controllerId, controllerEpoch, deletePartitions, partitions }

end StopReplicaRequest

namespace RequestBody

def api : RequestBody → ApiKey
  | .apiVersions => .apiVersions
  | .saslHandshake _ => .saslHandshake
  | .saslAuthenticate _ => .saslAuthenticate
  | .stopReplica _ => .stopReplica

def toRecord : RequestBody → Record
  | .apiVersions => ∅
  | .saslHandshake mechanism =>
      Table.ofList [("mechanism", .string mechanism)]
  | .saslAuthenticate token =>
      Table.ofList [("sasl_auth_bytes", .bytes token)]
  | .stopReplica content => content.toRecord

/-- The request of an API that a record describes. -/
def ofRecord (api : ApiKey) (record : Record) :
    Except SchemaError RequestBody :=
  match api with
  | .apiVersions => .ok .apiVersions
  | .saslHandshake => .saslHandshake <$> record.string "mechanism"
  | .saslAuthenticate => .saslAuthenticate <$> record.bytes "sasl_auth_bytes"
  | .stopReplica => .stopReplica <$> StopReplicaRequest.ofRecord record

end RequestBody

namespace Request

def api (request : Request) : ApiKey := request.body.api

/-- The wire form of a request's body. -/
def encode (request : Request) : Except SchemaError Bytes :=
  request.api.requestSchema.encode request.version request.body.toRecord

/-- The request of an API that a record describes at a version. -/
def ofRecord (api : ApiKey) (version : Int16) (record : Record) :
    Except SchemaError Request := do
  let body ← RequestBody.ofRecord api record
  return { body, version }

/-- Decode the body of a request; what follows it is ignored. -/
def parse (api : ApiKey) (version : Int16) (bytes : Bytes) :
    Except SchemaError Request :=
  match (api.requestSchema.read version).run bytes with
  | .ok record _ => ofRecord api version record
  | .error refusal _ => .error refusal

end Request

end BrokerSession
