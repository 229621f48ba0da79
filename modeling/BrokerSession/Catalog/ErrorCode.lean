import BrokerSession.Table

namespace BrokerSession

/-!
# Error codes of the protocol

An error code travels as a signed 16-bit integer.  A code outside of the table
is read as `unknownServerError`, so every wire value means something.
-/

/-- The error codes that the supported responses may carry. -/
inductive ErrorCode where
  | unknownServerError
  | none
  | offsetOutOfRange
  | corruptMessage
  | unknownTopicOrPartition
  | leaderNotAvailable
  | notLeaderForPartition
  | requestTimedOut
  | brokerNotAvailable
  | replicaNotAvailable
  | staleControllerEpoch
  | networkException
  | clusterAuthorizationFailed
  | unsupportedSaslMechanism
  | illegalSaslState
  | unsupportedVersion
  | notController
  | invalidRequest
  | securityDisabled
  | kafkaStorageError
  | saslAuthenticationFailed
  | staleBrokerEpoch
  deriving Repr, DecidableEq

namespace ErrorCode

/-- Every error code, by ascending wire value. -/
def all : List ErrorCode :=
  [.unknownServerError, .none, .offsetOutOfRange, .corruptMessage,
    .unknownTopicOrPartition, .leaderNotAvailable, .notLeaderForPartition,
    .requestTimedOut, .brokerNotAvailable, .replicaNotAvailable,
    .staleControllerEpoch, .networkException, .clusterAuthorizationFailed,
    .unsupportedSaslMechanism, .illegalSaslState, .unsupportedVersion,
    .notController, .invalidRequest, .securityDisabled, .kafkaStorageError,
    .saslAuthenticationFailed, .staleBrokerEpoch]

/-- The wire value. -/
def code : ErrorCode → Int16
  | .unknownServerError => -1
  | .none => 0
  | .offsetOutOfRange => 1
  | .corruptMessage => 2
  | .unknownTopicOrPartition => 3
  | .leaderNotAvailable => 5
  | .notLeaderForPartition => 6
  | .requestTimedOut => 7
  | .brokerNotAvailable => 8
  | .replicaNotAvailable => 9
  | .staleControllerEpoch => 11
  | .networkException => 13
  | .clusterAuthorizationFailed => 31
  | .unsupportedSaslMechanism => 33
  | .illegalSaslState => 34
  | .unsupportedVersion => 35
  | .notController => 41
  | .invalidRequest => 42
  | .securityDisabled => 54
  | .kafkaStorageError => 56
  | .saslAuthenticationFailed => 58
  | .staleBrokerEpoch => 77

/-- The error code of a wire value; an unlisted value is an unknown error. -/
def ofCode (code : Int16) : ErrorCode :=
  (all.find? fun listed => listed.code = code).getD .unknownServerError

/-- The protocol's name of the code. -/
def name : ErrorCode → String
  | .unknownServerError => "UNKNOWN_SERVER_ERROR"
  | .none => "NONE"
  | .offsetOutOfRange => "OFFSET_OUT_OF_RANGE"
  | .corruptMessage => "CORRUPT_MESSAGE"
  | .unknownTopicOrPartition => "UNKNOWN_TOPIC_OR_PARTITION"
  | .leaderNotAvailable => "LEADER_NOT_AVAILABLE"
  | .notLeaderForPartition => "NOT_LEADER_FOR_PARTITION"
  | .requestTimedOut => "REQUEST_TIMED_OUT"
  | .brokerNotAvailable => "BROKER_NOT_AVAILABLE"
  | .replicaNotAvailable => "REPLICA_NOT_AVAILABLE"
  | .staleControllerEpoch => "STALE_CONTROLLER_EPOCH"
  | .networkException => "NETWORK_EXCEPTION"
  | .clusterAuthorizationFailed => "CLUSTER_AUTHORIZATION_FAILED"
  | .unsupportedSaslMechanism => "UNSUPPORTED_SASL_MECHANISM"
  | .illegalSaslState => "ILLEGAL_SASL_STATE"
  | .unsupportedVersion => "UNSUPPORTED_VERSION"
  | .notController => "NOT_CONTROLLER"
  | .invalidRequest => "INVALID_REQUEST"
  | .securityDisabled => "SECURITY_DISABLED"
  | .kafkaStorageError => "KAFKA_STORAGE_ERROR"
  | .saslAuthenticationFailed => "SASL_AUTHENTICATION_FAILED"
  | .staleBrokerEpoch => "STALE_BROKER_EPOCH"

/-- Whether the refused operation may succeed when it is tried again. -/
def isRetriable : ErrorCode → Bool
  | .corruptMessage
  | .unknownTopicOrPartition
  | .leaderNotAvailable
  | .notLeaderForPartition
  | .requestTimedOut
  | .networkException
  | .notController
  | .kafkaStorageError => true
  | _ => false

/-- The text shown when the server sent none. -/
def message : ErrorCode → String
  | .unknownServerError =>
      "The server experienced an unexpected error when processing the request"
  | .none => "No error"
  | .offsetOutOfRange =>
      "The requested offset is not within the range of offsets maintained by the server"
  | .corruptMessage =>
      "The message contents does not match the message CRC or the message is otherwise corrupt"
  | .unknownTopicOrPartition => "This server does not host this topic-partition"
  | .leaderNotAvailable =>
      "There is no leader for this topic-partition as we are in the middle of a leadership election"
  | .notLeaderForPartition =>
      "This server is not the leader for that topic-partition"
  | .requestTimedOut => "The request timed out"
  | .brokerNotAvailable => "The broker is not available"
  | .replicaNotAvailable =>
      "The replica is not available for the requested topic-partition"
  | .staleControllerEpoch => "The controller moved to another broker"
  | .networkException =>
      "The server disconnected before a response was received"
  | .clusterAuthorizationFailed => "Cluster authorization failed"
  | .unsupportedSaslMechanism =>
      "The broker does not support the requested SASL mechanism"
  | .illegalSaslState => "Request is not valid given the current SASL state"
  | .unsupportedVersion => "The version of API is not supported"
  | .notController => "This is not the correct controller for this cluster"
  | .invalidRequest =>
      "This most likely occurs because of a request being malformed by the client library or the message was sent to an incompatible broker"
  | .securityDisabled => "Security features are disabled"
  | .kafkaStorageError =>
      "Disk error when trying to access log file on the disk"
  | .saslAuthenticationFailed => "SASL Authentication failed"
  | .staleBrokerEpoch => "Broker epoch has changed"

/-- The name with the wire value in parentheses. -/
def display (error : ErrorCode) : String :=
  s!"{error.name} ({error.code.toInt})"

/-- Error codes are ordered by their wire values. -/
instance : Ord ErrorCode where
  compare left right := compare left.code right.code

/-- The order is transitive, because that of the wire values is. -/
instance : Std.TransOrd ErrorCode :=
  inferInstanceAs (Std.TransCmp (compareOn ErrorCode.code))

instance : Inhabited ErrorCode := ⟨.none⟩

/-- How often each code occurs in a list. -/
def count (errors : List ErrorCode) : Table ErrorCode Nat :=
  errors.foldl (fun counts error => counts.alter error (·.getD 0 + 1)) ∅

/-- Reading a code's own wire value gives the code back. -/
@[simp] theorem ofCode_code (error : ErrorCode) : ofCode error.code = error := by
  cases error <;> decide

end ErrorCode

end BrokerSession
