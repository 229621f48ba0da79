import BrokerSession.Schema.Codec

namespace BrokerSession

/-!
# Supported APIs

Each API has a key, a name and one schema for the bodies of its requests and of
its responses.  Both schemas of an API exist at the same versions.
-/

/-- The APIs that can be encoded and decoded. -/
inductive ApiKey where
  | stopReplica
  | saslHandshake
  | apiVersions
  | saslAuthenticate
  deriving Repr, DecidableEq

namespace ApiKey

/-- Every API, by ascending key. -/
def all : List ApiKey :=
  [.stopReplica, .saslHandshake, .apiVersions, .saslAuthenticate]

/-- The key that names the API on the wire. -/
def id : ApiKey → Int16
  | .stopReplica => 5
  | .saslHandshake => 17
  | .apiVersions => 18
  | .saslAuthenticate => 36

def ofId (id : Int16) : Except SchemaError ApiKey :=
  match all.find? fun listed => listed.id = id with
  | some api => .ok api
  | none => .error (.unknownApiKey id)

def name : ApiKey → String
  | .stopReplica => "StopReplica"
  | .saslHandshake => "SaslHandshake"
  | .apiVersions => "ApiVersions"
  | .saslAuthenticate => "SaslAuthenticate"

/-- The name with the key in parentheses. -/
def display (api : ApiKey) : String :=
  s!"{api.name}({api.id.toInt})"

/-- The versions at which the API exists. -/
def versions : ApiKey → VersionRange
  | .stopReplica => ⟨0, 0⟩
  | .saslHandshake => ⟨0, 1⟩
  | .apiVersions => ⟨0, 2⟩
  | .saslAuthenticate => ⟨0, 1⟩

/-- The fields of a request body. -/
def requestFields : ApiKey → List Field
  | .stopReplica =>
      [{ name := "controller_id", type := .int32 },
        { name := "controller_epoch", type := .int32 },
        { name := "delete_partitions", type := .boolean },
        { name := "partitions",
          type := .arrayOf
            [{ name := "topic", type := .string },
              { name := "partition", type := .int32 }] }]
  | .saslHandshake => [{ name := "mechanism", type := .string }]
  | .apiVersions => []
  | .saslAuthenticate => [{ name := "sasl_auth_bytes", type := .bytes }]

def responseFields : ApiKey → List Field
  | .stopReplica =>
      [{ name := "error_code", type := .int16 },
        { name := "partitions",
          type := .arrayOf
            [{ name := "topic", type := .string },
              { name := "partition", type := .int32 },
              { name := "error_code", type := .int16 }] }]
  | .saslHandshake =>
      [{ name := "error_code", type := .int16 },
        { name := "enabled_mechanisms", type := .array .string }]
  | .apiVersions =>
      [{ name := "error_code", type := .int16 },
        { name := "api_versions",
          type := .arrayOf
            [{ name := "api_key", type := .int16 },
              { name := "min_version", type := .int16 },
              { name := "max_version", type := .int16 }] },
        { name := "throttle_time_ms", type := .int32, versions := .since 1 }]
  | .saslAuthenticate =>
      [{ name := "error_code", type := .int16 },
        { name := "error_message", type := .nullableString },
        { name := "sasl_auth_bytes", type := .bytes },
        { name := "session_lifetime_ms", type := .int64, versions := .since 1 }]

def requestSchema (api : ApiKey) : MessageSchema where
  name := api.name ++ "Request"
  versions := api.versions
  body := .ofFields api.requestFields

def responseSchema (api : ApiKey) : MessageSchema where
  name := api.name ++ "Response"
  versions := api.versions
  body := .ofFields api.responseFields

def oldestVersion (api : ApiKey) : Int16 := api.versions.low

def latestVersion (api : ApiKey) : Int16 := api.versions.high

def supports (api : ApiKey) (version : Int16) : Bool :=
  api.versions.contains version

/-- Looking up an API's own key gives the API back. -/
@[simp] theorem ofId_id (api : ApiKey) : ofId api.id = .ok api := by
  cases api <;> rfl

end ApiKey

end BrokerSession
