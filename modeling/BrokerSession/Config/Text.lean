import BrokerSession.Config.Basic
import BrokerSession.Json.Document

namespace BrokerSession

/-!
# Configurations as text

A configuration is written as a JSON object with its members in a fixed order.
Reading takes an object with any of the members, ignoring unknown ones, or an
array of the values in that order; what is missing keeps its default.
-/

namespace Config

/-- The names of the members in order. -/
def memberNames : List String :=
  ["mechanism", "client_id", "handshake_request_enable", "max_receive_size",
    "connection_timeout_ms", "authentication_timeout_ms"]

/-- The configuration that members describe. -/
def ofMembers? (members : List (String × Json.Document)) : Option Config := do
  let initial : Config := {}
  let mechanism ←
    Json.member? members "mechanism" (·.text?) initial.mechanism
  let clientId ←
    Json.member? members "client_id" (·.nullableText?) initial.clientId
  let handshakeRequestEnable ←
    Json.member? members "handshake_request_enable" (·.boolean?)
      initial.handshakeRequestEnable
  let maxReceiveSize ←
    Json.member? members "max_receive_size"
      (fun document => document.unsigned64?.map UInt64.toNat)
      initial.maxReceiveSize
  let connectionTimeoutMs ←
    Json.member? members "connection_timeout_ms" (·.unsigned64?)
      initial.connectionTimeoutMs
  let authenticationTimeoutMs ←
    Json.member? members "authentication_timeout_ms" (·.unsigned64?)
      initial.authenticationTimeoutMs
  return {
    mechanism
    clientId
    handshakeRequestEnable
    maxReceiveSize
    connectionTimeoutMs
    authenticationTimeoutMs }

/-- The configuration that a text describes. -/
def ofText? (text : String) : Option Config := do
  let document ← Json.Document.ofText? text
  ofMembers? (← document.members? memberNames)

/-- The text of a configuration. -/
def toText (config : Config) : String :=
  Json.writtenObject
    [("mechanism", Json.writtenText config.mechanism),
      ("client_id", config.clientId.elim "null" Json.writtenText),
      ("handshake_request_enable",
        if config.handshakeRequestEnable then "true" else "false"),
      ("max_receive_size", toString config.maxReceiveSize),
      ("connection_timeout_ms", toString config.connectionTimeoutMs.toNat),
      ("authentication_timeout_ms",
        toString config.authenticationTimeoutMs.toNat)]

end Config

end BrokerSession
