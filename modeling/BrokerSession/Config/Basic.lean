import BrokerSession.Text.Blank

namespace BrokerSession

/-!
# Configurations

What a session needs to know besides its credentials.  A configuration is
usable only if it passes `validate`, which reports the first rule that is
broken.
-/

structure Config where
  mechanism : String := "PLAIN"
  /-- The identifier sent in every request header. -/
  clientId : Option String := none
  /-- Whether versions and the mechanism are negotiated before any token. -/
  handshakeRequestEnable : Bool := true
  /-- The largest payload accepted while authenticating. -/
  maxReceiveSize : Nat := 524288
  connectionTimeoutMs : UInt64 := 30000
  authenticationTimeoutMs : UInt64 := 30000
  deriving Repr, DecidableEq

/-- The rule that a configuration breaks. -/
inductive ConfigError where
  | blankMechanism
  | zeroReceiveSize
  | oversizedReceiveSize
  | zeroTimeout
  | longClientId
  deriving Repr, DecidableEq

namespace ConfigError

def message : ConfigError → String
  | .blankMechanism => "mechanism must not be empty"
  | .zeroReceiveSize => "max_receive_size must be greater than 0"
  | .oversizedReceiveSize => "max_receive_size must fit in a 4-byte frame size"
  | .zeroTimeout => "timeouts must be greater than 0"
  | .longClientId => "client_id is too long"

end ConfigError

/-- A span of time: whole seconds and the nanoseconds beyond them. -/
structure Span where
  seconds : UInt64
  nanoseconds : UInt32
  deriving Repr, DecidableEq

namespace Span

/-- The span of a number of milliseconds. -/
def ofMilliseconds (milliseconds : UInt64) : Span where
  seconds := milliseconds / 1000
  nanoseconds := (milliseconds % 1000).toUInt32 * 1000000

/-- The whole milliseconds of a span, as a 64-bit word that wraps. -/
def toMilliseconds (span : Span) : UInt64 :=
  UInt64.ofNat (span.seconds.toNat * 1000 + span.nanoseconds.toNat / 1000000)

end Span

namespace Config

/-- Check the rules in order and report the first that is broken. -/
def validate (config : Config) : Except ConfigError Unit :=
  if Text.isBlank config.mechanism then .error .blankMechanism
  else if config.maxReceiveSize = 0 then .error .zeroReceiveSize
  else if 2147483647 < config.maxReceiveSize then .error .oversizedReceiveSize
  else if config.connectionTimeoutMs = 0 ∨ config.authenticationTimeoutMs = 0 then
    .error .zeroTimeout
  else
    match config.clientId with
    | some clientId =>
        if 32767 < clientId.utf8ByteSize then .error .longClientId else .ok ()
    | none => .ok ()

def connectionTimeout (config : Config) : Span :=
  .ofMilliseconds config.connectionTimeoutMs

def authenticationTimeout (config : Config) : Span :=
  .ofMilliseconds config.authenticationTimeoutMs

/-- The same configuration with another limit on connecting. -/
def withConnectionTimeout (config : Config) (limit : Span) : Config :=
  { config with connectionTimeoutMs := limit.toMilliseconds }

/-- The same configuration with another limit on the whole exchange. -/
def withAuthenticationTimeout (config : Config) (limit : Span) : Config :=
  { config with authenticationTimeoutMs := limit.toMilliseconds }

/-- A configuration that has been checked. -/
def build (config : Config) : Except ConfigError Config := do
  config.validate
  return config

end Config

end BrokerSession
