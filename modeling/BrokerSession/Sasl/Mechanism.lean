import BrokerSession.Bytes
import BrokerSession.Sasl.Error

namespace BrokerSession

/-!
# Client mechanisms

A mechanism turns each server token into the next client token.  It may speak
first, it may have nothing to send, and it knows when it is complete.  Failing
leaves it in a state of its own, so evaluation always returns the next state.
-/

/-- The client side of a SASL mechanism with states in `Client`. -/
class Mechanism (Client : Type) where
  /-- The registered name of the mechanism. -/
  name : Client → String
  /-- Whether the first token comes before any challenge. -/
  hasInitialResponse : Client → Bool
  /-- Answer a challenge; no token means that there is nothing to send. -/
  evaluate : Client → Bytes → Except MechanismError (Option Bytes) × Client
  /-- Whether the mechanism is satisfied. -/
  isComplete : Client → Bool
  /-- Forget the secrets. -/
  dispose : Client → Client

end BrokerSession
