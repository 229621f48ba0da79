import BrokerSession.Sasl.Plain
import BrokerSession.Sasl.Scram.Client
import BrokerSession.Sasl.Subject

namespace BrokerSession

/-!
# Choosing a mechanism

The mechanism named in a configuration is made from the subject's credential.
A SCRAM client needs a nonce, which is the base64 form of bytes drawn by the
caller.
-/

/-- A client of one of the supported mechanisms. -/
inductive SaslClient where
  | plain (client : PlainClient)
  | scram (client : ScramClient)

namespace SaslClient

instance : Mechanism SaslClient where
  name
    | .plain client => Mechanism.name client
    | .scram client => Mechanism.name client
  hasInitialResponse
    | .plain client => Mechanism.hasInitialResponse client
    | .scram client => Mechanism.hasInitialResponse client
  evaluate
    | .plain client, challenge =>
        let (outcome, next) := Mechanism.evaluate client challenge
        (outcome, .plain next)
    | .scram client, challenge =>
        let (outcome, next) := Mechanism.evaluate client challenge
        (outcome, .scram next)
  isComplete
    | .plain client => Mechanism.isComplete client
    | .scram client => Mechanism.isComplete client
  dispose
    | .plain client => .plain (Mechanism.dispose client)
    | .scram client => .scram (Mechanism.dispose client)

/-- The nonce made from random bytes. -/
def nonceOf (entropy : Bytes) : String :=
  String.ofList (Text.base64Encode entropy)

/-- Make the client of a mechanism from a subject and random bytes. -/
def create (mechanism : String) (subject : Subject) (entropy : Bytes) :
    Except MechanismError SaslClient := do
  let credential : Except MechanismError Credential :=
    subject.credential.elim (.error (.missingCredentials mechanism)) .ok
  if mechanism = "PLAIN" then
    let { username, password } ← credential
    return .plain
      { authorizationId := subject.authorizationId, username, password }
  else
    match Scram.Suite.ofName? mechanism with
    | some suite =>
        let { username, password } ← credential
        return .scram { suite, username, password, nonce := nonceOf entropy }
    | none => throw (.unsupportedMechanism mechanism)

end SaslClient

end BrokerSession
