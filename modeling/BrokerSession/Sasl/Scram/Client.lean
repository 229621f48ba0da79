import BrokerSession.Sasl.Mechanism
import BrokerSession.Sasl.Scram.Exchange

namespace BrokerSession

/-!
# The SCRAM mechanisms

A client sends its first message, answers the server's first message with a
proof, and is complete once the server's final message carries the signature
that only a holder of the password can make.  Every refusal before that is
final.
-/

/-- How far a SCRAM exchange has come. -/
inductive ScramPhase where
  | sendClientFirst
  | receiveServerFirst (clientFirstBare : List Char)
  | receiveServerFinal (expectedSignature : Bytes)
  | complete
  | failed
  deriving Repr, DecidableEq

structure ScramClient where
  suite : Scram.Suite
  username : String
  password : String
  nonce : String
  phase : ScramPhase := .sendClientFirst

namespace ScramClient

/--
Answer the server's first message.

The result is the client's final message and the signature to expect.
-/
def answerServerFirst
    (client : ScramClient) (clientFirstBare serverFirst : List Char) :
    Except MechanismError (Bytes × Bytes) := do
  let first ←
    Scram.ServerFirst.ofMessage client.suite client.nonce.toList serverFirst
  let salted := client.suite.saltedPassword
    (Bytes.ofString client.password) first.salt first.iterations
  let bare := Scram.clientFinalBare first.nonce
  let transcript : Scram.Transcript :=
    { clientFirstBare, serverFirst, clientFinalBare := bare }
  let message :=
    Scram.clientFinal bare (client.suite.proof salted transcript)
  return (Scram.utf8 message, client.suite.serverSignature salted transcript)

/-- Answer a challenge in a phase; the result names the next phase. -/
def answer (client : ScramClient) (challenge : Bytes) :
    Except MechanismError (Option Bytes × ScramPhase) := do
  match client.phase with
  | .sendClientFirst =>
      unless challenge.isEmpty do
        throw (.invalidChallenge .prematureChallenge)
      let bare := Scram.clientFirstBare client.username client.nonce
      return (some (Scram.utf8 (Scram.header ++ bare)), .receiveServerFirst bare)
  | .receiveServerFirst clientFirstBare =>
      let some serverFirst := Bytes.toString? challenge
        | throw (.invalidChallenge .serverFirstNotText)
      let (message, expected) ←
        client.answerServerFirst clientFirstBare serverFirst.toList
      return (some message, .receiveServerFinal expected)
  | .receiveServerFinal expected =>
      let some serverFinal := Bytes.toString? challenge
        | throw (.invalidChallenge .serverFinalNotText)
      Scram.verifyServerFinal expected serverFinal.toList
      return (none, .complete)
  | .complete => throw .alreadyComplete
  | .failed => throw (.invalidChallenge .alreadyFailed)

/-- Answer a challenge and move on; a refusal fails an unfinished exchange. -/
def evaluate (client : ScramClient) (challenge : Bytes) :
    Except MechanismError (Option Bytes) × ScramClient :=
  match client.answer challenge with
  | .ok (token, phase) => (.ok token, { client with phase := phase })
  | .error refusal =>
      (.error refusal,
        if client.phase = .complete then client
        else { client with phase := .failed })

instance : Mechanism ScramClient where
  name client := client.suite.name
  hasInitialResponse _ := true
  evaluate := evaluate
  isComplete client := client.phase = .complete
  dispose client := { client with password := "" }

end ScramClient

end BrokerSession
