namespace BrokerSession

/-!
# Mechanism failures

What can go wrong while a mechanism produces a token or checks the server's.
The reasons for refusing a server message are told apart, and their texts are
given by `message`.
-/

/-- Why a server message was refused. -/
inductive ChallengeDefect where
  /-- A part of the message is not one letter, an equals sign and a value. -/
  | malformedAttribute (part : String)
  | missingAttribute (key : Char)
  | mandatoryExtension (extension : String)
  | invalidSalt
  | invalidSignature
  /-- The iteration count is not a 32-bit number. -/
  | invalidIterationCount
  /-- A challenge came before the client's first message. -/
  | prematureChallenge
  | serverFirstNotText
  | serverFinalNotText
  | alreadyFailed
  /-- A script asked for the refusal. -/
  | scripted
  deriving Repr, DecidableEq

namespace ChallengeDefect

def message : ChallengeDefect → String
  | .malformedAttribute part => s!"malformed attribute '{part}'"
  | .missingAttribute key => s!"missing attribute '{key}'"
  | .mandatoryExtension extension =>
      s!"unsupported mandatory extension '{extension}'"
  | .invalidSalt => "invalid salt: <base64>"
  | .invalidSignature => "invalid signature: <base64>"
  | .invalidIterationCount => "invalid iteration count"
  | .prematureChallenge =>
      "unexpected challenge before client-first message"
  | .serverFirstNotText => "server-first is not UTF-8"
  | .serverFinalNotText => "server-final is not UTF-8"
  | .alreadyFailed => "exchange already failed"
  | .scripted => "scripted"

end ChallengeDefect

/-- Why a mechanism could not go on. -/
inductive MechanismError where
  | invalidChallenge (defect : ChallengeDefect)
  | nonceMismatch
  | tooFewIterations (iterations minimum : UInt32)
  | serverSignatureMismatch
  | serverError (reason : String)
  | missingCredentials (mechanism : String)
  | unsupportedMechanism (mechanism : String)
  | alreadyComplete
  | noPrincipal
  deriving Repr, DecidableEq

namespace MechanismError

def kind : MechanismError → String
  | .invalidChallenge _ => "InvalidChallenge"
  | .nonceMismatch => "NonceMismatch"
  | .tooFewIterations .. => "TooFewIterations"
  | .serverSignatureMismatch => "ServerSignatureMismatch"
  | .serverError _ => "ServerError"
  | .missingCredentials _ => "MissingCredentials"
  | .unsupportedMechanism _ => "UnsupportedMechanism"
  | .alreadyComplete => "AlreadyComplete"
  | .noPrincipal => "NoPrincipal"

def message : MechanismError → String
  | .invalidChallenge defect => s!"Invalid server challenge: {defect.message}"
  | .nonceMismatch => "Server nonce does not extend the client nonce"
  | .tooFewIterations iterations minimum =>
      s!"Requested iteration count {iterations.toNat} is below the minimum {minimum.toNat}"
  | .serverSignatureMismatch => "Server signature did not match"
  | .serverError reason => s!"Server reported error: {reason}"
  | .missingCredentials mechanism =>
      s!"No credentials available for mechanism {mechanism}"
  | .unsupportedMechanism mechanism =>
      s!"Unsupported SASL mechanism {mechanism}"
  | .alreadyComplete => "Authentication already completed"
  | .noPrincipal => "Principal could not be determined from the subject"

end MechanismError

end BrokerSession
