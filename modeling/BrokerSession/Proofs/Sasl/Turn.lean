import BrokerSession.Proofs.Sasl.Progress

namespace BrokerSession

/-!
# Mechanisms that are asked in turn

A client complains that it is not its turn if it is asked before its first
message, after it was complete or after it has failed.  A client that has begun
and is not complete refuses a challenge only for what the challenge says.
-/

/-- Whether a client was asked when it had nothing to answer. -/
def MechanismError.IsOutOfTurn : MechanismError → Prop
  | .alreadyComplete => True
  | .invalidChallenge .alreadyFailed => True
  | .invalidChallenge .prematureChallenge => True
  | _ => False

/-- Whether a failure is about the content of a challenge. -/
def MechanismError.IsInTurn (cause : MechanismError) : Prop :=
  ¬ cause.IsOutOfTurn

namespace Scram

/-- A part is refused for its content. -/
theorem failsOnly_parsePart (part : List Char) :
    FailsOnly MechanismError.IsInTurn (parsePart part) := by
  unfold parsePart
  split
  · split
    · exact failsOnly_error id
    · exact failsOnly_ok _
  · exact failsOnly_error id

/-- A list of attributes is refused for its content. -/
theorem failsOnly_attributes (message : List Char) :
    FailsOnly MechanismError.IsInTurn (attributes message) :=
  .mapM failsOnly_parsePart _

/-- A missing attribute is a fault of the content. -/
theorem failsOnly_find (listed : List Attribute) (key : Char) :
    FailsOnly MechanismError.IsInTurn (find listed key) := by
  unfold find
  split
  · exact failsOnly_ok _
  · exact failsOnly_error id

/-- The server's first message is refused for its content. -/
theorem failsOnly_ofMessage (suite : Suite) (clientNonce message : List Char) :
    FailsOnly MechanismError.IsInTurn
      (ServerFirst.ofMessage suite clientNonce message) := by
  apply (failsOnly_attributes message).bind
  intro listed
  split
  · exact failsOnly_error id
  · apply (failsOnly_find listed 'r').bind
    intro nonce
    split
    · apply (failsOnly_find listed 's').bind
      intro saltText
      split
      · apply (failsOnly_find listed 'i').bind
        intro countText
        split
        · split
          · exact failsOnly_error id
          · exact failsOnly_ok _
        · exact failsOnly_error id
      · exact failsOnly_error id
    · exact failsOnly_error id

/-- The server's final message is refused for its content. -/
theorem failsOnly_verifyServerFinal (expected : Bytes) (message : List Char) :
    FailsOnly MechanismError.IsInTurn (verifyServerFinal expected message) := by
  apply (failsOnly_attributes message).bind
  intro listed
  split
  · exact failsOnly_error id
  · apply (failsOnly_find listed 'v').bind
    intro signatureText
    split
    · split
      · exact failsOnly_ok _
      · exact failsOnly_error id
    · exact failsOnly_error id

end Scram

/-- In the middle of an exchange a client fails for the challenge's sake. -/
theorem ScramClient.failsOnly_answer {client : ScramClient} (challenge : Bytes)
    (opened : client.phase ≠ .sendClientFirst)
    (incomplete : client.phase ≠ .complete)
    (unfailed : client.phase ≠ .failed) :
    FailsOnly MechanismError.IsInTurn (client.answer challenge) := by
  unfold answer
  cases phase : client.phase with
  | sendClientFirst =>
      exact (opened phase).elim
  | complete =>
      exact (incomplete phase).elim
  | failed =>
      exact (unfailed phase).elim
  | receiveServerFirst bare =>
      dsimp only
      split
      · refine FailsOnly.bind ?_ fun _ => failsOnly_ok _
        exact (Scram.failsOnly_ofMessage _ _ _).bind fun _ => failsOnly_ok _
      · exact failsOnly_error id
  | receiveServerFinal expected =>
      dsimp only
      split
      · exact (Scram.failsOnly_verifyServerFinal _ _).bind fun _ =>
          failsOnly_ok _
      · exact failsOnly_error id

namespace SaslClient

/-- A client that has begun and is not complete is asked in turn. -/
theorem isInTurn_of_evaluate {client next : SaslClient} {challenge : Bytes}
    {cause : MechanismError} (begun : client.HasBegun)
    (incomplete : Mechanism.isComplete client = false)
    (evaluated :
      Mechanism.evaluate client challenge = (.error cause, next)) :
    cause.IsInTurn := by
  cases client with
  | plain client =>
      have completed : client.completed = true := begun
      cases incomplete.symm.trans completed
  | scram client =>
      rw [evaluate_scram] at evaluated
      obtain ⟨failed, -⟩ := Prod.mk.inj evaluated
      have unfinished : client.phase ≠ .complete := of_decide_eq_false incomplete
      unfold ScramClient.evaluate at failed
      cases answered : client.answer challenge with
      | ok answer =>
          rw [answered] at failed
          cases failed
      | error refusal =>
          rw [answered] at failed
          cases failed
          exact ScramClient.failsOnly_answer challenge begun.1 unfinished
            begun.2 _ answered

/-- A SCRAM client is complete exactly if it has nothing more to send. -/
theorem isComplete_of_evaluate_scram {client : ScramClient}
    {next : SaslClient} {challenge : Bytes} {token : Option Bytes}
    (evaluated :
      Mechanism.evaluate (SaslClient.scram client) challenge =
        (.ok token, next)) :
    Mechanism.isComplete next = token.isNone := by
  rw [evaluate_scram] at evaluated
  obtain ⟨outcome, rfl⟩ := Prod.mk.inj evaluated
  rcases moved : client.evaluate challenge with ⟨answer, after⟩
  rw [moved] at outcome
  cases outcome
  obtain ⟨phase, accepts, rfl⟩ := ScramClient.evaluate_eq_ok_iff.mp moved
  generalize client.phase = current at accepts
  cases accepts <;> rfl

end SaslClient

end BrokerSession
