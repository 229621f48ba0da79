import BrokerSession.Proofs.Sasl.Scram
import BrokerSession.Sasl.Client

namespace BrokerSession.SaslClient

/-!
# Progress of a mechanism

A fresh client answers the empty challenge with a token.  From then on it is
complete exactly when it has nothing more to send, until it refuses something.
-/

/-- Whether nothing has been evaluated yet. -/
def IsFresh : SaslClient → Prop
  | .plain client => client.completed = false
  | .scram client => client.phase = .sendClientFirst

/-- Whether the first token was produced and nothing was refused since. -/
def HasBegun : SaslClient → Prop
  | .plain client => client.completed = true
  | .scram client =>
      client.phase ≠ .sendClientFirst ∧ client.phase ≠ .failed

theorem not_isFresh_of_hasBegun {client : SaslClient}
    (begun : client.HasBegun) : ¬ client.IsFresh := by
  intro fresh
  cases client with
  | plain client =>
      cases (fresh : client.completed = false).symm.trans begun
  | scram client =>
      exact begun.1 fresh

/-- A client starts out fresh, whatever its subject and its nonce. -/
theorem isFresh_of_create {mechanism : String} {subject : Subject}
    {entropy : Bytes} {client : SaslClient}
    (created : create mechanism subject entropy = .ok client) :
    client.IsFresh := by
  rw [create] at created
  dsimp only at created
  split at created
  · obtain ⟨credential, -, returned⟩ := except_bind_eq_ok_iff.mp created
    cases returned
    rfl
  · split at created
    · obtain ⟨credential, -, returned⟩ := except_bind_eq_ok_iff.mp created
      cases returned
      rfl
    · cases created

theorem not_isComplete_of_isFresh {client : SaslClient}
    (fresh : client.IsFresh) : Mechanism.isComplete client = false := by
  cases client with
  | plain client =>
      exact fresh
  | scram client =>
      have phase : client.phase = .sendClientFirst := fresh
      simp [Mechanism.isComplete, phase]

/-- Both mechanisms speak first. -/
theorem hasInitialResponse (client : SaslClient) :
    Mechanism.hasInitialResponse client = true := by
  cases client <;> rfl

/-- Forgetting the secrets does not change whether a client is complete. -/
theorem isComplete_dispose (client : SaslClient) :
    Mechanism.isComplete (Mechanism.dispose client) =
      Mechanism.isComplete client := by
  cases client <;> rfl

/-- A SCRAM client is evaluated as itself. -/
theorem evaluate_scram (client : ScramClient) (challenge : Bytes) :
    Mechanism.evaluate (SaslClient.scram client) challenge =
      ((client.evaluate challenge).1,
        SaslClient.scram (client.evaluate challenge).2) :=
  rfl

/-- A fresh client has a first token to send. -/
theorem evaluate_of_isFresh {client : SaslClient} (fresh : client.IsFresh) :
    ∃ token next,
      Mechanism.evaluate client [] = (.ok (some token), next) ∧
        next.HasBegun := by
  cases client with
  | plain client =>
      have notCompleted : client.completed = false := fresh
      refine ⟨client.token, .plain { client with completed := true }, ?_, rfl⟩
      simp [Mechanism.evaluate, notCompleted]
  | scram client =>
      have phase : client.phase = .sendClientFirst := fresh
      let bare := Scram.clientFirstBare client.username client.nonce
      have opened :
          client.evaluate [] =
            (.ok (some (Scram.utf8 (Scram.header ++ bare))),
              { client with phase := .receiveServerFirst bare }) :=
        ScramClient.evaluate_eq_ok_iff.mpr
          ⟨_, phase ▸ ScramClient.Accepts.opening, rfl⟩
      refine ⟨Scram.utf8 (Scram.header ++ bare),
        .scram { client with phase := .receiveServerFirst bare }, ?_, ?_⟩
      · rw [evaluate_scram, opened]
      · exact ⟨ScramPhase.noConfusion, ScramPhase.noConfusion⟩

/-- A client that goes on is complete exactly if it has nothing to send. -/
theorem hasBegun_of_evaluate {client next : SaslClient} {challenge : Bytes}
    {token : Option Bytes} (begun : client.HasBegun)
    (incomplete : Mechanism.isComplete client = false)
    (evaluated :
      Mechanism.evaluate client challenge = (.ok token, next)) :
    next.HasBegun ∧ Mechanism.isComplete next = token.isNone := by
  cases client with
  | plain client =>
      have completed : client.completed = true := begun
      rw [show Mechanism.isComplete (SaslClient.plain client) =
        client.completed from rfl, completed] at incomplete
      cases incomplete
  | scram client =>
      rw [evaluate_scram] at evaluated
      obtain ⟨outcome, rfl⟩ := Prod.mk.inj evaluated
      rcases moved : client.evaluate challenge with ⟨answer, after⟩
      rw [moved] at outcome
      cases outcome
      obtain ⟨phase, accepts, rfl⟩ := ScramClient.evaluate_eq_ok_iff.mp moved
      obtain ⟨notFresh, notFailed⟩ := begun
      generalize client.phase = current at accepts notFresh
      cases accepts with
      | opening =>
          exact (notFresh rfl).elim
      | proving isText proved =>
          exact ⟨⟨ScramPhase.noConfusion, ScramPhase.noConfusion⟩, rfl⟩
      | confirming isText verified =>
          exact ⟨⟨ScramPhase.noConfusion, ScramPhase.noConfusion⟩, rfl⟩

end BrokerSession.SaslClient
