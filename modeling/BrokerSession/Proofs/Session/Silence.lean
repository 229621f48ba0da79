import BrokerSession.Proofs.Session.Standing
import BrokerSession.Sasl.Client

namespace BrokerSession.Session

/-!
# Sessions that are over

A session is over once it is complete or has failed, and also when it is closed
in the middle of a frame.  From then on its transport is left to its owner: no
operation writes, reads or counts anything for the session, and every call
gives the same answer.
-/

variable {Client : Type}

/-- What an operation does to a transport by itself. -/
def Operation.onTransport (transport : Transport) : Operation → Transport
  | .transport step => (transport.perform step).2
  | .authenticate | .close => transport

/-- The answer of every call once a session is over. -/
def lastAnswer (session : Session Client) : Except SessionError Unit :=
  if session.stage = .complete then .ok ()
  else .error (.handshakeTerminated session.node)

variable [Mechanism Client]

/--
A session that operations leave as it is.

Its transport is what the steps of its owner make of it, so that no byte is
written or taken for the session.
-/
structure KeepsSilent (session : Session Client)
    (operations : List Operation) : Prop where
  stage : (session.run operations).stage = session.stage
  transport :
    (session.run operations).transport =
      operations.foldl Operation.onTransport session.transport
  interest : (session.run operations).transport.writeInterest = false
  ledger : (session.run operations).ledger = session.ledger
  journal : (session.run operations).journal = session.journal
  principal : (session.run operations).principal? = session.principal?
  answer :
    (session.run operations).authenticate =
      (session.lastAnswer, session.run operations)

/-! ## Operations on a session that is over -/

variable {session : Session Client} {reported : Prop}

theorem HasStanding.authenticate_of_isTerminal
    (standing : session.HasStanding reported)
    (terminal : session.stage.isTerminal = true) :
    session.authenticate = (session.lastAnswer, session) := by
  cases standing with
  | going stage =>
      rw [stage] at terminal
      cases terminal
  | complete stage idle interest begun =>
      rw [authenticate_of_complete stage idle begun, lastAnswer, if_pos stage]
  | failed stage =>
      have notComplete : session.stage ≠ .complete := by
        rw [stage]
        exact nofun
      rw [lastAnswer, if_neg notComplete]
      exact if_pos stage

omit [Mechanism Client] in
theorem HasStanding.writeInterest_of_isTerminal
    (standing : session.HasStanding reported)
    (terminal : session.stage.isTerminal = true) :
    session.transport.writeInterest = false := by
  cases standing with
  | going stage =>
      rw [stage] at terminal
      cases terminal
  | complete _ _ interest | failed _ interest =>
      exact interest

/-- A session with a transport as it is, that may have released what it held. -/
def IsRemnant (session : Session Client) (transport : Transport)
    (later : Session Client) : Prop :=
  ∃ client incoming outgoing outstanding,
    later =
      { session with
        transport := transport
        client := client
        incoming := incoming
        outgoing := outgoing
        outstanding := outstanding }

/-- What an operation leaves of a session that is over. -/
theorem HasStanding.isRemnant_perform (standing : session.HasStanding reported)
    (terminal : session.stage.isTerminal = true) (operation : Operation) :
    session.IsRemnant (operation.onTransport session.transport)
      (session.perform operation).2 := by
  cases operation with
  | authenticate =>
      rw [Session.perform, standing.authenticate_of_isTerminal terminal]
      exact ⟨_, _, _, _, rfl⟩
  | close =>
      rw [Session.perform, close_of_isTerminal terminal]
      exact ⟨_, _, _, _, rfl⟩
  | transport step =>
      exact ⟨_, _, _, _, rfl⟩

theorem HasStanding.isRemnant_run (standing : session.HasStanding reported)
    (terminal : session.stage.isTerminal = true)
    (operations : List Operation) :
    session.IsRemnant
      (operations.foldl Operation.onTransport session.transport)
      (session.run operations) := by
  induction operations generalizing session reported with
  | nil =>
      exact ⟨_, _, _, _, rfl⟩
  | cons operation later inductionHypothesis =>
      obtain ⟨client, incoming, outgoing, outstanding, left⟩ :=
        standing.isRemnant_perform terminal operation
      have stillOver :
          (session.perform operation).2.stage.isTerminal = true := by
        rw [left]
        exact terminal
      obtain ⟨lastClient, lastIncoming, lastOutgoing, lastOutstanding, final⟩ :=
        inductionHypothesis (standing.perform operation) stillOver
      refine ⟨lastClient, lastIncoming, lastOutgoing, lastOutstanding, ?_⟩
      rw [show session.run (operation :: later) =
        (session.perform operation).2.run later from rfl, final, left]
      rfl

/-- No operation gets anything out of a session that is over. -/
theorem HasStanding.keepsSilent (standing : session.HasStanding reported)
    (terminal : session.stage.isTerminal = true)
    (operations : List Operation) : session.KeepsSilent operations := by
  have stood := standing.run operations
  obtain ⟨client, incoming, outgoing, outstanding, final⟩ :=
    standing.isRemnant_run terminal operations
  have stillOver : (session.run operations).stage.isTerminal = true := by
    rw [final]
    exact terminal
  constructor
  case stage | transport | ledger | journal =>
    rw [final]
  case principal =>
    rw [final]
    rfl
  case interest =>
    exact stood.writeInterest_of_isTerminal stillOver
  case answer =>
    have sameAnswer :
        (session.run operations).lastAnswer = session.lastAnswer := by
      rw [final]
      rfl
    rw [← sameAnswer]
    exact stood.authenticate_of_isTerminal stillOver

theorem isTerminal_close (session : Session Client) :
    session.close.stage.isTerminal = true := by
  by_cases terminal : session.stage.isTerminal = true
  · rw [close_of_isTerminal terminal]
    exact terminal
  · rw [close_of_not_isTerminal terminal]
    rfl

/-! ## Every state -/

/--
Once a session is over, or closed at any moment, it is silent.

With any mechanism, the transport is left to its owner for good, so that no
token is written that was computed after the secrets were released.
-/
theorem keepsSilent_of_isTerminal (config : Config) (node host : String)
    (subject : Subject) (transport : Transport) (client : Client)
    (earlier later : List Operation) :
    let session := (start config node host subject transport client).run earlier
    (session.stage.isTerminal = true → session.KeepsSilent later) ∧
      session.close.stage.isTerminal = true ∧
      session.close.KeepsSilent later := by
  intro session
  have standing :=
    hasStanding_run config node host subject transport client earlier
  exact ⟨fun terminal => standing.keepsSilent terminal later,
    session.isTerminal_close,
    standing.close.keepsSilent session.isTerminal_close later⟩

/--
A session that is closed after three bytes of its first frame.

The rest of the frame is not written when the transport would accept it.
-/
theorem keepsSilent_of_isTerminal_halfWritten :
    let client : SaslClient :=
      .plain
        { authorizationId := none, username := "user", password := "secret" }
    let transport : Transport := { writeBudget := some 3 }
    let session :=
      (start {} "broker:9092" "broker" {} transport client).run
        [.authenticate, .close]
    session.stage.isTerminal = true ∧
      session.transport.outbound = [0, 0, 0] ∧
      session.KeepsSilent [.transport (.writeBudget none), .authenticate] := by
  intro client transport session
  have terminal : session.stage.isTerminal = true := by decide +kernel
  have silent :=
    (keepsSilent_of_isTerminal {} "broker:9092" "broker" {} transport client
      [.authenticate, .close]
      [.transport (.writeBudget none), .authenticate]).1 terminal
  exact ⟨terminal, by decide +kernel, silent⟩

end BrokerSession.Session
