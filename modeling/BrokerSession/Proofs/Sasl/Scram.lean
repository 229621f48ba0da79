import BrokerSession.Proofs.Bytes
import BrokerSession.Proofs.Computation
import BrokerSession.Sasl.Scram.Client

namespace BrokerSession

/-!
# The course of a SCRAM exchange

A client that accepts a challenge does so in one of three ways, one for each
phase it can be in.  An exchange that is complete has therefore been through
all three, and the last one was the server's signature of the messages that
this exchange itself has sent and received.
-/

namespace ScramClient

/-- How a client accepts a challenge: its phase, the token and the next phase. -/
inductive Accepts (client : ScramClient) :
    ScramPhase → Bytes → Option Bytes → ScramPhase → Prop where
  | opening :
      Accepts client .sendClientFirst []
        (some (Scram.utf8 (Scram.header ++
          Scram.clientFirstBare client.username client.nonce)))
        (.receiveServerFirst
          (Scram.clientFirstBare client.username client.nonce))
  | proving {bare : List Char} {challenge message expected : Bytes}
      {serverFirst : String}
      (isText : Bytes.toString? challenge = some serverFirst)
      (proved :
        client.answerServerFirst bare serverFirst.toList =
          .ok (message, expected)) :
      Accepts client (.receiveServerFirst bare) challenge (some message)
        (.receiveServerFinal expected)
  | confirming {expected challenge : Bytes} {serverFinal : String}
      (isText : Bytes.toString? challenge = some serverFinal)
      (verified :
        Scram.verifyServerFinal expected serverFinal.toList = .ok ()) :
      Accepts client (.receiveServerFinal expected) challenge none .complete

/-- A challenge is answered exactly if the phase of the client accepts it. -/
theorem answer_eq_ok_iff {client : ScramClient} {challenge : Bytes}
    {token : Option Bytes} {next : ScramPhase} :
    client.answer challenge = .ok (token, next) ↔
      client.Accepts client.phase challenge token next := by
  unfold answer
  cases client.phase with
  | sendClientFirst =>
      cases challenge with
      | nil =>
          constructor
          · intro answered
            cases answered
            exact .opening
          · intro accepts
            cases accepts
            rfl
      | cons byte rest =>
          constructor
          · intro answered
            cases answered
          · intro accepts
            cases accepts
  | receiveServerFirst bare =>
      cases isText : Bytes.toString? challenge with
      | none =>
          constructor
          · intro answered
            cases answered
          · intro accepts
            cases accepts with
            | proving isOther _ =>
                cases isText.symm.trans isOther
      | some serverFirst =>
          constructor
          · intro answered
            obtain ⟨⟨message, expected⟩, proved, returned⟩ :=
              except_bind_eq_ok_iff.mp answered
            cases returned
            exact .proving isText proved
          · intro accepts
            cases accepts with
            | proving isOther proved =>
                cases isText.symm.trans isOther
                exact except_bind_eq_ok_iff.mpr ⟨_, proved, rfl⟩
  | receiveServerFinal expected =>
      cases isText : Bytes.toString? challenge with
      | none =>
          constructor
          · intro answered
            cases answered
          · intro accepts
            cases accepts with
            | confirming isOther _ =>
                cases isText.symm.trans isOther
      | some serverFinal =>
          constructor
          · intro answered
            obtain ⟨⟨⟩, verified, returned⟩ :=
              except_bind_eq_ok_iff.mp answered
            cases returned
            exact .confirming isText verified
          · intro accepts
            cases accepts with
            | confirming isOther verified =>
                cases isText.symm.trans isOther
                exact except_bind_eq_ok_iff.mpr ⟨_, verified, rfl⟩
  | complete =>
      constructor
      · intro answered
        cases answered
      · intro accepts
        cases accepts
  | failed =>
      constructor
      · intro answered
        cases answered
      · intro accepts
        cases accepts

/-- An accepted challenge moves the client on and changes nothing else. -/
theorem evaluate_eq_ok_iff {client next : ScramClient} {challenge : Bytes}
    {token : Option Bytes} :
    client.evaluate challenge = (.ok token, next) ↔
      ∃ phase,
        client.Accepts client.phase challenge token phase ∧
          next = { client with phase := phase } := by
  unfold evaluate
  cases answered : client.answer challenge with
  | error refusal =>
      constructor
      · intro evaluated
        cases (Prod.mk.inj evaluated).1
      · rintro ⟨phase, accepts, -⟩
        cases answered.symm.trans (answer_eq_ok_iff.mpr accepts)
  | ok answer =>
      rcases answer with ⟨answerToken, phase⟩
      constructor
      · intro evaluated
        cases evaluated
        exact ⟨phase, answer_eq_ok_iff.mp answered, rfl⟩
      · rintro ⟨otherPhase, accepts, rfl⟩
        cases answered.symm.trans (answer_eq_ok_iff.mpr accepts)
        rfl

/-- The signature that a server owes for the messages of an exchange. -/
def OwedSignature (client : ScramClient) (bare serverFirst : List Char)
    (signature : Bytes) : Prop :=
  ∃ first : Scram.ServerFirst,
    Scram.ServerFirst.ofMessage client.suite client.nonce.toList serverFirst =
        .ok first ∧
      signature =
        client.suite.serverSignature
          (client.suite.saltedPassword (Bytes.ofString client.password)
            first.salt first.iterations)
          { clientFirstBare := bare
            serverFirst := serverFirst
            clientFinalBare := Scram.clientFinalBare first.nonce }

/-- A client expects the signature that is owed for its messages. -/
theorem owedSignature_of_answerServerFirst {client : ScramClient}
    {bare serverFirst : List Char} {message expected : Bytes}
    (answered :
      client.answerServerFirst bare serverFirst = .ok (message, expected)) :
    client.OwedSignature bare serverFirst expected := by
  obtain ⟨first, accepted, returned⟩ := except_bind_eq_ok_iff.mp answered
  cases returned
  exact ⟨first, accepted, rfl⟩

end ScramClient

namespace Scram

/-- A key that has to be there is found as its first value. -/
theorem find_eq_ok_iff {listed : List Attribute} {key : Char}
    {value : List Char} :
    find listed key = .ok value ↔ find? listed key = some value := by
  rw [find]
  cases find? listed key <;> simp

/-- A final message is accepted for the signature in its first `v` alone. -/
theorem verifyServerFinal_eq_ok_iff {expected : Bytes} {message : List Char} :
    verifyServerFinal expected message = .ok () ↔
      ∃ listed value,
        attributes message = .ok listed ∧ find? listed 'e' = none ∧
          find? listed 'v' = some value ∧
          Text.base64Decode? value = some expected := by
  rw [verifyServerFinal, except_bind_eq_ok_iff]
  constructor
  · rintro ⟨listed, parsed, verified⟩
    cases noError : find? listed 'e' with
    | some reason =>
        simp only [noError] at verified
        cases verified
    | none =>
        simp only [noError] at verified
        obtain ⟨value, isFirst, matched⟩ := except_bind_eq_ok_iff.mp verified
        cases decoded : Text.base64Decode? value with
        | none =>
            simp only [decoded] at matched
            cases matched
        | some signature =>
            simp only [decoded] at matched
            split at matched
            · next same =>
                subst same
                exact ⟨listed, value, parsed, noError,
                  find_eq_ok_iff.mp isFirst, decoded⟩
            · cases matched
  · rintro ⟨listed, value, parsed, noError, isFirst, decoded⟩
    refine ⟨listed, parsed, ?_⟩
    simp only [noError]
    refine except_bind_eq_ok_iff.mpr
      ⟨value, find_eq_ok_iff.mpr isFirst, ?_⟩
    simp only [decoded]
    rw [if_pos trivial]
    rfl

end Scram

namespace ScramClient

/-! ## Whole exchanges -/

/-- A challenge with the outcome of its evaluation. -/
abbrev Evaluation := Bytes × Except MechanismError (Option Bytes)

/-- The challenges that a fresh client accepted to reach a phase. -/
inductive Course (client : ScramClient) :
    ScramPhase → List Evaluation → Prop where
  | start : Course client .sendClientFirst []
  | accept {phase next : ScramPhase} {evaluations : List Evaluation}
      {challenge : Bytes} {token : Option Bytes}
      (course : Course client phase evaluations)
      (accepts : client.Accepts phase challenge token next) :
      Course client next (evaluations ++ [(challenge, .ok token)])

/-- The phase does not matter to how a challenge is accepted in another one. -/
theorem accepts_phase_iff {client : ScramClient}
    {phase current next : ScramPhase} {challenge : Bytes}
    {token : Option Bytes} :
    Accepts { client with phase := current } phase challenge token next ↔
      client.Accepts phase challenge token next := by
  constructor
  · intro accepts
    cases accepts with
    | opening =>
        exact .opening
    | proving isText proved =>
        exact .proving isText proved
    | confirming isText verified =>
        exact .confirming isText verified
  · intro accepts
    cases accepts with
    | opening =>
        exact .opening
    | proving isText proved =>
        exact .proving isText proved
    | confirming isText verified =>
        exact .confirming isText verified

/-- The evaluations of an exchange that the server has confirmed. -/
structure Confirmation (client : ScramClient)
    (evaluations : List Evaluation) where
  serverFirst : String
  serverFinal : String
  /-- The client's final message on the wire. -/
  clientFinal : Bytes
  signature : Bytes
  attributes : List Scram.Attribute
  /-- The first value of `v` in the server's final message. -/
  verifier : List Char
  evaluated :
    evaluations =
      [([], .ok (some (Scram.utf8 (Scram.header ++
          Scram.clientFirstBare client.username client.nonce)))),
        (Bytes.ofString serverFirst, .ok (some clientFinal)),
        (Bytes.ofString serverFinal, .ok none)]
  parsed : Scram.attributes serverFinal.toList = .ok attributes
  isFirst : Scram.find? attributes 'v' = some verifier
  decoded : Text.base64Decode? verifier = some signature
  owed :
    client.OwedSignature (Scram.clientFirstBare client.username client.nonce)
      serverFirst.toList signature

/-- An exchange that expects a signature has sent and received two messages. -/
theorem evaluated_of_course {client : ScramClient} {expected : Bytes}
    {evaluations : List Evaluation}
    (course : client.Course (.receiveServerFinal expected) evaluations) :
    ∃ (serverFirst : String) (clientFinal : Bytes),
      evaluations =
          [([], .ok (some (Scram.utf8 (Scram.header ++
              Scram.clientFirstBare client.username client.nonce)))),
            (Bytes.ofString serverFirst, .ok (some clientFinal))] ∧
        client.OwedSignature
          (Scram.clientFirstBare client.username client.nonce)
          serverFirst.toList expected := by
  cases course with
  | accept beforeProof acceptsProof =>
      cases acceptsProof with
      | @proving _ challenge message _ serverFirst isText proved =>
          cases beforeProof with
          | accept beforeOpening acceptsOpening =>
              cases acceptsOpening with
              | opening =>
                  cases beforeOpening with
                  | start =>
                      refine ⟨serverFirst, message, ?_,
                        owedSignature_of_answerServerFirst proved⟩
                      rw [Bytes.ofString_of_toString? isText]
                      rfl
                  | accept _ accepts =>
                      cases accepts

/-- A complete exchange was confirmed by the server. -/
theorem confirmation_of_course {client : ScramClient}
    {evaluations : List Evaluation}
    (course : client.Course .complete evaluations) :
    Nonempty (client.Confirmation evaluations) := by
  cases course with
  | accept beforeFinal acceptsFinal =>
      cases acceptsFinal with
      | @confirming expected challenge serverFinal isText verified =>
          obtain ⟨serverFirst, clientFinal, rfl, owed⟩ :=
            evaluated_of_course beforeFinal
          obtain ⟨attributes, verifier, parsed, -, isFirst, decoded⟩ :=
            Scram.verifyServerFinal_eq_ok_iff.mp verified
          refine ⟨⟨serverFirst, serverFinal, clientFinal, expected, attributes,
            verifier, ?_, parsed, isFirst, decoded, owed⟩⟩
          rw [Bytes.ofString_of_toString? isText]
          rfl

end ScramClient

end BrokerSession
