import BrokerSession.Proofs.Session.Dispatch
import BrokerSession.Proofs.Session.Envelope
import BrokerSession.Proofs.Session.Runs

namespace BrokerSession.Session

/-!
# What success rests on

A session is complete only after everything it had to say was accepted and
everything it had asked was answered without an error, however the run got
there.  With SCRAM the server has also signed the messages of this very
exchange.
-/

open Journal

/-- At its end an exchange has sent everything and waits for no response. -/
theorem exists_dispatched_of_isFinal {exchange : Exchange} {point : Point}
    {journal : List Event} (script : Script exchange point journal)
    (final : IsFinal point.activity) :
    (answers journal).map Prod.fst = requests journal ∧
      (∀ answer ∈ answers journal, Script.Succeeds answer) ∧
      ∃ sent,
        Dispatched exchange.config point.terms journal sent ∧
          sent.map Prod.fst =
            openingTasks exchange.config ++ (tokens journal).map .token := by
  have paired := script.requests_eq
  have succeeded := script.answersFit
  obtain ⟨sent, dispatched, plan⟩ := script.exists_dispatched
  generalize point.activity = activity at final paired succeeded plan
  cases final with
  | silent | challenged _ | awaiting _ =>
      refine ⟨?_, succeeded, sent, dispatched, ?_⟩
      · simpa [Activity.header?] using paired.symm
      · simpa [Script.IsPlan, Activity.task?, Activity.ready?] using plan

/-- What a complete session has sent, and what the server has confirmed. -/
structure Confirmed (first final : Session SaslClient)
    (taken arriving : Bytes) : Prop where
  /-- Every frame was accepted to its last byte. -/
  accepted :
    taken ++ final.transport.outbound =
      first.transport.outbound ++ (frames final.journal).flatten
  nothingUnsent : final.outgoing = none
  /-- There is a frame for each opening request and for each token. -/
  dispatched :
    ∃ sent,
      Dispatched first.config final.terms final.journal sent ∧
        sent.map Prod.fst =
          openingTasks first.config ++ (tokens final.journal).map .token
  complete : Mechanism.isComplete final.client = true
  produced : tokens final.journal ≠ []
  /-- What was taken are frames that have arrived. -/
  received :
    ((payloads final.journal).map FrameCodec.frame).flatten <+:
      first.transport.inbound ++ arriving
  /-- Each request has one answer, and there are no others. -/
  paired : (answers final.journal).map Prod.fst = requests final.journal
  numbered :
    (requests final.journal).map RequestHeader.correlationId =
      (List.range (requests final.journal).length).map Script.idAt
  apis :
    (answers final.journal).map (·.2.api) =
      (if first.config.handshakeRequestEnable then
          [.apiVersions, .saslHandshake]
        else []) ++
        List.replicate
          (if final.authenticateVersion.isSome then
            (tokens final.journal).length
          else 0)
          .saslAuthenticate
  /-- An answer was read once its request was flushed, and reports success. -/
  answered :
    ∀ header response, (header, response) ∈ answers final.journal →
      ∃ earlier frame body later,
        final.journal =
            earlier ++ .framed (some header) frame :: .flushed ::
              .taken
                (ResponseHeader.encode
                  { correlationId := header.correlationId } ++ body) ::
              .decoded header response :: later ∧
          Response.parse header.api header.version body = .ok response ∧
          response.api = header.api ∧ response.error = .none
  /-- The mechanism was asked about nothing but what the server had sent. -/
  brought :
    ∀ before challenge outcome after,
      final.journal = before ++ .evaluated challenge outcome :: after →
        Script.IsBrought before challenge
  /-- A SCRAM client has verified the signature owed for its exchange. -/
  signed :
    ∀ client, first.client = .scram client →
      Nonempty (client.Confirmation (evaluations final.journal))

/-- Success rests on the server's confirmation, whatever led to it. -/
theorem confirmed_of_complete (config : Config) (node host : String)
    (subject : Subject) (transport : Transport) {client : SaslClient}
    (fresh : client.IsFresh) (operations : List Operation)
    (complete :
      ((start config node host subject transport client).run
          operations).stage =
        .complete) :
    let session := start config node host subject transport client
    Confirmed session (session.run operations)
      (session.takenAway operations)
      (operations.flatMap Operation.arriving) := by
  intro session
  have sound :=
    (sound_start config node host subject transport fresh).run operations
  have finished := sound.finished complete
  obtain ⟨point, script, terms, pointComplete, final⟩ := finished.script
  obtain ⟨held, conserves⟩ := finished.conserves
  obtain ⟨paired, succeeded, sent, dispatched, tasks⟩ :=
    exists_dispatched_of_isFinal script final
  have version :
      (session.run operations).authenticateVersion =
        point.terms.authenticateVersion :=
    congrArg Terms.authenticateVersion terms
  have apis := dispatched.apis_eq
  rw [tasks, apis_of_plan, ← paired, List.map_map] at apis
  constructor
  case accepted =>
    have sentAll := conserves.sent
    rw [List.append_nil] at sentAll
    exact sentAll
  case nothingUnsent =>
    exact finished.outgoing
  case dispatched =>
    refine ⟨sent, ?_, tasks⟩
    rw [terms]
    exact dispatched
  case complete =>
    exact finished.complete
  case produced =>
    rcases script.tokens_ne_nil_or_isOpening fresh with
      someToken | ⟨-, untouched, -⟩
    · exact someToken
    · rw [untouched] at pointComplete
      have incomplete := SaslClient.not_isComplete_of_isFresh fresh
      cases incomplete.symm.trans pointComplete
  case received =>
    have received := conserves.received
    rw [List.append_assoc] at received
    exact ⟨_, received.symm⟩
  case paired =>
    exact paired
  case numbered =>
    exact script.correlationIds_eq.1
  case apis =>
    rw [version]
    refine Eq.trans ?_ apis
    exact List.map_congr_left fun answer member => (succeeded answer member).1
  case answered =>
    intro header response member
    obtain ⟨sameApi, noError⟩ := succeeded _ member
    obtain ⟨earlier, frame, payload, later, shape, decoded⟩ :=
      script.isAnswer_of_mem_answers member
    obtain ⟨body, rfl, parsed⟩ := Response.ofPayload_eq_ok_iff.mp decoded
    exact ⟨earlier, frame, body, later, shape, parsed, sameApi, noError⟩
  case brought =>
    exact script.isBrought_before_evaluated fresh
  case signed =>
    intro scram isScram
    rcases script.course isScram fresh with refused | ⟨phase, same, course⟩
    · rw [refused] at final
      cases final
    · rw [same] at pointComplete
      have isLast : phase = .complete := of_decide_eq_true pointComplete
      rw [isLast] at course
      exact ScramClient.confirmation_of_course course

/-- A session that the server lets through, over a transport that stalls. -/
theorem confirmed_of_complete_plain :
    let client : SaslClient :=
      .plain
        { authorizationId := none, username := "user", password := "secret" }
    let transport : Transport := { writeBudget := some 3 }
    let versions : Bytes :=
      [0, 0, 0, 22, 255, 255, 255, 255, 0, 0, 0, 0, 0, 2, 0, 17, 0, 0, 0, 0, 0,
        36, 0, 0, 0, 0]
    let handshake : Bytes :=
      [0, 0, 0, 17, 0, 0, 0, 0, 0, 0, 0, 0, 0, 1, 0, 5, 80, 76, 65, 73, 78]
    let admission : Bytes := [0, 0, 0, 12, 0, 0, 0, 1, 0, 0, 255, 255, 0, 0, 0, 0]
    let session := start {} "broker:9092" "broker" {} transport client
    let operations : List Operation :=
      [.authenticate, .transport .take, .transport (.writeBudget none),
        .authenticate, .transport (.push (versions ++ handshake)),
        .authenticate, .authenticate, .transport (.push admission),
        .authenticate]
    client.IsFresh ∧ (session.run operations).stage = .complete ∧
      Confirmed session (session.run operations)
        (session.takenAway operations)
        (operations.flatMap Operation.arriving) := by
  intro client transport versions handshake admission session operations
  have fresh : client.IsFresh := rfl
  have complete : (session.run operations).stage = .complete := by
    decide +kernel
  have confirmed :=
    confirmed_of_complete {} "broker:9092" "broker" {} transport fresh
      operations complete
  exact ⟨fresh, complete, confirmed⟩

end BrokerSession.Session
