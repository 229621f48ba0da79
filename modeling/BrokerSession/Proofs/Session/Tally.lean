import BrokerSession.Proofs.Catalog.Histogram
import BrokerSession.Proofs.Sasl.Acceptance
import BrokerSession.Proofs.Session.Dispatch
import BrokerSession.Proofs.Session.Runs
import BrokerSession.Proofs.Session.Standing

namespace BrokerSession

/-!
# The tally of a session

The ledger of a session agrees with its journal: a request is counted when its
frame is made and a response when it is decoded, together with its error code.
An exchange has so few requests that no counter wraps, and at most one of them
waits for its response.
-/

open Journal

/-! ## Counters and journals -/

namespace Session

variable {Client : Type} {session later : Session Client}

/-- A session whose ledger follows its journal, up to the counters' size. -/
structure Tallies (session : Session Client) : Prop where
  sent :
    session.ledger.requestsSent =
      UInt64.ofNat (requests session.journal).length
  received :
    session.ledger.responsesReceived =
      UInt64.ofNat (answers session.journal).length
  errorCodes :
    session.ledger.errorCodes =
      Ledger.histogram
        ((answers session.journal).map (·.2.errorCounts))

/-- Whatever else changes is not counted here. -/
theorem Tallies.ofSame (tallies : session.Tallies)
    (sent : later.ledger.requestsSent = session.ledger.requestsSent)
    (received :
      later.ledger.responsesReceived = session.ledger.responsesReceived)
    (errorCodes : later.ledger.errorCodes = session.ledger.errorCodes)
    (sameRequests : requests later.journal = requests session.journal)
    (sameAnswers : answers later.journal = answers session.journal) :
    later.Tallies where
  sent := by rw [sent, sameRequests, tallies.sent]
  received := by rw [received, sameAnswers, tallies.received]
  errorCodes := by rw [errorCodes, sameAnswers, tallies.errorCodes]

/-- A move to another stage counts no message. -/
theorem Tallies.setStage (tallies : session.Tallies) (stage : Stage) :
    (session.setStage stage).Tallies := by
  rw [Session.setStage]
  split
  · exact { tallies with }
  · dsimp only
    split <;> exact { tallies with }

/-- A frame that is flushed counts no message. -/
theorem Tallies.settle (tallies : session.Tallies) : session.settle.Tallies := by
  have settled :
      Tallies
        { (session.note .flushed).setWriteInterest false with
          outgoing := none, pending := none } :=
    tallies.ofSame rfl rfl rfl (by simp [note, setWriteInterest])
      (by simp [note, setWriteInterest])
  rw [Session.settle]
  cases session.pending with
  | none =>
      exact settled
  | some stage =>
      exact settled.setStage stage

/-- Every deed that is a request or a response is counted. -/
theorem Deed.tallies (deed : session.Deed later) (tallies : session.Tallies) :
    later.Tallies := by
  cases deed with
  | wrote | waits | drew | read | dropped | agreed =>
      exact { tallies with }
  | evaluated | taken =>
      exact tallies.ofSame rfl rfl rfl (by simp [note]) (by simp [note])
  | framed header outgoing =>
      cases header with
      | none =>
          exact tallies.ofSame rfl rfl rfl (by simp [note]) (by simp [note])
      | some header =>
          constructor
          case sent =>
            simp [note, Ledger.recordRequest, tallies.sent,
              UInt64.ofNat_add]
          case received =>
            simpa [note, Ledger.recordRequest] using tallies.received
          case errorCodes =>
            simpa [note, Ledger.recordRequest] using tallies.errorCodes
  | @decoded header payload response =>
      constructor
      case sent =>
        simpa [note, Ledger.recordResponse] using tallies.sent
      case received =>
        simp [note, Ledger.recordResponse, tallies.received,
          UInt64.ofNat_add]
      case errorCodes =>
        have added :
            (session.ledger.recordResponse response.errorCounts).errorCodes =
              Ledger.addUp session.ledger.errorCodes response.errorCounts :=
          rfl
        simp [note, added, tallies.errorCodes, Ledger.histogram_concat]
  | settled =>
      exact tallies.settle
  | moved =>
      exact tallies.setStage _

/-- Whatever a call does, requests and responses are tallied. -/
theorem isKept_tallies :
    IsKept (fun session : Session Client => session.Tallies) where
  deed deed tallies := deed.tallies tallies
  completes tallies := tallies.setStage .complete
  unsent _ tallies := { tallies with }
  unread _ tallies := { tallies with }
  begins {session} tallies := by
    rw [begin]
    split <;> exact { tallies with }
  fails tallies := { tallies with }

variable [Mechanism Client]

/-- After every operation requests and responses are tallied. -/
theorem Tallies.perform (tallies : session.Tallies) (operation : Operation) :
    (session.perform operation).2.Tallies := by
  cases operation with
  | authenticate =>
      exact isKept_tallies.authenticate tallies
  | close =>
      rw [Session.perform, close]
      dsimp only
      split <;> exact { tallies with }
  | transport step =>
      exact { tallies with }

/-- After every run requests and responses are tallied. -/
theorem Tallies.run (tallies : session.Tallies)
    (operations : List Operation) : (session.run operations).Tallies := by
  induction operations generalizing session with
  | nil =>
      exact tallies
  | cons operation later inductionHypothesis =>
      exact inductionHypothesis (tallies.perform operation)

end Session

/-! ## Exchanges are short -/

namespace SaslClient

/-- How many tokens a client still has to send, at most. -/
def tokensAhead : SaslClient → Nat
  | .plain client => if client.completed then 0 else 1
  | .scram client => ScramClient.tokensAhead client.phase

/-- No mechanism has more than two tokens ahead. -/
theorem tokensAhead_le (client : SaslClient) : client.tokensAhead ≤ 2 := by
  cases client with
  | plain client =>
      rw [tokensAhead]
      split <;> omega
  | scram client =>
      rw [tokensAhead]
      cases client.phase <;> simp [ScramClient.tokensAhead]

/-- A token that was produced is no longer ahead. -/
theorem length_token_add_tokensAhead_le {client next : SaslClient}
    {challenge : Bytes} {outcome : Except MechanismError (Option Bytes)}
    (evaluated : Mechanism.evaluate client challenge = (outcome, next)) :
    (ScramClient.token? outcome).toList.length + next.tokensAhead ≤
      client.tokensAhead := by
  cases client with
  | plain client =>
      cases completed : client.completed with
      | true =>
          simp only [Mechanism.evaluate, completed, if_true] at evaluated
          obtain ⟨rfl, rfl⟩ := Prod.mk.inj evaluated
          simp [ScramClient.token?]
      | false =>
          simp only [Mechanism.evaluate, completed, Bool.false_eq_true,
            if_false] at evaluated
          obtain ⟨rfl, rfl⟩ := Prod.mk.inj evaluated
          simp [ScramClient.token?, tokensAhead, completed]
  | scram client =>
      rw [evaluate_scram] at evaluated
      rcases ScramClient.evaluate_cases client challenge with
        ⟨token, phase, accepts, same⟩ | ⟨-, refusal, same⟩
      · rw [same] at evaluated
        obtain ⟨rfl, rfl⟩ := Prod.mk.inj evaluated
        simp only [tokensAhead]
        generalize client.phase = current at accepts
        cases accepts <;> simp [ScramClient.token?, ScramClient.tokensAhead]
      · rw [same] at evaluated
        obtain ⟨rfl, rfl⟩ := Prod.mk.inj evaluated
        dsimp only
        split
        · simp [ScramClient.token?]
        · simp [ScramClient.token?, tokensAhead, ScramClient.tokensAhead]

end SaslClient

namespace Script

variable {exchange : Exchange} {point : Point} {journal : List Event}

/--
The tokens so far and those ahead are no more than those of a fresh client.
-/
theorem length_tokens_add_tokensAhead_le
    (script : Script exchange point journal) :
    (tokens journal).length + point.client.tokensAhead ≤
      exchange.client.tokensAhead := by
  induction script with
  | start =>
      exact Nat.le_of_eq (Nat.zero_add _)
  | framed _ _ _ inductionHypothesis
  | flushed _ _ inductionHypothesis
  | taken _ _ _ inductionHypothesis
  | takenRaw _ _ _ inductionHypothesis
  | decoded _ _ _ inductionHypothesis
  | settled _ _ _ inductionHypothesis
  | admitted _ _ _ inductionHypothesis
  | unwrapped _ _ _ inductionHypothesis =>
      simpa using inductionHypothesis
  | @evaluated point journal challenge outcome next script challenged
      incomplete evaluated inductionHypothesis =>
      have step := SaslClient.length_token_add_tokensAhead_le evaluated
      have produced :
          (tokens (journal ++ [.evaluated challenge outcome])).length =
            (tokens journal).length +
              (ScramClient.token? outcome).toList.length := by
        rw [tokens_append, List.length_append, tokens_singleton]
        rcases outcome with _ | _ | _ <;> rfl
      rw [produced]
      dsimp only
      omega

/-- Two opening requests and two tokens at most are ever sent. -/
theorem length_requests_le (script : Script exchange point journal) :
    (requests journal).length ≤ 4 := by
  obtain ⟨sent, dispatched, plan⟩ := script.exists_dispatched
  have fewTokens : (tokens journal).length ≤ 2 := by
    have produced := script.length_tokens_add_tokensAhead_le
    have ahead := exchange.client.tokensAhead_le
    omega
  have fewOpening : (openingTasks exchange.config).length ≤ 2 := by
    rw [openingTasks]
    split <;> simp
  have fewSent : sent.length ≤ 4 := by
    unfold IsPlan at plan
    -- Each form of the plan holds at most the opening tasks and the tokens.
    have planned : (sent.map Prod.fst).length ≤ 4 := by
      split at plan
      · have tasks := congrArg List.length plan.2.2
        simp only [List.length_append, List.length_singleton] at tasks
        omega
      · have tasks := congrArg List.length plan.2.2
        simp only [List.length_append, List.length_cons, List.length_nil]
          at tasks
        omega
      · have tasks := congrArg List.length plan
        simp only [List.length_append, List.length_map] at tasks ⊢
        omega
    simpa using planned
  have framed : (requests journal).length ≤ sent.length := by
    rw [requests, ← dispatched.framings]
    exact Nat.le_trans (List.length_filterMap_le _ _)
      (Nat.le_of_eq (List.length_map _))
  exact Nat.le_trans framed fewSent

/-- Nothing but the APIs of an exchange is ever asked. -/
theorem api_ne_stopReplica_of_mem_requests
    (script : Script exchange point journal) {header : RequestHeader}
    (member : header ∈ requests journal) : header.api ≠ .stopReplica := by
  obtain ⟨sent, dispatched, -⟩ := script.exists_dispatched
  have isApi : header.api ∈ (requests journal).map RequestHeader.api :=
    List.mem_map_of_mem member
  rw [dispatched.apis_eq] at isApi
  obtain ⟨task, -, same⟩ := List.mem_map.mp isApi
  rw [← same]
  cases task <;> exact nofun

/-- A response answers a request that was made. -/
theorem mem_requests_of_mem_answers (script : Script exchange point journal)
    {header : RequestHeader} {response : Response}
    (member : (header, response) ∈ answers journal) :
    header ∈ requests journal := by
  rw [script.requests_eq]
  exact List.mem_append_left _ (List.mem_map_of_mem member)

/-- Every response of an exchange carries a single error code. -/
theorem errorCounts_of_mem_answers (script : Script exchange point journal)
    {header : RequestHeader} {response : Response}
    (member : (header, response) ∈ answers journal) :
    response.errorCounts = ErrorCode.count [response.error] := by
  obtain ⟨earlier, frame, payload, later, -, decoded⟩ :=
    script.isAnswer_of_mem_answers member
  have asked :=
    script.api_ne_stopReplica_of_mem_requests
      (script.mem_requests_of_mem_answers member)
  rw [← Response.api_of_ofPayload decoded] at asked
  cases response with
  | stopReplica =>
      exact (asked rfl).elim
  | apiVersions | saslHandshake | saslAuthenticate =>
      rfl

end Script

/-! ## Ledgers that balance -/

namespace Session

/--
A ledger that says what its session has done.

Whether a call has given the session up is what tells its failure from being
closed.
-/
structure Balances (session : Session SaslClient) (reported : Prop) :
    Prop where
  started : session.ledger.started = 0 ∨ session.ledger.started = 1
  ended :
    session.ledger.succeeded.toNat + session.ledger.failed.toNat ≤
      session.ledger.started.toNat
  succeeded : session.ledger.succeeded = 1 ↔ session.stage = .complete
  failed : session.ledger.failed = 1 ↔ session.stage = .failed ∧ reported
  sent :
    session.ledger.requestsSent.toNat = (requests session.journal).length
  received :
    session.ledger.responsesReceived.toNat = (answers session.journal).length
  /-- At most one request waits for its response. -/
  paired :
    session.ledger.requestsSent.toNat =
        session.ledger.responsesReceived.toNat ∨
      session.ledger.requestsSent.toNat =
        session.ledger.responsesReceived.toNat + 1
  outstanding :
    session.outstanding.isSome = true →
      session.ledger.requestsSent.toNat =
        session.ledger.responsesReceived.toNat + 1
  /-- What is counted as a response was decoded from a frame that was taken. -/
  decoded :
    ∀ header response, (header, response) ∈ answers session.journal →
      Script.IsAnswer session.journal header response
  errorCodes :
    ∀ code,
      ((session.ledger.errorCodes.get? code).getD 0).toNat =
        (answers session.journal).countP (·.2.error = code)
  total :
    (session.ledger.errorCodes.values.map UInt64.toNat).sum =
      session.ledger.responsesReceived.toNat

/-- How the outcomes of an attempt are counted. -/
theorem HasStanding.counted {Client : Type} {session : Session Client}
    {reported : Prop} (standing : session.HasStanding reported) :
    (session.ledger.started = 0 ∨ session.ledger.started = 1) ∧
      session.ledger.succeeded.toNat + session.ledger.failed.toNat ≤
        session.ledger.started.toNat ∧
      (session.ledger.succeeded = 1 ↔ session.stage = .complete) ∧
      (session.ledger.failed = 1 ↔ session.stage = .failed ∧ reported) := by
  have counted {succeeded failed : UInt64}
      (counts : session.Counts succeeded failed) :
      session.ledger.started = 0 ∨ session.ledger.started = 1 := by
    rw [counts.started]
    split <;> simp
  cases standing with
  | going stage _ counts =>
      have notOver : session.stage ≠ .complete ∧ session.stage ≠ .failed := by
        constructor <;> (intro other; rw [other] at stage; cases stage)
      refine ⟨counted counts, ?_, ?_, ?_⟩
      · simp [counts.succeeded, counts.failed]
      · simp [counts.succeeded, notOver.1]
      · simp [counts.failed, notOver.2]
  | complete stage _ _ begun counts =>
      refine ⟨counted counts, ?_, ?_, ?_⟩
      · simp [counts.started, begun, counts.succeeded, counts.failed]
      · simp [counts.succeeded, stage]
      · simp [counts.failed, stage]
  | failed stage _ ends =>
      rcases ends with ⟨counts, begun, reports⟩ | ⟨counts, silent⟩
      · refine ⟨counted counts, ?_, ?_, ?_⟩
        · simp [counts.started, begun, counts.succeeded, counts.failed]
        · simp [counts.succeeded, stage]
        · simp [counts.failed, stage, reports]
      · refine ⟨counted counts, ?_, ?_, ?_⟩
        · simp [counts.succeeded, counts.failed]
        · simp [counts.succeeded, stage]
        · simp [counts.failed, silent]

/-- A session with a request outstanding is in the middle of its exchange. -/
theorem Sound.exists_script {origin : Origin} {session : Session SaslClient}
    (sound : Sound origin session) :
    ∃ point,
      Script origin.exchange point session.journal ∧
        (session.outstanding.isSome = true →
          point.activity.header?.isSome = true) := by
  cases sound with
  | advances advances =>
      rcases advances with ⟨point, tracks, -⟩ | finished
      · exact ⟨point, tracks.script, fun isSome => by
          rwa [tracks.outstanding] at isSome⟩
      · obtain ⟨point, script, -⟩ := finished.script
        rw [finished.outstanding]
        exact ⟨point, script, nofun⟩
  | failed failed =>
      obtain ⟨point, script⟩ := failed.leaves.script
      rw [failed.outstanding]
      exact ⟨point, script, nofun⟩

/-- The ledger of a sound session balances. -/
theorem Sound.balances {origin : Origin} {session : Session SaslClient}
    {reported : Prop} (sound : Sound origin session)
    (standing : session.HasStanding reported) (tallies : session.Tallies) :
    session.Balances reported := by
  obtain ⟨started, ended, succeeded, failed⟩ := standing.counted
  obtain ⟨point, script, isOutstanding⟩ := sound.exists_script
  have few : (requests session.journal).length < UInt64.size :=
    Nat.lt_of_le_of_lt script.length_requests_le (by decide)
  have lengths :
      (requests session.journal).length =
        (answers session.journal).length +
          point.activity.header?.toList.length := by
    rw [script.requests_eq, List.length_append, List.length_map]
  have fewAnswers : (answers session.journal).length < UInt64.size := by
    omega
  have sent :
      session.ledger.requestsSent.toNat =
        (requests session.journal).length := by
    rw [tallies.sent]
    exact UInt64.toNat_ofNat_of_lt few
  have received :
      session.ledger.responsesReceived.toNat =
        (answers session.journal).length := by
    rw [tallies.received]
    exact UInt64.toNat_ofNat_of_lt fewAnswers
  have single :
      session.ledger.errorCodes =
        Ledger.histogram
          (((answers session.journal).map (·.2.error)).map
            fun error => ErrorCode.count [error]) := by
    rw [tallies.errorCodes, List.map_map]
    exact congrArg Ledger.histogram (List.map_congr_left fun answer member =>
      script.errorCounts_of_mem_answers member)
  have counts :
      Ledger.CountsErrors _ ((answers session.journal).map (·.2.error)) :=
    Ledger.countsErrors_histogram (by rwa [List.length_map])
  rw [← single] at counts
  constructor
  case started | ended | succeeded | failed | sent | received =>
    assumption
  case paired =>
    rw [sent, received, lengths]
    cases point.activity.header? with
    | none =>
        exact Or.inl rfl
    | some header =>
        exact Or.inr rfl
  case outstanding =>
    intro isSome
    obtain ⟨header, isHeader⟩ :=
      Option.isSome_iff_exists.mp (isOutstanding isSome)
    rw [sent, received, lengths, isHeader]
    rfl
  case decoded =>
    exact fun _ _ member => script.isAnswer_of_mem_answers member
  case errorCodes =>
    intro code
    rw [counts.each code, List.count_eq_countP, List.countP_map]
    rfl
  case total =>
    rw [counts.total, List.length_map, received]

/--
The ledger of a session balances after every run.

One attempt is counted at most, with one outcome, and as many responses as
requests but for the one that is outstanding.
-/
theorem balances_run (config : Config) (node host : String)
    (subject : Subject) (transport : Transport) {client : SaslClient}
    (fresh : client.IsFresh) (operations : List Operation) :
    let session := start config node host subject transport client
    (session.run operations).Balances (session.Reports operations) := by
  intro session
  have sound :=
    (sound_start config node host subject transport fresh).run operations
  have begins : session.Tallies := ⟨rfl, rfl, rfl⟩
  exact sound.balances
    (hasStanding_run config node host subject transport client operations)
    (begins.run operations)

/-- A server that refuses to list its versions is counted with its code. -/
theorem balances_run_refused :
    let client : SaslClient :=
      .plain
        { authorizationId := none, username := "user", password := "secret" }
    let refusal : Bytes :=
      [0, 0, 0, 10, 255, 255, 255, 255, 0, 35, 0, 0, 0, 0]
    let session := start {} "broker:9092" "broker" {} {} client
    let operations : List Operation :=
      [.authenticate, .transport (.push refusal), .authenticate, .close]
    client.IsFresh ∧
      (session.run operations).ledger.failed = 1 ∧
      (session.run operations).ledger.errorCodes.entries =
        [(.unsupportedVersion, 1)] ∧
      (session.run operations).Balances (session.Reports operations) := by
  intro client refusal session operations
  have fresh : client.IsFresh := rfl
  have balances :=
    balances_run {} "broker:9092" "broker" {} {} fresh operations
  exact ⟨fresh, by decide +kernel, by decide +kernel, balances⟩

end Session

end BrokerSession
