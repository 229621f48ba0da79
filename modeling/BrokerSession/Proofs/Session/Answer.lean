import BrokerSession.Proofs.Session.Course
import BrokerSession.Proofs.Session.Pace
import BrokerSession.Proofs.Session.Runs

namespace BrokerSession

/-!
# Answers that are accepted or denied

A payload that is taken while a request is outstanding is either a proper
answer to it or denied.  A denied one fails the session at once, with the
failure that the payload calls for, and nothing is sent in reply.
-/

open Journal

namespace Session

/-- A proper answer to a request, to which the mechanism agrees. -/
def Accepts (session : Session SaslClient) (header : RequestHeader)
    (payload : Bytes) : Prop :=
  ∃ body response,
    payload = Bytes.ofInt32 header.correlationId ++ body ∧
      Response.parse header.api header.version body = .ok response ∧
      response.error = .none ∧
      ∀ content, response = .saslAuthenticate content →
        Mechanism.isComplete session.client = true ∨
          ∃ answer,
            (Mechanism.evaluate session.client content.token).1 = .ok answer

/-- The failure that a payload calls for when it is no proper answer. -/
inductive Denies (session : Session SaslClient) (header : RequestHeader) :
    Bytes → SessionError → Prop where
  | short {payload : Bytes} (isShort : payload.length < 4) :
      Denies session header payload
        (.invalidSaslResponse
          (.schema (.bufferUnderrun "correlation_id" 4 payload.length)))
  /-- Whatever follows the other correlation id. -/
  | mismatched {actual : Int32} (body : Bytes)
      (differs : actual ≠ header.correlationId) :
      Denies session header (Bytes.ofInt32 actual ++ body)
        (.correlationMismatch header.correlationId actual)
  | undecodable {body : Bytes} {cause : SchemaError}
      (refused :
        Response.parse header.api header.version body = .error cause) :
      Denies session header (Bytes.ofInt32 header.correlationId ++ body)
        (.invalidSaslResponse (.schema cause))
  | rejected {body : Bytes} {response : Response} {cause : SessionError}
      (parsed : Response.parse header.api header.version body = .ok response)
      (rejected : response.rejection? session.config.mechanism = some cause) :
      Denies session header (Bytes.ofInt32 header.correlationId ++ body) cause
  | mechanism {body : Bytes} {response : SaslAuthenticateResponse}
      {cause : MechanismError}
      (parsed :
        Response.parse header.api header.version body =
          .ok (.saslAuthenticate response))
      (succeeded : response.error = .none)
      (incomplete : Mechanism.isComplete session.client = false)
      (refused :
        (Mechanism.evaluate session.client response.token).1 = .error cause) :
      Denies session header (Bytes.ofInt32 header.correlationId ++ body)
        (.mechanism session.config.mechanism session.host cause)

/-! ## What a payload is decoded as -/

variable {session : Session SaslClient} {header : RequestHeader}
  {payload : Bytes}

/-- A payload is accepted or denied by what it is decoded as. -/
theorem accepts_or_denies (session : Session SaslClient)
    (asks : header.api ≠ .stopReplica) (payload : Bytes) :
    session.Accepts header payload ∨
      ∃ cause, session.Denies header payload cause := by
  by_cases isShort : payload.length < 4
  · exact Or.inr ⟨_, .short isShort⟩
  obtain ⟨actual, body, rfl⟩ :=
    Bytes.exists_eq_ofInt32_append (Nat.le_of_not_lt isShort)
  by_cases same : actual = header.correlationId
  case neg =>
    exact Or.inr ⟨_, .mismatched body same⟩
  rw [same]
  cases parsed : Response.parse header.api header.version body with
  | error cause =>
      exact Or.inr ⟨_, .undecodable parsed⟩
  | ok response =>
      by_cases succeeded : response.error = .none
      case neg =>
        have notAsked : response.api ≠ .stopReplica :=
          Response.api_of_parse parsed ▸ asks
        obtain ⟨cause, rejected⟩ :=
          Response.exists_rejection session.config.mechanism notAsked succeeded
        exact Or.inr ⟨cause, .rejected parsed rejected⟩
      by_cases accepted :
        ∀ content, response = .saslAuthenticate content →
          Mechanism.isComplete session.client = true ∨
            ∃ answer,
              (Mechanism.evaluate session.client content.token).1 = .ok answer
      case pos =>
        exact Or.inl ⟨body, response, rfl, parsed, succeeded, accepted⟩
      push Not at accepted
      obtain ⟨content, rfl, notComplete, refused⟩ := accepted
      have incomplete : Mechanism.isComplete session.client = false := by
        simpa using notComplete
      cases outcome :
        (Mechanism.evaluate session.client content.token).1 with
      | ok answer =>
          exact (refused answer outcome).elim
      | error cause =>
          exact Or.inr ⟨_, .mechanism parsed succeeded incomplete outcome⟩

/-- A denial says how the payload is decoded, or what comes of it. -/
theorem Denies.cases {cause : SessionError}
    (denies : session.Denies header payload cause) :
    (∃ refusal,
        Response.ofPayload header payload = .error refusal ∧
          cause = refusal.ofUndecodable) ∨
      (∃ response,
        Response.ofPayload header payload = .ok response ∧
          response.rejection? session.config.mechanism = some cause) ∨
      ∃ response refusal,
        Response.ofPayload header payload =
            .ok (.saslAuthenticate response) ∧
          response.error = .none ∧
          Mechanism.isComplete session.client = false ∧
          (Mechanism.evaluate session.client response.token).1 =
            .error refusal ∧
          cause =
            .mechanism session.config.mechanism session.host refusal := by
  have proper (body : Bytes) :
      Response.ofPayload header
          (Bytes.ofInt32 header.correlationId ++ body) =
        (Response.parse header.api header.version body).mapError .schema := by
    rw [Response.ofPayload_append, if_pos rfl]
  cases denies with
  | short isShort =>
      exact Or.inl ⟨_, Response.ofPayload_of_short isShort, rfl⟩
  | mismatched body differs =>
      refine Or.inl ⟨.correlationMismatch _ _, ?_, rfl⟩
      rw [Response.ofPayload_append, if_neg differs]
  | undecodable refused =>
      refine Or.inl ⟨.schema _, ?_, rfl⟩
      rw [proper, refused]
      rfl
  | rejected parsed rejected =>
      refine Or.inr (Or.inl ⟨_, ?_, rejected⟩)
      rw [proper, parsed]
      rfl
  | mechanism parsed succeeded incomplete refused =>
      refine Or.inr (Or.inr ⟨_, _, ?_, succeeded, incomplete, refused, rfl⟩)
      rw [proper, parsed]
      rfl

end Session

/-! ## Where a call ends -/

/-- Whether an answer is being dealt with, as it is only during a call. -/
def Activity.isPassing : Activity → Bool
  | .received .. | .answered .. | .refused => true
  | _ => false

namespace Session

variable {origin : Origin} {session : Session SaslClient} {point : Point}
  {header : RequestHeader} {payload : Bytes}

/-- A point at which a session can be between two calls. -/
inductive Stands (point : Point) : Prop where
  | rests {stage : Stage} {pending : Option Stage}
      (rests : Rests stage pending point)
  | finished (complete : Mechanism.isComplete point.client = true)
      (final : IsFinal point.activity)

theorem IsFinal.isPassing_eq {activity : Activity} (final : IsFinal activity) :
    activity.isPassing = false := by
  cases final <;> rfl

theorem Stands.isPassing_eq (stands : Stands point) :
    point.activity.isPassing = false := by
  cases stands with
  | rests rests =>
      cases rests with
      | asking _ _ _ current | starting _ _ _ current
      | writing _ _ _ _ _ current | awaiting _ _ _ _ _ current
      | writingNext _ _ _ _ _ _ current | awaitingFinal _ _ _ _ _ current =>
          rw [current]
          rfl
  | finished complete final =>
      exact final.isPassing_eq

/-- A challenge is left alone only if the mechanism is complete or fresh. -/
theorem Stands.isComplete_of_challenged {challenge : Bytes}
    (stands : Stands point)
    (challenged : point.activity = .challenged challenge) :
    Mechanism.isComplete point.client = true ∨ point.client.IsFresh := by
  cases stands with
  | rests rests =>
      cases rests with
      | starting _ _ fresh _ =>
          exact Or.inr fresh
      | asking _ _ _ current | writing _ _ _ _ _ current
      | awaiting _ _ _ _ _ current | writingNext _ _ _ _ _ _ current
      | awaitingFinal _ _ _ _ _ current =>
          cases challenged.symm.trans current
  | finished complete final =>
      exact Or.inl complete

/-- What the next call adds to the journal. -/
def nextEvents (session : Session SaslClient) : List Event :=
  session.authenticate.2.journal.drop session.journal.length

theorem journal_authenticate (session : Session SaslClient) :
    session.authenticate.2.journal = session.journal ++ session.nextEvents := by
  obtain ⟨events, journal, -⟩ := extends_authenticate session
  rw [nextEvents, journal, List.drop_left]

/-- What a call on a session ends with at a point: it waits, or it fails. -/
inductive Ends (origin : Origin) (session : Session SaslClient)
    (point : Point) : Prop where
  | stands (stands : Stands point)
  | stops {unsent held : Bytes} {cause : SessionError}
      (reported : session.authenticate.1 = .error cause)
      (failed : session.authenticate.2.stage = .failed)
      (stops :
        Stops origin point session.authenticate.2.journal unsent held cause)

theorem Advances.ends (advances : Advances origin session) :
    ∃ point,
      Script origin.exchange point session.authenticate.2.journal ∧
        Ends origin session point := by
  rcases advances.authenticate with ⟨-, later⟩ |
    ⟨cause, reported, throws, failed⟩
  · rcases later with ⟨point, tracks, -, rests⟩ | finished
    · exact ⟨point, tracks.script, .stands (.rests rests)⟩
    · obtain ⟨point, script, -, complete, final⟩ := finished.script
      exact ⟨point, script, .stands (.finished complete final)⟩
  · obtain ⟨point, unsent, held, script, -, stops⟩ := throws
    exact ⟨point, script, .stops reported failed.stage stops⟩

/-- Only a refusal ends a call while an answer is being dealt with. -/
theorem Ends.exists_refuses (ends : Ends origin session point)
    (passing : point.activity.isPassing = true) :
    ∃ held cause,
      session.authenticate.1 = .error cause ∧
        session.authenticate.2.stage = .failed ∧
        origin.exchange.Refuses point session.authenticate.2.journal held
          cause := by
  cases ends with
  | stands stands =>
      cases passing.symm.trans stands.isPassing_eq
  | stops reported failed stops =>
      cases stops with
      | refused refuses =>
          exact ⟨_, _, reported, failed, refuses⟩
      | broken impatient busy =>
          cases activity : point.activity <;> rw [activity] at passing busy <;>
            simp [Activity.isPassing, Activity.isWriting,
              Activity.isAwaiting] at passing busy

/-! ## From the answer to the end of the call -/

section Course

variable {waiting last : Point} {task : Task} {rest : List Event}

/-- How a call fails, having done nothing but the given events. -/
def FailsWith (session : Session SaslClient) (rest : List Event)
    (cause : SessionError) : Prop :=
  session.authenticate.1 = .error cause ∧
    session.authenticate.2.stage = .failed ∧ frames rest = []

/-- A payload that cannot be decoded is all that the call deals with. -/
theorem Ends.undecodable {refusal : SessionError}
    (ends : Ends origin session last)
    (leads : origin.exchange.Leads waiting rest last)
    (received : waiting.activity = .received task header payload)
    (refused : Response.ofPayload header payload = .error refusal) :
    session.FailsWith rest refusal.ofUndecodable := by
  cases leads with
  | move moves leads =>
      obtain ⟨response, decoded, -, -⟩ := moves.of_received received
      cases refused.symm.trans decoded
  | stay =>
      obtain ⟨held, cause, reported, failed, refuses⟩ :=
        ends.exists_refuses (by rw [received]; rfl)
      obtain ⟨-, other, otherRefused, rfl⟩ := refuses.of_received received
      cases refused.symm.trans otherRefused
      exact ⟨reported, failed, rfl⟩

/-- A call does not end at a payload that can be decoded. -/
theorem Ends.exists_answered {response : Response}
    (ends : Ends origin session last)
    (leads : origin.exchange.Leads waiting rest last)
    (received : waiting.activity = .received task header payload)
    (decoded : Response.ofPayload header payload = .ok response) :
    ∃ later,
      rest = .decoded header response :: later ∧
        origin.exchange.Leads
          { waiting with activity := .answered task response } later last := by
  cases leads with
  | move moves leads =>
      obtain ⟨other, otherDecoded, rfl, rfl⟩ := moves.of_received received
      cases decoded.symm.trans otherDecoded
      exact ⟨_, rfl, leads⟩
  | stay =>
      obtain ⟨held, cause, -, -, refuses⟩ :=
        ends.exists_refuses (by rw [received]; rfl)
      obtain ⟨-, refusal, refused, -⟩ := refuses.of_received received
      cases decoded.symm.trans refused

/-- A response with an error is all that the call deals with. -/
theorem Ends.rejected {response : Response} {cause : SessionError}
    (ends : Ends origin session last)
    (leads : origin.exchange.Leads waiting rest last)
    (received : waiting.activity = .received task header payload)
    (decoded : Response.ofPayload header payload = .ok response)
    (rejected :
      response.rejection? origin.exchange.config.mechanism = some cause) :
    session.FailsWith rest cause := by
  obtain ⟨later, rfl, answered⟩ := ends.exists_answered leads received decoded
  cases answered with
  | move moves _ =>
      obtain ⟨succeeded, -, -⟩ := moves.of_answered rfl
      exact (Response.error_ne_none_of_rejection rejected succeeded).elim
  | stay =>
      obtain ⟨held, other, reported, failed, refuses⟩ :=
        ends.exists_refuses rfl
      cases rejected.symm.trans (refuses.of_answered rfl).2
      exact ⟨reported, failed, rfl⟩

/-- A call does not end at a token that the mechanism has to answer. -/
theorem Ends.exists_challenged {response : SaslAuthenticateResponse}
    (ends : Ends origin session last)
    (leads : origin.exchange.Leads waiting rest last)
    (received : waiting.activity = .received task header payload)
    (decoded :
      Response.ofPayload header payload = .ok (.saslAuthenticate response))
    (succeeded : response.error = .none) :
    ∃ later,
      rest = .decoded header (.saslAuthenticate response) :: later ∧
        origin.exchange.Leads
          { waiting with activity := .challenged response.token } later
          last := by
  obtain ⟨later, rfl, answered⟩ := ends.exists_answered leads received decoded
  cases answered with
  | stay =>
      obtain ⟨held, cause, -, -, refuses⟩ := ends.exists_refuses rfl
      have failed :=
        Response.error_ne_none_of_rejection (refuses.of_answered rfl).2
      exact (failed succeeded).elim
  | move moves challenged =>
      obtain ⟨-, rfl, kinds⟩ := moves.of_answered rfl
      rcases kinds with ⟨content, same, -⟩ | ⟨content, same, -⟩ |
        ⟨content, same, rfl⟩
      · cases same
      · cases same
      · cases same
        exact ⟨_, rfl, challenged⟩

/-- A call asks a mechanism that has begun and is not complete. -/
theorem Ends.not_challenged {challenge : Bytes}
    (ends : Ends origin session point) (notFresh : ¬ point.client.IsFresh)
    (incomplete : Mechanism.isComplete point.client = false) :
    point.activity ≠ .challenged challenge := by
  intro challenged
  cases ends with
  | stands stands =>
      rcases stands.isComplete_of_challenged challenged with complete | fresh
      · cases incomplete.symm.trans complete
      · exact notFresh fresh
  | stops _ _ stops =>
      cases stops with
      | refused refuses =>
          exact refuses.not_challenged challenged
      | broken impatient busy =>
          rw [challenged] at busy
          rcases busy with writing | awaiting
          · cases writing
          · cases awaiting

/-- A token that the mechanism refuses is all that the call deals with. -/
theorem Ends.mechanism {response : SaslAuthenticateResponse}
    {refusal : MechanismError} {earlier : List Event}
    (ends : Ends origin session last)
    (leads : origin.exchange.Leads waiting rest last)
    (received : waiting.activity = .received task header payload)
    (decoded :
      Response.ofPayload header payload = .ok (.saslAuthenticate response))
    (succeeded : response.error = .none)
    (notFresh : ¬ waiting.client.IsFresh)
    (incomplete : Mechanism.isComplete waiting.client = false)
    (refused :
      (Mechanism.evaluate waiting.client response.token).1 = .error refusal)
    (journal : session.authenticate.2.journal = earlier ++ rest) :
    session.FailsWith rest
      (.mechanism origin.exchange.config.mechanism origin.exchange.host
        refusal) := by
  obtain ⟨later, rfl, challenged⟩ :=
    ends.exists_challenged leads received decoded succeeded
  cases challenged with
  | stay =>
      exact (ends.not_challenged notFresh incomplete rfl).elim
  | move moves leads =>
      obtain ⟨-, outcome, client, evaluated, rfl, rfl⟩ :=
        moves.of_challenged rfl
      have isRefused : outcome = .error refusal := by
        rw [← refused, evaluated]
      subst isRefused
      cases leads with
      | move moves _ =>
          exact (Exchange.Moves.not_of_over (Or.inr rfl) moves).elim
      | stay =>
          obtain ⟨held, cause, reported, failed, refuses⟩ :=
            ends.exists_refuses rfl
          obtain ⟨-, before, challenge, other, shape, rfl⟩ :=
            refuses.of_refused rfl
          have isLast :
              (earlier ++ [.decoded header (.saslAuthenticate response)]) ++
                  [.evaluated response.token (.error refusal)] =
                before ++ [.evaluated challenge (.error other)] := by
            rw [← shape, journal]
            simp
          obtain ⟨-, sameEvent⟩ := List.append_inj' isLast rfl
          cases sameEvent
          exact ⟨reported, failed, rfl⟩

end Course

/-! ## From the request to the answer -/

/-- A session with an outstanding request is writing it or awaits its answer. -/
theorem Tracks.exists_task (tracks : Tracks origin session point)
    (rests : Rests session.stage session.pending point)
    (outstanding : session.outstanding = some header) :
    ∃ task,
      (point.activity = .writing task (some header) ∨
          point.activity = .awaiting task (some header)) ∧
        (task.api = .saslAuthenticate → ¬ point.client.IsFresh) := by
  have isHeader := tracks.outstanding.symm.trans outstanding
  have begun {task : Task} (suits : task.Suits point.client)
      (isToken : task.api = .saslAuthenticate) : ¬ point.client.IsFresh := by
    cases task with
    | versions | handshake =>
        cases isToken
    | token content =>
        exact SaslClient.not_isFresh_of_hasBegun suits
  cases rests with
  | asking _ _ _ current | starting _ _ _ current =>
      rw [current] at isHeader
      cases isHeader
  | writing task request _ _ suits current =>
      rw [current] at isHeader
      cases isHeader
      exact ⟨task, Or.inl current, begun suits⟩
  | awaiting task request _ _ suits current =>
      rw [current] at isHeader
      cases isHeader
      exact ⟨task, Or.inr current, begun suits⟩
  | writingNext token request _ _ hasBegun _ current =>
      rw [current] at isHeader
      cases isHeader
      exact ⟨.token token, Or.inl current,
        fun _ => SaslClient.not_isFresh_of_hasBegun hasBegun⟩
  | awaitingFinal token request _ _ complete current =>
      rw [current] at isHeader
      cases isHeader
      refine ⟨.token token, Or.inr current, fun _ fresh => ?_⟩
      cases (SaslClient.not_isComplete_of_isFresh fresh).symm.trans complete

/-- The outstanding header is that of the API which the task asks. -/
theorem Tracks.api_eq {task : Task} (tracks : Tracks origin session point)
    (current :
      point.activity = .writing task (some header) ∨
        point.activity = .awaiting task (some header)) :
    header.api = task.api := by
  have fits := tracks.script.headerFits
  rcases current with writing | awaiting
  · rw [writing] at fits
    exact fits.2 header rfl
  · rw [awaiting] at fits
    exact fits.2 header rfl

/-- What is taken while a request is outstanding is received as its answer. -/
theorem exists_received {exchange : Exchange} {last : Point} {task : Task}
    {events : List Event} (leads : exchange.Leads point events last)
    (current :
      point.activity = .writing task (some header) ∨
        point.activity = .awaiting task (some header))
    (takes : payloads events = [payload]) :
    ∃ rest,
      (events = .taken payload :: rest ∨
          events = .flushed :: .taken payload :: rest) ∧
        exchange.Leads
          { point with activity := .received task header payload } rest
          last := by
  have fromAwaiting {start : Point} {later : List Event}
      (leads : exchange.Leads start later last)
      (awaiting : start.activity = .awaiting task (some header))
      (takes : payloads later = [payload]) :
      ∃ rest,
        later = .taken payload :: rest ∧
          exchange.Leads
            { start with activity := .received task header payload } rest
            last := by
    cases leads with
    | stay =>
        cases takes
    | @move _ _ _ _ rest moves leads =>
        obtain ⟨other, rfl, rfl⟩ := moves.of_awaiting awaiting
        obtain ⟨rfl, -⟩ := List.cons.inj takes
        exact ⟨rest, rfl, leads⟩
  rcases current with writing | awaiting
  · cases leads with
    | stay =>
        cases takes
    | move moves leads =>
        obtain ⟨rfl, rfl⟩ := moves.of_writing writing
        obtain ⟨rest, rfl, goesOn⟩ := fromAwaiting leads rfl takes
        exact ⟨rest, Or.inr rfl, goesOn⟩
  · obtain ⟨rest, rfl, goesOn⟩ := fromAwaiting leads awaiting takes
    exact ⟨rest, Or.inl rfl, goesOn⟩

/-- The events of a call lead from where the session rests to its end. -/
theorem Tracks.exists_leads (tracks : Tracks origin session point)
    (advances : Advances origin session)
    (something : session.nextEvents ≠ []) :
    ∃ last,
      origin.exchange.Leads point session.nextEvents last ∧
        Ends origin session last := by
  obtain ⟨last, script, ends⟩ := advances.ends
  rw [journal_authenticate] at script
  have compared :
      Exchange.Compared (payloads session.journal)
        (payloads (session.journal ++ session.nextEvents)) := by
    rw [payloads_append]
    exact Or.inl (List.prefix_append _ _)
  rcases tracks.script.linear script compared with ⟨rest, shape, leads⟩ |
    ⟨rest, shape, leads⟩
  · obtain rfl := List.append_cancel_left shape
    exact ⟨last, leads, ends⟩
  · rw [List.append_assoc] at shape
    have nothing := List.self_eq_append_right.mp shape
    exact (something (List.append_eq_nil_iff.mp nothing).1).elim

/-- A call takes at most one payload. -/
theorem payloads_nextEvents_eq
    (takes : payload ∈ payloads session.nextEvents) :
    payloads session.nextEvents = [payload] := by
  obtain ⟨events, journal, -, atMostOne⟩ := extends_authenticate session
  obtain rfl :=
    List.append_cancel_left (session.journal_authenticate.symm.trans journal)
  match payloads session.nextEvents, takes, atMostOne with
  | [only], takes, _ =>
      rw [List.mem_singleton.mp takes]

/-! ## Every state that awaits an answer -/

/-- A taken payload is accepted, or it fails the session as it deserves. -/
structure FailsClosed (session : Session SaslClient) (header : RequestHeader)
    (payload : Bytes) : Prop where
  decided :
    session.Accepts header payload ∨
      ∃ cause, session.Denies header payload cause
  accepted :
    session.authenticate.2.stage ≠ .failed → session.Accepts header payload
  /-- Nothing is sent in reply to a denied payload. -/
  denied :
    ∀ cause, session.Denies header payload cause →
      session.authenticate.1 = .error cause ∧
        session.authenticate.2.stage = .failed ∧
        frames session.nextEvents = []

/-- A denied payload fails the session in the call that takes it. -/
theorem Tracks.failsWith_of_denies {cause : SessionError}
    (tracks : Tracks origin session point)
    (advances : Advances origin session)
    (rests : Rests session.stage session.pending point)
    (outstanding : session.outstanding = some header)
    (takes : payload ∈ payloads session.nextEvents)
    (denies : session.Denies header payload cause) :
    session.FailsWith session.nextEvents cause := by
  obtain ⟨task, current, notFresh⟩ := tracks.exists_task rests outstanding
  have taken := payloads_nextEvents_eq takes
  have something : session.nextEvents ≠ [] := by
    intro nothing
    rw [nothing] at taken
    cases taken
  obtain ⟨last, leads, ends⟩ := tracks.exists_leads advances something
  obtain ⟨rest, shape, leads⟩ := exists_received leads current taken
  have sameFrames : frames session.nextEvents = frames rest := by
    rcases shape with shape | shape <;> (rw [shape]; rfl)
  rw [FailsWith, sameFrames]
  rcases denies.cases with ⟨refusal, refused, rfl⟩ |
    ⟨response, decoded, rejected⟩ |
    ⟨response, refusal, decoded, succeeded, incomplete, refused, rfl⟩
  · exact ends.undecodable leads rfl refused
  · rw [tracks.config] at rejected
    exact ends.rejected leads rfl decoded rejected
  · rw [tracks.config, tracks.host]
    rw [tracks.client] at incomplete refused
    have isToken : task.api = .saslAuthenticate :=
      (tracks.api_eq current).symm.trans
        (Response.api_of_ofPayload decoded).symm
    obtain ⟨earlier, journal⟩ :
        ∃ earlier, session.authenticate.2.journal = earlier ++ rest := by
      rw [journal_authenticate]
      rcases shape with shape | shape
      · exact ⟨session.journal ++ [.taken payload], by simp [shape]⟩
      · exact ⟨session.journal ++ [.flushed, .taken payload],
          by simp [shape]⟩
    exact ends.mechanism leads rfl decoded succeeded (notFresh isToken)
      incomplete refused journal

/-- What is taken while a request is outstanding is accepted or denied. -/
theorem Tracks.failsClosed (tracks : Tracks origin session point)
    (advances : Advances origin session)
    (rests : Rests session.stage session.pending point)
    (outstanding : session.outstanding = some header)
    (takes : payload ∈ payloads session.nextEvents) :
    session.FailsClosed header payload := by
  have asks : header.api ≠ .stopReplica := by
    obtain ⟨task, current, -⟩ := tracks.exists_task rests outstanding
    rw [tracks.api_eq current]
    cases task <;> exact ApiKey.noConfusion
  have decided := accepts_or_denies session asks payload
  have denied (cause : SessionError)
      (denies : session.Denies header payload cause) :
      session.FailsWith session.nextEvents cause :=
    tracks.failsWith_of_denies advances rests outstanding takes denies
  refine ⟨decided, ?_, denied⟩
  intro goesOn
  rcases decided with accepts | ⟨cause, denies⟩
  · exact accepts
  · exact (goesOn (denied cause denies).2.1).elim

/-- Whatever a peer sends in answer to a request is accepted or denied. -/
theorem failsClosed_of_isFresh (config : Config) (node host : String)
    (subject : Subject) (transport : Transport) {client : SaslClient}
    (fresh : client.IsFresh) (operations : List Operation) :
    let session :=
      (start config node host subject transport client).run operations
    ∀ header payload,
      session.outstanding = some header →
        payload ∈ payloads session.nextEvents →
          session.FailsClosed header payload := by
  intro session header payload outstanding takes
  have sound :=
    (sound_start config node host subject transport fresh).run operations
  cases sound with
  | failed failed =>
      cases failed.outstanding.symm.trans outstanding
  | advances advances =>
      rcases id advances with ⟨point, tracks, -, rests⟩ | finished
      · exact tracks.failsClosed advances rests outstanding takes
      · cases finished.outstanding.symm.trans outstanding

/-- A peer that answers the first request under another correlation id. -/
theorem failsClosed_of_isFresh_mismatched :
    let client : SaslClient :=
      .plain
        { authorizationId := none, username := "user", password := "secret" }
    let header : RequestHeader :=
      { api := .apiVersions, version := 0, correlationId := -1
        clientId := none }
    let payload : Bytes := Bytes.ofInt32 7 ++ [0, 0]
    let session :=
      (start {} "broker:9092" "broker" {} {} client).run
        [.authenticate, .transport (.push (FrameCodec.frame payload))]
    client.IsFresh ∧ session.outstanding = some header ∧
      payload ∈ payloads session.nextEvents ∧
      session.Denies header payload (.correlationMismatch (-1) 7) ∧
      session.FailsClosed header payload := by
  intro client header payload session
  have fresh : client.IsFresh := rfl
  have outstanding : session.outstanding = some header := by
    decide +kernel
  have takes : payload ∈ payloads session.nextEvents := by
    decide +kernel
  have failsClosed :=
    failsClosed_of_isFresh {} "broker:9092" "broker" {} {} fresh
      [.authenticate, .transport (.push (FrameCodec.frame payload))] header
      payload outstanding takes
  exact ⟨fresh, outstanding, takes, .mismatched [0, 0] (by decide),
    failsClosed⟩

end Session

end BrokerSession
