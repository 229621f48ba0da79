import BrokerSession.Proofs.Session.Refusal

namespace BrokerSession

/-!
# An exchange has one course

From every point there is at most one move, apart from the payload that is
taken.  Exchanges that take the same payloads therefore go the same way as far
as both of them go, and an exchange that is refused goes no further.
-/

open Journal

namespace Task.Framed

variable {config : Config} {terms : Terms} {correlationId : Int32} {task : Task}
  {framing other : Framing}

/-- A task is framed in one way. -/
theorem unique (framed : task.Framed config terms correlationId framing)
    (otherFramed : task.Framed config terms correlationId other) :
    framing = other := by
  cases framed with
  | request asked serialized encoded =>
      cases otherFramed with
      | request otherAsked otherSerialized otherEncoded =>
          cases asked.symm.trans otherAsked
          cases serialized.symm.trans otherSerialized
          cases encoded.symm.trans otherEncoded
          rfl
      | raw unwrapped otherEncoded =>
          rw [Task.request?, unwrapped] at asked
          cases asked
  | raw unwrapped encoded =>
      cases otherFramed with
      | request otherAsked otherSerialized otherEncoded =>
          rw [Task.request?, unwrapped] at otherAsked
          cases otherAsked
      | raw otherUnwrapped otherEncoded =>
          cases encoded.symm.trans otherEncoded
          rfl

/-- A request whose frame is made can be sent. -/
theorem toOutgoing_ne_error {request : Request} {destination : String}
    {cause : SessionError}
    (framed : task.Framed config terms correlationId framing)
    (asked : task.request? config terms = some request) :
    request.toOutgoing destination
        (Task.headerOf config correlationId request) ≠
      .error cause := by
  intro refused
  cases framed with
  | request otherAsked serialized encoded =>
      cases asked.symm.trans otherAsked
      rw [Request.toOutgoing, serialized] at refused
      simp only [Except.mapError, bind, Except.bind, Outgoing.ofPayload,
        encoded] at refused
      cases refused
  | raw unwrapped encoded =>
      rw [Task.request?, unwrapped] at asked
      cases asked

/-- A raw token whose frame is made can be sent. -/
theorem ofPayload_ne_error {token : Bytes} {destination : String}
    {cause : IoError}
    (framed : Framed config terms correlationId (.token token) framing)
    (unwrapped : terms.authenticateVersion = none) :
    Outgoing.ofPayload destination token ≠ .error cause := by
  intro refused
  cases framed with
  | request asked serialized encoded =>
      rw [Task.request?, unwrapped] at asked
      cases asked
  | raw _ encoded =>
      rw [Outgoing.ofPayload, encoded] at refused
      cases refused

end Task.Framed

namespace Exchange.Moves

variable {exchange : Exchange} {point next : Point} {events : List Event}

/-! ## The move of an activity -/

theorem of_ready {task : Task} (moves : exchange.Moves point events next)
    (ready : point.activity = .ready task) :
    ∃ header frame,
      task.Framed exchange.config point.terms point.nextId (header, frame) ∧
        events = [.framed header frame] ∧
        next =
          { point with
            nextId := if header.isSome then point.nextId + 1 else point.nextId
            activity := .writing task header } := by
  cases moves with
  | framed other framed =>
      cases ready.symm.trans other
      exact ⟨_, _, framed, rfl, rfl⟩
  | flushed other | taken other | takenRaw other | decoded other
  | settled other | admitted other | unwrapped other | evaluated other =>
      cases ready.symm.trans other

theorem of_writing {task : Task} {header : Option RequestHeader}
    (moves : exchange.Moves point events next)
    (writing : point.activity = .writing task header) :
    events = [.flushed] ∧
      next = { point with activity := .awaiting task header } := by
  cases moves with
  | flushed other =>
      cases writing.symm.trans other
      exact ⟨rfl, rfl⟩
  | framed other | taken other | takenRaw other | decoded other
  | settled other | admitted other | unwrapped other | evaluated other =>
      cases writing.symm.trans other

/-- What follows once a frame is taken: a raw one is a challenge. -/
theorem of_awaiting {task : Task} {header : Option RequestHeader}
    (moves : exchange.Moves point events next)
    (awaiting : point.activity = .awaiting task header) :
    ∃ payload,
      events = [.taken payload] ∧
        next =
          { point with activity := .afterTaking task header payload } := by
  cases moves with
  | taken other payload =>
      cases awaiting.symm.trans other
      exact ⟨payload, rfl, rfl⟩
  | takenRaw other payload =>
      cases awaiting.symm.trans other
      exact ⟨payload, rfl, rfl⟩
  | framed other | flushed other | decoded other
  | settled other | admitted other | unwrapped other | evaluated other =>
      cases awaiting.symm.trans other

theorem of_received {task : Task} {header : RequestHeader} {payload : Bytes}
    (moves : exchange.Moves point events next)
    (received : point.activity = .received task header payload) :
    ∃ response,
      Response.ofPayload header payload = .ok response ∧
        events = [.decoded header response] ∧
        next = { point with activity := .answered task response } := by
  cases moves with
  | decoded other decoded =>
      cases received.symm.trans other
      exact ⟨_, decoded, rfl, rfl⟩
  | framed other | flushed other | taken other | takenRaw other
  | settled other | admitted other | unwrapped other | evaluated other =>
      cases received.symm.trans other

/-- A response is acted upon only if it reports no error. -/
theorem of_answered {task : Task} {response : Response}
    (moves : exchange.Moves point events next)
    (answered : point.activity = .answered task response) :
    response.error = .none ∧ events = [] ∧
      ((∃ content, response = .apiVersions content ∧
          next =
            { point with
              terms := .ofResponse content
              activity := .ready .handshake }) ∨
        (∃ content, response = .saslHandshake content ∧
          next = { point with activity := .challenged [] }) ∨
        ∃ content, response = .saslAuthenticate content ∧
          next = { point with activity := .challenged content.token }) := by
  cases moves with
  | settled other succeeded =>
      cases answered.symm.trans other
      exact ⟨succeeded, rfl, Or.inl ⟨_, rfl, rfl⟩⟩
  | admitted other succeeded =>
      cases answered.symm.trans other
      exact ⟨succeeded, rfl, Or.inr (Or.inl ⟨_, rfl, rfl⟩)⟩
  | unwrapped other succeeded =>
      cases answered.symm.trans other
      exact ⟨succeeded, rfl, Or.inr (Or.inr ⟨_, rfl, rfl⟩)⟩
  | framed other | flushed other | taken other | takenRaw other
  | decoded other | evaluated other =>
      cases answered.symm.trans other

theorem of_challenged {challenge : Bytes}
    (moves : exchange.Moves point events next)
    (challenged : point.activity = .challenged challenge) :
    Mechanism.isComplete point.client = false ∧
      ∃ outcome client,
        Mechanism.evaluate point.client challenge = (outcome, client) ∧
          events = [.evaluated challenge outcome] ∧
          next =
            { point with
              client := client
              activity := .afterEvaluation outcome } := by
  cases moves with
  | evaluated other incomplete evaluated =>
      cases challenged.symm.trans other
      exact ⟨incomplete, _, _, evaluated, rfl, rfl⟩
  | framed other | flushed other | taken other | takenRaw other
  | decoded other | settled other | admitted other | unwrapped other =>
      cases challenged.symm.trans other

/-- An exchange that is silent or refused goes no further. -/
theorem not_of_over (ended : point.activity = .silent ∨ point.activity = .refused) :
    ¬ exchange.Moves point events next := by
  intro moves
  rcases ended with silent | refused
  · cases moves with
    | framed other | flushed other | taken other | takenRaw other
    | decoded other | settled other | admitted other | unwrapped other
    | evaluated other =>
        cases silent.symm.trans other
  · cases moves with
    | framed other | flushed other | taken other | takenRaw other
    | decoded other | settled other | admitted other | unwrapped other
    | evaluated other =>
        cases refused.symm.trans other

/-- Whether a payload is taken depends on the point alone. -/
theorem length_payloads_eq (moves : exchange.Moves point events next) :
    (payloads events).length = if point.activity.isAwaiting then 1 else 0 := by
  cases moves with
  | framed current | flushed current | taken current | takenRaw current
  | decoded current | settled current | admitted current | unwrapped current
  | evaluated current =>
      rw [current]
      rfl

/-- With the same payload taken there is at most one move. -/
theorem unique {other : Point} {otherEvents : List Event}
    (moves : exchange.Moves point events next)
    (otherMoves : exchange.Moves point otherEvents other)
    (sameTaken : payloads events = payloads otherEvents) :
    events = otherEvents ∧ next = other := by
  cases activity : point.activity with
  | ready task =>
      obtain ⟨header, frame, framed, rfl, rfl⟩ := moves.of_ready activity
      obtain ⟨otherHeader, otherFrame, otherFramed, rfl, rfl⟩ :=
        otherMoves.of_ready activity
      cases framed.unique otherFramed
      exact ⟨rfl, rfl⟩
  | writing task header =>
      obtain ⟨rfl, rfl⟩ := moves.of_writing activity
      obtain ⟨rfl, rfl⟩ := otherMoves.of_writing activity
      exact ⟨rfl, rfl⟩
  | awaiting task header =>
      obtain ⟨payload, rfl, rfl⟩ := moves.of_awaiting activity
      obtain ⟨otherPayload, rfl, rfl⟩ := otherMoves.of_awaiting activity
      cases sameTaken
      exact ⟨rfl, rfl⟩
  | received task header payload =>
      obtain ⟨response, decoded, rfl, rfl⟩ := moves.of_received activity
      obtain ⟨otherResponse, otherDecoded, rfl, rfl⟩ :=
        otherMoves.of_received activity
      cases decoded.symm.trans otherDecoded
      exact ⟨rfl, rfl⟩
  | answered task response =>
      obtain ⟨-, rfl, kinds⟩ := moves.of_answered activity
      obtain ⟨-, rfl, otherKinds⟩ := otherMoves.of_answered activity
      refine ⟨rfl, ?_⟩
      rcases kinds with ⟨content, rfl, rfl⟩ | ⟨content, rfl, rfl⟩ |
        ⟨content, rfl, rfl⟩ <;>
        rcases otherKinds with ⟨otherContent, same, rfl⟩ |
          ⟨otherContent, same, rfl⟩ | ⟨otherContent, same, rfl⟩ <;>
        cases same <;> rfl
  | challenged challenge =>
      obtain ⟨-, outcome, client, evaluated, rfl, rfl⟩ :=
        moves.of_challenged activity
      obtain ⟨-, otherOutcome, otherClient, otherEvaluated, rfl, rfl⟩ :=
        otherMoves.of_challenged activity
      cases evaluated.symm.trans otherEvaluated
      exact ⟨rfl, rfl⟩
  | silent =>
      exact (not_of_over (Or.inl activity) moves).elim
  | refused =>
      exact (not_of_over (Or.inr activity) moves).elim

end Exchange.Moves

namespace Exchange

variable {exchange : Exchange} {point between next last other : Point}
  {journal events later otherEvents : List Event}

/-! ## Whole courses -/

/-- The points that moves lead to, with the events on the way. -/
inductive Leads (exchange : Exchange) : Point → List Event → Point → Prop where
  | stay (point : Point) : Leads exchange point [] point
  | move {point next last : Point} {events later : List Event}
      (moves : exchange.Moves point events next)
      (leads : Leads exchange next later last) :
      Leads exchange point (events ++ later) last

theorem Leads.trans (leads : exchange.Leads point events between)
    (goesOn : exchange.Leads between later last) :
    exchange.Leads point (events ++ later) last := by
  induction leads with
  | stay =>
      exact goesOn
  | move moves _ inductionHypothesis =>
      rw [List.append_assoc]
      exact .move moves (inductionHypothesis goesOn)

/-- Of two lists one begins the other. -/
def Compared (first second : List Bytes) : Prop :=
  first <+: second ∨ second <+: first

theorem compared_append_iff {first second firstRest secondRest : List Bytes}
    (sameLength : first.length = second.length) :
    Compared (first ++ firstRest) (second ++ secondRest) ↔
      first = second ∧ Compared firstRest secondRest := by
  constructor
  · rintro (⟨rest, same⟩ | ⟨rest, same⟩)
    · rw [List.append_assoc] at same
      obtain ⟨rfl, rfl⟩ := List.append_inj same sameLength
      exact ⟨rfl, Or.inl (List.prefix_append _ _)⟩
    · rw [List.append_assoc] at same
      obtain ⟨rfl, rfl⟩ := List.append_inj same sameLength.symm
      exact ⟨rfl, Or.inr (List.prefix_append _ _)⟩
  · rintro ⟨rfl, compared⟩
    exact compared.imp (List.prefix_append_right_inj _).mpr
      (List.prefix_append_right_inj _).mpr

/-- If two courses take the same payloads, one of them goes on with the other. -/
theorem Leads.linear (leads : exchange.Leads point events last)
    (otherLeads : exchange.Leads point otherEvents other)
    (compared : Compared (payloads events) (payloads otherEvents)) :
    (∃ rest, otherEvents = events ++ rest ∧ exchange.Leads last rest other) ∨
      ∃ rest, events = otherEvents ++ rest ∧
        exchange.Leads other rest last := by
  induction leads generalizing otherEvents with
  | stay point =>
      exact Or.inl ⟨otherEvents, rfl, otherLeads⟩
  | @move point next last events later moves leads inductionHypothesis =>
      cases otherLeads with
      | stay =>
          exact Or.inr ⟨events ++ later, rfl, .move moves leads⟩
      | @move _ otherNext _ otherEvents otherLater otherMoves otherLeads =>
          have sameLength :
              (payloads events).length = (payloads otherEvents).length :=
            moves.length_payloads_eq.trans otherMoves.length_payloads_eq.symm
          rw [payloads_append, payloads_append,
            compared_append_iff sameLength] at compared
          obtain ⟨sameTaken, comparedLater⟩ := compared
          obtain ⟨rfl, rfl⟩ := moves.unique otherMoves sameTaken
          rcases inductionHypothesis otherLeads comparedLater with
            ⟨rest, rfl, goesOn⟩ | ⟨rest, rfl, goesOn⟩
          · exact Or.inl ⟨rest, (List.append_assoc ..).symm, goesOn⟩
          · exact Or.inr ⟨rest, (List.append_assoc ..).symm, goesOn⟩

/-! ## The end of a course -/

namespace Refuses

variable {held otherHeld rest otherRest : Bytes} {cause otherCause : SessionError}

/-- An exchange that is refused could only take the frame that is malformed. -/
theorem taken_of_moves (refuses : exchange.Refuses point journal held cause)
    (moves : exchange.Moves point events next) :
    ∃ payload failure,
      events = [.taken payload] ∧
        Incoming.IsMalformed exchange.config.maxReceiveSize held failure := by
  cases refuses with
  | unsendable ready asked refused =>
      obtain ⟨header, frame, framed, -, -⟩ := moves.of_ready ready
      exact (framed.toOutgoing_ne_error asked refused).elim
  | unsendableToken ready unwrapped refused =>
      obtain ⟨header, frame, framed, -, -⟩ := moves.of_ready ready
      exact (framed.ofPayload_ne_error unwrapped refused).elim
  | malformed awaiting malformed =>
      obtain ⟨payload, rfl, -⟩ := moves.of_awaiting awaiting
      exact ⟨payload, _, rfl, malformed⟩
  | undecodable received refused =>
      obtain ⟨response, decoded, -, -⟩ := moves.of_received received
      cases decoded.symm.trans refused
  | rejected answered rejected =>
      obtain ⟨succeeded, -, -⟩ := moves.of_answered answered
      exact (Response.error_ne_none_of_rejection rejected succeeded).elim
  | mechanism refused last =>
      exact (Moves.not_of_over (Or.inr refused) moves).elim

/-- At a point an exchange is refused in one way. -/
theorem unique (refuses : exchange.Refuses point journal held cause)
    (other : exchange.Refuses point journal otherHeld otherCause)
    (together : held ++ rest = otherHeld ++ otherRest) :
    held = otherHeld ∧ cause = otherCause := by
  cases refuses with
  | unsendable ready asked refused =>
      obtain ⟨rfl, ⟨request, otherAsked, otherRefused⟩ |
        ⟨token, failure, rfl, unwrapped, -, -⟩⟩ := other.of_ready ready
      · cases asked.symm.trans otherAsked
        cases refused.symm.trans otherRefused
        exact ⟨rfl, rfl⟩
      · rw [Task.request?, unwrapped] at asked
        cases asked
  | unsendableToken ready unwrapped refused =>
      obtain ⟨rfl, ⟨request, asked, -⟩ |
        ⟨token, failure, same, -, otherRefused, rfl⟩⟩ := other.of_ready ready
      · rw [Task.request?, unwrapped] at asked
        cases asked
      · cases same
        cases refused.symm.trans otherRefused
        exact ⟨rfl, rfl⟩
  | malformed awaiting malformed =>
      obtain ⟨failure, otherMalformed, rfl⟩ := other.of_awaiting awaiting
      obtain ⟨rfl, -⟩ := List.append_inj together
        (malformed.sized.trans otherMalformed.sized.symm)
      cases malformed.refused.symm.trans otherMalformed.refused
      exact ⟨rfl, rfl⟩
  | undecodable received refused =>
      obtain ⟨rfl, refusal, otherRefused, rfl⟩ := other.of_received received
      cases refused.symm.trans otherRefused
      exact ⟨rfl, rfl⟩
  | rejected answered rejected =>
      obtain ⟨rfl, otherRejected⟩ := other.of_answered answered
      cases rejected.symm.trans otherRejected
      exact ⟨rfl, rfl⟩
  | mechanism refused last =>
      obtain ⟨rfl, earlier, challenge, refusal, otherLast, rfl⟩ :=
        other.of_refused refused
      obtain ⟨-, sameEvent⟩ :=
        List.append_inj' (last.symm.trans otherLast) rfl
      cases sameEvent
      exact ⟨rfl, rfl⟩

end Refuses

end Exchange

/-- A script is a course from where the exchange begins. -/
theorem Script.leads {exchange : Exchange} {point : Point}
    {journal : List Event} (script : Script exchange point journal) :
    exchange.Leads exchange.start journal point := by
  induction script using Script.rec with
  | start =>
      exact .stay _
  | move script moves inductionHypothesis =>
      have single := Exchange.Leads.move moves (.stay _)
      rw [List.append_nil] at single
      exact inductionHypothesis.trans single

/-- Two scripts that take comparable payloads are one course. -/
theorem Script.linear {exchange : Exchange} {point other : Point}
    {journal otherJournal : List Event}
    (script : Script exchange point journal)
    (otherScript : Script exchange other otherJournal)
    (compared : Exchange.Compared (payloads journal) (payloads otherJournal)) :
    (∃ rest, otherJournal = journal ++ rest ∧
        exchange.Leads point rest other) ∨
      ∃ rest, journal = otherJournal ++ rest ∧
        exchange.Leads other rest point :=
  script.leads.linear otherScript.leads compared

end BrokerSession
