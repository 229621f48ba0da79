import BrokerSession.Proofs.Broker.Passage
import BrokerSession.Proofs.Session.Confluence

namespace BrokerSession

/-!
# Sessions on the course of an exchange with a broker

A session that is given nothing but the broker's answers goes the course that
the broker goes along with.  As long as the transport only delays, no call on
such a session fails, and once the session is complete it has come to the end
of the course.
-/

open Journal Session

/-- A course with a broker to the end of both sides. -/
structure Course (exchange : Exchange) (broker : Broker) (rounds : List Round)
    (events : List Event) (last : Point) (satisfied : Broker) : Prop where
  passage :
    Passage exchange exchange.start broker rounds events last satisfied
  ended : last.HasEnded
  enabled : exchange.config.handshakeRequestEnable = true
  /-- Tokens are wrapped. -/
  wrapped : last.terms.authenticateVersion.isSome = true

namespace Round

/-- The frames of the requests of some rounds. -/
def requestBytes (rounds : List Round) : Bytes :=
  (rounds.map fun round => FrameCodec.frame round.request).flatten

/-- The frames of the answers of some rounds. -/
def answerBytes (rounds : List Round) : Bytes :=
  (rounds.map fun round => FrameCodec.frame round.answer).flatten

@[simp] theorem requestBytes_singleton (round : Round) :
    requestBytes [round] = FrameCodec.frame round.request :=
  List.append_nil _

@[simp] theorem answerBytes_singleton (round : Round) :
    answerBytes [round] = FrameCodec.frame round.answer :=
  List.append_nil _

@[simp] theorem requestBytes_append (rounds later : List Round) :
    requestBytes (rounds ++ later) = requestBytes rounds ++ requestBytes later := by
  simp [requestBytes]

@[simp] theorem answerBytes_append (rounds later : List Round) :
    answerBytes (rounds ++ later) = answerBytes rounds ++ answerBytes later := by
  simp [answerBytes]

end Round

/-- A course from where a script has come to makes a longer script. -/
theorem Exchange.Leads.script {exchange : Exchange} {point next : Point}
    {events : List Event} (leads : exchange.Leads point events next)
    {journal : List Event} (script : Script exchange point journal) :
    Script exchange next (journal ++ events) := by
  induction leads generalizing journal with
  | stay =>
      rw [List.append_nil]
      exact script
  | move moves _ inductionHypothesis =>
      rw [← List.append_assoc]
      exact inductionHypothesis (script.move moves)

namespace Course

variable {origin : Origin} {broker satisfied : Broker} {rounds : List Round}
  {events journal : List Event} {last point : Point}
  {session : Session SaslClient} {outbound inbound unsent held : Bytes}

theorem answerBytes_eq
    (course : Course origin.exchange broker rounds events last satisfied) :
    Round.answerBytes rounds =
      ((payloads events).map FrameCodec.frame).flatten := by
  rw [course.passage.payloads, List.map_map]
  rfl

theorem takes
    (course : Course origin.exchange broker rounds events last satisfied) :
    ∀ payload ∈ payloads events,
      FrameCodec.Takes ⟨origin.exchange.config.maxReceiveSize⟩ payload := by
  rw [course.passage.payloads]
  exact List.forall_mem_map.mpr course.passage.receivable

/-- With a beginning of the answers a session goes a beginning of the course. -/
theorem exists_rest
    (course : Course origin.exchange broker rounds events last satisfied)
    (expected : origin.arrived <+: Round.answerBytes rounds)
    (script : Script origin.exchange point journal)
    (conserves : Conserves origin outbound inbound journal unsent held) :
    ∃ rest,
      events = journal ++ rest ∧ origin.exchange.Leads point rest last := by
  obtain ⟨more, expected⟩ := expected
  have same :
      ((payloads journal).map FrameCodec.frame).flatten ++
          (held ++ inbound ++ more) =
        ((payloads events).map FrameCodec.frame).flatten ++ [] := by
    rw [← course.answerBytes_eq, ← expected, conserves.received]
    simp only [List.append_assoc, List.append_nil]
  have compared :=
    FrameCodec.prefix_or_prefix_of_flatten_eq conserves.takes course.takes same
  rcases script.leads.linear course.passage.leads compared with
    goesOn | ⟨rest, further, leads⟩
  · exact goesOn
  · cases leads with
    | stay =>
        exact ⟨[], by rw [further, List.append_nil, List.append_nil], .stay _⟩
    | move moves =>
        exact (course.ended.not_moves moves).elim

/-- A session that awaits an answer has had those to all earlier requests. -/
theorem exists_open
    (course : Course origin.exchange broker rounds events last satisfied)
    (expected : origin.arrived <+: Round.answerBytes rounds)
    (script : Script origin.exchange point journal)
    (conserves : Conserves origin outbound inbound journal unsent held)
    (isAwaiting : point.activity.isAwaiting = true) :
    ∃ answered round others,
      rounds = (answered ++ [round]) ++ others ∧
        payloads journal = answered.map Round.answer ∧
        frames journal =
          (answered ++ [round]).map fun round =>
            FrameCodec.frame round.request := by
  obtain ⟨rest, same, leads⟩ := course.exists_rest expected script conserves
  cases leads with
  | stay =>
      cases course.ended with
      | silent current | challenged _ _ current =>
          rw [current] at isAwaiting
          cases isAwaiting
  | @move _ next _ first later moves leads =>
      have one := moves.length_payloads_eq
      rw [if_pos isAwaiting] at one
      obtain ⟨payload, isNext⟩ := List.length_eq_one_iff.mp one
      have answers :
          rounds.map Round.answer =
            payloads journal ++ payload :: payloads later := by
        rw [← course.passage.payloads, same, payloads_append, payloads_append,
          isNext]
        rfl
      obtain ⟨answered, others, isSplit, areAnswered, isNextRound⟩ :=
        List.map_eq_append_iff.mp answers
      obtain ⟨round, others, rfl, -, -⟩ := List.map_eq_cons_iff.mp isNextRound
      rw [List.append_cons] at isSplit
      refine ⟨answered, round, others, isSplit, areAnswered.symm, ?_⟩
      have requests := course.passage.frames
      rw [same, frames_append, isSplit, List.map_append] at requests
      refine List.append_inj_left requests ?_
      rw [script.length_frames_eq, ← areAnswered, isAwaiting, Bool.or_true]
      simp

/-- A session that is given the broker's answers has no reason to fail. -/
theorem not_throws
    (course : Course origin.exchange broker rounds events last satisfied)
    (patient : origin.patient)
    (expected : origin.arrived <+: Round.answerBytes rounds)
    {cause : SessionError} : ¬ Throws origin cause session := by
  rintro ⟨point, unsent, held, script, conserves, stops⟩
  cases stops with
  | broken impatient =>
      exact impatient patient
  | refused refuses =>
      obtain ⟨rest, same, leads⟩ :=
        course.exists_rest expected script conserves
      cases leads with
      | stay =>
          exact course.ended.not_refuses refuses
      | @move _ next _ first later moves leads =>
          -- Only a malformed frame stops a session that could go on, but the
          -- frame that it reads is the next one of the course.
          obtain ⟨payload, failure, rfl, malformed⟩ :=
            refuses.taken_of_moves moves
          obtain ⟨more, expected⟩ := expected
          have taken :
              payloads events =
                payloads session.journal ++ payload :: payloads later := by
            rw [same, payloads_append]
            rfl
          have isNext :
              held ++ (session.transport.inbound ++ more) =
                FrameCodec.frame payload ++
                  ((payloads later).map FrameCodec.frame).flatten := by
            rw [course.answerBytes_eq, taken, conserves.received] at expected
            simpa using expected
          have takes := course.takes payload (by simp [taken])
          have refused :=
            malformed.decode_eq_error (session.transport.inbound ++ more)
          rw [isNext, takes.decode_eq] at refused
          cases refused

/-- No call on a session that is given the broker's answers fails. -/
theorem authenticate
    (course : Course origin.exchange broker rounds events last satisfied)
    (patient : origin.patient)
    (expected : origin.arrived <+: Round.answerBytes rounds)
    (advances : Advances origin session) :
    session.authenticate.1 = .ok () ∧
      Advances origin session.authenticate.2 := by
  rcases advances.authenticate with succeeds | ⟨cause, -, throws, -⟩
  · exact succeeds
  · exact (course.not_throws patient expected throws).elim

/-- What a session has made are frames of requests, in their order. -/
theorem requestBytes_eq
    (course : Course origin.exchange broker rounds events last satisfied)
    {rest : List Event} (same : events = journal ++ rest)
    (conserves : Conserves origin outbound inbound journal unsent held) :
    origin.base ++ Round.requestBytes rounds =
      origin.lead ++ outbound ++ unsent ++ (frames rest).flatten := by
  have frames : Journal.frames events = Journal.frames journal ++ Journal.frames rest := by
    rw [same, frames_append]
  rw [course.passage.frames] at frames
  rw [Round.requestBytes, frames, List.flatten_append, conserves.sent]
  simp only [List.append_assoc]

/-- What is agreed upon stays agreed. -/
theorem terms_eq_of_isAgreed {config : Config} {terms laterTerms : Terms}
    {rest : List Event} (agreed : Script.IsAgreed config terms journal)
    (stillAgreed : Script.IsAgreed config laterTerms (journal ++ rest)) :
    terms = laterTerms := by
  obtain ⟨payload, others, response, first, decoded, -, rfl⟩ := agreed
  obtain ⟨otherPayload, laterOthers, other, laterFirst, otherDecoded, -, rfl⟩ :=
    stillAgreed
  rw [payloads_append, first] at laterFirst
  cases laterFirst
  cases decoded.symm.trans otherDecoded
  rfl

/-- A complete session has come to the end of the course. -/
theorem journal_eq
    (course : Course origin.exchange broker rounds events last satisfied)
    (expected : origin.arrived <+: Round.answerBytes rounds)
    (finished : Finished origin session) : session.journal = events := by
  obtain ⟨point, held, script, -, complete, final, conserves, -⟩ :=
    finished.ending
  obtain ⟨rest, same, leads⟩ := course.exists_rest expected script conserves
  cases leads with
  | stay =>
      rw [same, List.append_nil]
  | move moves leads =>
      exfalso
      have fits := script.headerFits
      have opens := script.opens
      unfold Script.Opens at opens
      generalize activity : point.activity = current at final fits opens
      cases final with
      | silent =>
          exact Exchange.Moves.not_of_over (Or.inl activity) moves
      | challenged challenge =>
          cases (moves.of_challenged activity).1.symm.trans complete
      | awaiting token =>
          -- A raw token is at odds with what the course agrees upon.
          have lastScript := course.passage.leads.script .start
          have lastOpens := lastScript.opens
          have agreed := opens course.enabled
          have lastAgreed :
              Script.IsAgreed origin.exchange.config last.terms events := by
            unfold Script.Opens at lastOpens
            cases course.ended with
            | silent silent =>
                rw [silent] at lastOpens
                exact lastOpens course.enabled
            | challenged challenge _ challenged =>
                rw [challenged] at lastOpens
                exact lastOpens course.enabled
          rw [same] at lastAgreed
          have wrapped := course.wrapped
          rw [← terms_eq_of_isAgreed agreed lastAgreed] at wrapped
          have unwrapped : false = point.terms.authenticateVersion.isSome :=
            fits.1
          cases unwrapped.trans wrapped

/-- To a complete session all answers have arrived. -/
theorem arrived_eq
    (course : Course origin.exchange broker rounds events last satisfied)
    (expected : origin.arrived <+: Round.answerBytes rounds)
    (finished : Finished origin session) :
    origin.arrived = Round.answerBytes rounds := by
  obtain ⟨held, conserves⟩ := finished.conserves
  have received := conserves.received
  rw [course.journal_eq expected finished, ← course.answerBytes_eq,
    List.append_assoc] at received
  refine expected.eq_of_length_le ?_
  rw [received, List.length_append]
  exact Nat.le_add_right _ _

end Course

end BrokerSession
