import BrokerSession.Proofs.Broker.Course
import BrokerSession.Proofs.Session.Usage

namespace BrokerSession

/-!
# Links on their course

Between the steps of a link the session, the broker and the bytes between them
agree on how far the exchange has come: what has come out of either pipe are
the frames of the rounds that are done, or a beginning of them.  Every step
keeps it so, whatever the schedule.
-/

open Journal Session

namespace Pipe

@[simp] theorem content_put (pipe : Pipe) (bytes : Bytes) :
    (pipe.put bytes).content = pipe.content ++ bytes :=
  (List.append_assoc ..).symm

/-- Bytes that come out are not lost. -/
@[simp] theorem content_advance (pipe : Pipe) (count : Nat) :
    (pipe.advance count).content = pipe.content := by
  rw [content, advance, List.append_assoc, List.take_append_drop]
  rfl

end Pipe

namespace Link

variable {link : Link} {payload rest : Bytes}

/-- Whether all of the next request has arrived at the broker. -/
def HasRequest (link : Link) : Prop :=
  ∃ payload rest,
    FrameCodec.unlimited.decode link.requests.waiting =
      .ok (some (payload, rest))

/-- A whole frame is taken out of the pipe, and its answer is put in. -/
theorem perform_serve
    (decoded :
      FrameCodec.unlimited.decode link.requests.waiting =
        .ok (some (payload, rest))) :
    link.perform .serve =
      { link with
        broker := (link.broker.handle payload).2
        requests :=
          { passed := link.requests.passed ++ FrameCodec.frame payload
            waiting := rest }
        answers := link.answers.put (link.broker.handle payload).1 } := by
  obtain ⟨-, waiting⟩ := FrameCodec.decode_eq_some decoded
  simp only [perform, decoded, Pipe.advance]
  rw [waiting, List.length_append, Nat.add_sub_cancel_right,
    List.take_left, List.drop_left]

/-- A broker waits for the rest of a frame. -/
theorem perform_serve_of_not_hasRequest (noRequest : ¬ link.HasRequest) :
    link.perform .serve = link := by
  rw [perform]
  split
  · next payload rest decoded =>
      exact (noRequest ⟨payload, rest, decoded⟩).elim
  · rfl

/-- What the session of a link started from, and what it was given since. -/
def origin (link : Link) (exchange : Exchange) : Origin where
  exchange := exchange
  base := []
  lead := link.requests.content
  arrived := link.answers.passed
  patient := True
  unasked := True

/-- A link whose broker has served the first rounds of a course. -/
structure Follows (link : Link) (exchange : Exchange) (broker : Broker)
    (rounds : List Round) (satisfied : Broker) : Prop where
  advances : Advances (link.origin exchange) link.session
  unforced : link.session.transport.IsUnforced
  served :
    ∃ done ahead,
      rounds = done ++ ahead ∧ broker.Handles done link.broker ∧
        link.broker.Handles ahead satisfied ∧
        link.requests.passed = Round.requestBytes done ∧
        link.answers.content = Round.answerBytes done

namespace Follows

variable {link next : Link} {exchange : Exchange} {broker satisfied : Broker}
  {rounds : List Round} {events : List Event} {last : Point}

/-- What has arrived is a beginning of the answers. -/
theorem arrived_prefix
    (follows : link.Follows exchange broker rounds satisfied) :
    (link.origin exchange).arrived <+: Round.answerBytes rounds := by
  obtain ⟨done, ahead, rfl, -, -, -, answers⟩ := follows.served
  rw [Round.answerBytes_append, ← answers, Pipe.content, List.append_assoc]
  exact List.prefix_append _ _

/-- What the transport has accepted is a beginning of the requests. -/
theorem accepted_prefix
    (follows : link.Follows exchange broker rounds satisfied)
    (course : Course exchange broker rounds events last satisfied) :
    link.requests.content ++ link.accepted <+: Round.requestBytes rounds := by
  have leaves := (Sound.advances follows.advances).leaves
  obtain ⟨point, script⟩ := leaves.script
  obtain ⟨unsent, held, conserves⟩ := leaves.conserves
  obtain ⟨rest, same, -⟩ :=
    course.exists_rest follows.arrived_prefix script conserves
  have requests :
      Round.requestBytes rounds =
        link.requests.content ++ link.accepted ++ unsent ++
          (frames rest).flatten :=
    course.requestBytes_eq same conserves
  rw [requests, List.append_assoc _ unsent]
  exact List.prefix_append _ _

theorem content_prefix
    (follows : link.Follows exchange broker rounds satisfied)
    (course : Course exchange broker rounds events last satisfied) :
    link.requests.content <+: Round.requestBytes rounds :=
  (List.prefix_append _ _).trans (follows.accepted_prefix course)

/-! ## Steps -/

/-- A step on the transport, which the pipes keep account of. -/
theorem move (follows : link.Follows exchange broker rounds satisfied)
    (step : Transport.Step) (patient : step.isPatient = true)
    (moved : next.session = (link.onTransport step).session)
    (unforced : next.session.transport.IsUnforced)
    (accepted :
      next.requests.content =
        link.requests.content ++
          (link.session.transport.perform step).1.getD [])
    (arrived : next.answers.passed = link.answers.passed ++ step.arriving)
    (sameBroker : next.broker = link.broker)
    (sameServed : next.requests.passed = link.requests.passed)
    (sameAnswers : next.answers.content = link.answers.content) :
    next.Follows exchange broker rounds satisfied where
  advances := by
    have isOrigin :
        (link.origin exchange).after
            ((link.session.transport.perform step).1.getD [])
            [.transport step] =
          next.origin exchange := by
      simp [Origin.after, origin, accepted, arrived, Operation.arriving,
        Operation.isPatient, patient]
    rw [← isOrigin, moved]
    exact follows.advances.move step
  unforced := unforced
  served := by
    rw [sameBroker, sameServed, sameAnswers]
    exact follows.served

/-- The owner's call. -/
theorem call (follows : link.Follows exchange broker rounds satisfied)
    (course : Course exchange broker rounds events last satisfied) :
    link.session.authenticate.1 = .ok () ∧
      (link.perform .call).Follows exchange broker rounds satisfied := by
  obtain ⟨succeeds, advances⟩ :=
    course.authenticate trivial follows.arrived_prefix follows.advances
  exact ⟨succeeds,
    { advances := advances
      unforced := link.session.uses_authenticate.isUnforced follows.unforced
      served := follows.served }⟩

/-- A whole frame in front of the broker is the next request of the course. -/
theorem exists_round
    (follows : link.Follows exchange broker rounds satisfied)
    (course : Course exchange broker rounds events last satisfied)
    {payload rest : Bytes}
    (decoded :
      FrameCodec.unlimited.decode link.requests.waiting =
        .ok (some (payload, rest))) :
    ∃ done round ahead,
      rounds = done ++ round :: ahead ∧ round.request = payload ∧
        broker.Handles done link.broker ∧
        link.broker.Handles (round :: ahead) satisfied ∧
        link.requests.passed = Round.requestBytes done ∧
        link.answers.content = Round.answerBytes done := by
  obtain ⟨done, ahead, isSplit, served, later, passed, answered⟩ :=
    follows.served
  obtain ⟨-, waiting⟩ := FrameCodec.decode_eq_some decoded
  obtain ⟨more, contents⟩ := follows.content_prefix course
  rw [isSplit, Round.requestBytes_append, Pipe.content, passed, waiting,
    List.append_assoc, List.append_assoc, List.append_cancel_left_eq]
    at contents
  cases ahead with
  | nil =>
      exact (FrameCodec.frame_ne_nil payload
        (List.append_eq_nil_iff.mp contents).1).elim
  | cons round ahead =>
      have sendable :=
        course.passage.sendable round (by rw [isSplit]; simp)
      have isPayload :=
        (FrameCodec.takes_of_decode decoded).eq_of_append_eq sendable contents
      exact ⟨done, round, ahead, isSplit, isPayload.1.symm, served, later,
        passed, answered⟩

/-- The broker's answer to the next request. -/
theorem serve (follows : link.Follows exchange broker rounds satisfied)
    (course : Course exchange broker rounds events last satisfied) :
    (link.perform .serve).Follows exchange broker rounds satisfied := by
  by_cases hasRequest : link.HasRequest
  · obtain ⟨payload, rest, decoded⟩ := hasRequest
    obtain ⟨done, round, ahead, isSplit, rfl, served, later, passed,
      answered⟩ := follows.exists_round course decoded
    cases later with
    | @round _ between _ _ _ read handled later =>
        rw [perform_serve decoded, handled]
        constructor
        case advances =>
          have sameContent :
              link.requests.passed ++ FrameCodec.frame round.request ++ rest =
                link.requests.content := by
            rw [Pipe.content, (FrameCodec.decode_eq_some decoded).2,
              List.append_assoc]
          have advances := follows.advances
          rw [origin, ← sameContent] at advances
          exact advances
        case unforced =>
          exact follows.unforced
        case served =>
          refine ⟨done ++ [round], ahead, ?_,
            served.append (.round read handled (.nothing between)), later, ?_,
            ?_⟩
          · rw [isSplit, List.append_assoc]
            rfl
          · rw [Round.requestBytes_append, passed, Round.requestBytes_singleton]
          · rw [Pipe.content_put, answered, Round.answerBytes_append,
              Round.answerBytes_singleton]
  · rw [perform_serve_of_not_hasRequest hasRequest]
    exact follows

theorem perform (follows : link.Follows exchange broker rounds satisfied)
    (course : Course exchange broker rounds events last satisfied)
    (step : Step) :
    (link.perform step).Follows exchange broker rounds satisfied := by
  cases step with
  | call =>
      exact (follows.call course).2
  | serve =>
      exact follows.serve course
  | carry =>
      exact follows.move .take rfl rfl ⟨follows.unforced.1, follows.unforced.2⟩
        (Pipe.content_put _ _) (List.append_nil _).symm rfl rfl rfl
  | deliver count =>
      exact follows.move (.push _) rfl rfl
        ⟨follows.unforced.1, follows.unforced.2⟩ (List.append_nil _).symm rfl
        rfl rfl (Pipe.content_advance _ _)
  | readBudget budget =>
      exact follows.move (.readBudget budget) rfl rfl
        ⟨follows.unforced.1, follows.unforced.2⟩ (List.append_nil _).symm
        (List.append_nil _).symm rfl rfl rfl
  | writeBudget budget =>
      exact follows.move (.writeBudget budget) rfl rfl
        ⟨follows.unforced.1, follows.unforced.2⟩ (List.append_nil _).symm
        (List.append_nil _).symm rfl rfl rfl

/-! ## Schedules -/

/-- Nothing has gone wrong before the first step. -/
theorem start (course : Course exchange broker rounds events last satisfied)
    (fresh : exchange.client.IsFresh) (subject : Subject) :
    (Link.start exchange.config exchange.node exchange.host subject
      exchange.client broker).Follows exchange broker rounds satisfied where
  advances := by
    have sound :=
      sound_start exchange.config exchange.node exchange.host subject {} fresh
    have isOrigin :
        Session.Origin.start exchange.config exchange.node exchange.host
            exchange.client {} =
          (Link.start exchange.config exchange.node exchange.host subject
            exchange.client broker).origin exchange := by
      have patient : ({} : Transport).IsPatient :=
        ⟨rfl, List.forall_mem_nil _, List.forall_mem_nil _⟩
      simp [Origin.start, origin, Link.start, Pipe.content, patient]
    rw [isOrigin] at sound
    cases sound with
    | advances advances =>
        exact advances
    | failed failed =>
        have stage := failed.stage
        rw [Session.start, Stage.first] at stage
        split at stage <;> cases stage
  unforced := ⟨rfl, rfl⟩
  served :=
    ⟨[], rounds, rfl, .nothing broker, course.passage.handles, rfl, rfl⟩

/-- Every schedule keeps a link on its course. -/
theorem after (follows : link.Follows exchange broker rounds satisfied)
    (course : Course exchange broker rounds events last satisfied)
    (schedule : Nat → Step) (time : Nat) :
    (link.after schedule time).Follows exchange broker rounds satisfied := by
  induction time with
  | zero =>
      exact follows
  | succ time inductionHypothesis =>
      exact inductionHypothesis.perform course (schedule time)

end Follows

end Link

end BrokerSession
