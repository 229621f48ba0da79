import BrokerSession.Proofs.Broker.Link
import BrokerSession.Proofs.Session.Quiescence

namespace BrokerSession

/-!
# Progress of a link

Nothing that was done on a link is undone: events are noted, and bytes move on
towards the end that reads them.  A course bounds how much there is to do, so
that in the end no step does anything more.  As long as its session is not
complete, though, there is always a step that does.
-/

open Journal Session

/-- A pipe is known by what was put in and by what has come out. -/
theorem Pipe.eq_of_content_eq {pipe other : Pipe}
    (contents : pipe.content = other.content)
    (passed : pipe.passed = other.passed) : pipe = other := by
  obtain ⟨_, waiting⟩ := pipe
  obtain ⟨_, otherWaiting⟩ := other
  cases passed
  have same : waiting = otherWaiting := List.append_cancel_left contents
  rw [same]

namespace Link

/-- The number of bytes that the session has read. -/
def consumed (link : Link) : Nat :=
  link.answers.passed.length - link.session.transport.inbound.length

/-- What was done on a link stays done. -/
structure Onward (before after : Link) : Prop where
  noted : before.session.journal <+: after.session.journal
  accepted :
    before.requests.content ++ before.accepted <+:
      after.requests.content ++ after.accepted
  carried : before.requests.content <+: after.requests.content
  served : before.requests.passed <+: after.requests.passed
  answered : before.answers.content <+: after.answers.content
  delivered : before.answers.passed <+: after.answers.passed
  consumed : before.consumed ≤ after.consumed

namespace Onward

variable {before between after : Link}

/-- What was done on a link is done on it. -/
theorem refl (link : Link) : link.Onward link where
  noted := List.prefix_rfl
  accepted := List.prefix_rfl
  carried := List.prefix_rfl
  served := List.prefix_rfl
  answered := List.prefix_rfl
  delivered := List.prefix_rfl
  consumed := Nat.le_refl _

/-- What stays done at two steps stays done at both of them. -/
theorem trans (earlier : before.Onward between)
    (later : between.Onward after) : before.Onward after where
  noted := earlier.noted.trans later.noted
  accepted := earlier.accepted.trans later.accepted
  carried := earlier.carried.trans later.carried
  served := earlier.served.trans later.served
  answered := earlier.answered.trans later.answered
  delivered := earlier.delivered.trans later.delivered
  consumed := Nat.le_trans earlier.consumed later.consumed

end Onward

/-- A call undoes nothing of what was done. -/
theorem onward_call (link : Link) : link.Onward (link.perform .call) := by
  have uses := link.session.uses_authenticate
  obtain ⟨events, journal, -, -⟩ := link.session.extends_authenticate
  exact
    { Onward.refl link with
      noted := ⟨events, journal.symm⟩
      accepted := (List.prefix_append_right_inj _).mpr uses.outbound_prefix
      consumed := Nat.sub_le_sub_left uses.inbound_suffix.length_le _ }

/-- To carry bytes over undoes nothing. -/
theorem onward_carry (link : Link) : link.Onward (link.perform .carry) := by
  have content :
      (link.perform .carry).requests.content =
        link.requests.content ++ link.accepted :=
    Pipe.content_put _ _
  refine { Onward.refl link with accepted := ?_, carried := ?_ }
  · rw [content]
    exact List.prefix_append _ _
  · rw [content]
    exact List.prefix_append _ _

/-- To serve a request undoes nothing. -/
theorem onward_serve (link : Link) : link.Onward (link.perform .serve) := by
  by_cases hasRequest : link.HasRequest
  · obtain ⟨payload, rest, decoded⟩ := hasRequest
    obtain ⟨-, waiting⟩ := FrameCodec.decode_eq_some decoded
    have content :
        link.requests.content =
          link.requests.passed ++ FrameCodec.frame payload ++ rest := by
      rw [Pipe.content, waiting, List.append_assoc]
    rw [perform_serve decoded]
    refine
      { Onward.refl link with
        accepted := ?_, carried := ?_, served := ?_, answered := ?_ }
    · rw [content]
      exact List.prefix_rfl
    · rw [content]
      exact List.prefix_rfl
    · exact List.prefix_append _ _
    · rw [Pipe.content_put]
      exact List.prefix_append _ _
  · rw [perform_serve_of_not_hasRequest hasRequest]
    exact .refl link

/-- To deliver answers undoes nothing. -/
theorem onward_deliver (link : Link) (count : Nat) :
    link.Onward (link.perform (.deliver count)) := by
  refine
    { Onward.refl link with answered := ?_, delivered := ?_, consumed := ?_ }
  · have content :
        (link.perform (.deliver count)).answers.content =
          link.answers.content :=
      Pipe.content_advance _ _
    exact ⟨[], (List.append_nil _).trans content.symm⟩
  · exact List.prefix_append _ _
  · have passed :
        (link.perform (.deliver count)).answers.passed.length =
          link.answers.passed.length +
            (link.answers.waiting.take count).length :=
      List.length_append
    have inbound :
        (link.perform (.deliver count)).session.transport.inbound.length =
          link.session.transport.inbound.length +
            (link.answers.waiting.take count).length :=
      List.length_append
    refine Nat.le_of_eq ?_
    rw [consumed, consumed, passed, inbound, Nat.add_sub_add_right]

/-- No step takes a link back. -/
theorem onward_perform (link : Link) (step : Step) :
    link.Onward (link.perform step) := by
  cases step with
  | call =>
      exact link.onward_call
  | carry =>
      exact link.onward_carry
  | serve =>
      exact link.onward_serve
  | deliver count =>
      exact link.onward_deliver count
  | readBudget | writeBudget =>
      exact { Onward.refl link with }

/-- A later link is onward from an earlier one. -/
theorem onward_after (link : Link) (schedule : Nat → Step) {time later : Nat}
    (order : time ≤ later) :
    (link.after schedule time).Onward (link.after schedule later) := by
  induction order with
  | refl =>
      exact .refl _
  | step _ inductionHypothesis =>
      exact inductionHypothesis.trans (onward_perform _ _)

/-! ## Standing still -/

/-- What was done on a link so far, counted. -/
def progress (link : Link) : Nat :=
  link.session.journal.length +
    (link.requests.content ++ link.accepted).length +
    link.requests.content.length + link.requests.passed.length +
    link.answers.content.length + link.answers.passed.length + link.consumed

/-- Two links on which the same was done. -/
structure Alike (link other : Link) : Prop where
  noted : link.session.journal = other.session.journal
  accepted : link.accepted = other.accepted
  requests : link.requests = other.requests
  answers : link.answers = other.answers
  consumed : link.consumed = other.consumed

namespace Alike

variable {link other later : Link}

/-- Links are alike in both directions. -/
theorem symm (alike : link.Alike other) : other.Alike link where
  noted := alike.noted.symm
  accepted := alike.accepted.symm
  requests := alike.requests.symm
  answers := alike.answers.symm
  consumed := alike.consumed.symm

/-- Links that are alike to one link are alike. -/
theorem trans (alike : link.Alike other) (further : other.Alike later) :
    link.Alike later where
  noted := alike.noted.trans further.noted
  accepted := alike.accepted.trans further.accepted
  requests := alike.requests.trans further.requests
  answers := alike.answers.trans further.answers
  consumed := alike.consumed.trans further.consumed

end Alike

/-- Without more done than before nothing was done. -/
theorem Onward.alike {before after : Link} (onward : before.Onward after)
    (noMore : after.progress ≤ before.progress) : before.Alike after := by
  have noted := onward.noted.length_le
  have accepted := onward.accepted.length_le
  have carried := onward.carried.length_le
  have served := onward.served.length_le
  have answered := onward.answered.length_le
  have delivered := onward.delivered.length_le
  have consumed := onward.consumed
  rw [progress, progress] at noMore
  have sameRequests := onward.carried.eq_of_length (by omega)
  have sameAccepted := onward.accepted.eq_of_length (by omega)
  rw [sameRequests, List.append_cancel_left_eq] at sameAccepted
  exact
    { noted := onward.noted.eq_of_length (by omega)
      accepted := sameAccepted
      requests :=
        Pipe.eq_of_content_eq sameRequests (onward.served.eq_of_length (by omega))
      answers :=
        Pipe.eq_of_content_eq (onward.answered.eq_of_length (by omega))
          (onward.delivered.eq_of_length (by omega))
      consumed := by omega }

/-- A link on which nothing but a call can do anything more. -/
structure IsIdle (link : Link) : Prop where
  carried : link.accepted = []
  served : ¬ link.HasRequest
  delivered : link.answers.waiting = []

variable {link : Link}

/-- If carrying changes nothing, there is nothing to be carried. -/
theorem accepted_eq_nil (alike : link.Alike (link.perform .carry)) :
    link.accepted = [] := by
  have content :
      link.requests.content = link.requests.content ++ link.accepted :=
    (congrArg Pipe.content alike.requests).trans (Pipe.content_put _ _)
  exact List.self_eq_append_right.mp content

/-- If serving changes nothing, there is no request to be served. -/
theorem not_hasRequest (alike : link.Alike (link.perform .serve)) :
    ¬ link.HasRequest := by
  rintro ⟨payload, rest, decoded⟩
  have requests := alike.requests
  rw [perform_serve decoded] at requests
  have passed := congrArg Pipe.passed requests
  exact FrameCodec.frame_ne_nil payload (List.self_eq_append_right.mp passed)

/-- If delivering changes nothing, no answer is waiting. -/
theorem waiting_eq_nil {count : Nat} (positive : 0 < count)
    (alike : link.Alike (link.perform (.deliver count))) :
    link.answers.waiting = [] := by
  have passed :
      link.answers.passed =
        link.answers.passed ++ link.answers.waiting.take count :=
    congrArg Pipe.passed alike.answers
  have taken := List.self_eq_append_right.mp passed
  rw [List.take_eq_nil_iff] at taken
  exact taken.resolve_left (Nat.ne_of_gt positive)

/-- Once nothing more is done, a fair schedule has left nothing to do. -/
theorem IsFair.isIdle {schedule : Nat → Step} {settled time : Nat}
    (fair : link.IsFair schedule)
    (still :
      ∀ time, settled ≤ time →
        (link.after schedule settled).Alike (link.after schedule time))
    (order : settled ≤ time) : (link.after schedule time).IsIdle := by
  have alike {other : Nat} (otherOrder : settled ≤ other) :
      (link.after schedule time).Alike (link.after schedule other) :=
    (still time order).symm.trans (still other otherOrder)
  have idles {other : Nat} (otherOrder : settled ≤ other) :
      (link.after schedule other).Alike
        ((link.after schedule other).perform (schedule other)) :=
    (still other otherOrder).symm.trans
      (still (other + 1) (Nat.le_succ_of_le otherOrder))
  constructor
  case carried =>
    obtain ⟨other, otherOrder, isCarry⟩ := fair.carries settled
    have idle := idles otherOrder
    rw [isCarry] at idle
    rw [(alike otherOrder).accepted]
    exact accepted_eq_nil idle
  case served =>
    obtain ⟨other, otherOrder, isServe⟩ := fair.serves settled
    have idle := idles otherOrder
    rw [isServe] at idle
    rw [HasRequest, (alike otherOrder).requests]
    exact not_hasRequest idle
  case delivered =>
    obtain ⟨other, count, otherOrder, positive, isDeliver⟩ :=
      fair.delivers settled
    have idle := idles otherOrder
    rw [isDeliver] at idle
    rw [(alike otherOrder).answers]
    exact waiting_eq_nil positive idle

namespace Follows

variable {exchange : Exchange} {broker satisfied : Broker}
  {rounds : List Round} {events : List Event} {last point : Point}

/-- A call that does nothing finds an open request and nothing to read. -/
theorem exists_awaiting
    (follows : link.Follows exchange broker rounds satisfied)
    (course : Course exchange broker rounds events last satisfied)
    (readUnlimited : link.session.transport.readBudget = none)
    (writeUnlimited : link.session.transport.writeBudget = none)
    (alike : link.Alike (link.perform .call)) :
    Finished (link.origin exchange) link.session ∨
      ∃ point,
        Tracks (link.origin exchange) link.session point ∧
          point.activity.isAwaiting = true ∧
          link.session.transport.inbound = [] := by
  have goesOn := (follows.call course).2
  rcases follows.advances with ⟨point, tracks, -, rests⟩ | finished
  · refine Or.inr ⟨point, tracks, ?_⟩
    have advanced :=
      tracks.advanced rests (tracks.patient trivial) readUnlimited
        writeUnlimited goesOn.advances.stage_ne_failed
    cases advanced with
    | notes notes =>
        rw [Notes, congrArg List.length alike.noted] at notes
        exact (Nat.lt_irrefl _ notes).elim
    | forced fewer =>
        rw [follows.unforced.writes] at fewer
        cases fewer
    | standsStill isAwaiting still =>
        refine ⟨isAwaiting, ?_⟩
        rcases still.drained with drained | fewer
        · have received :
              link.answers.passed =
                ((payloads link.session.journal).map
                    FrameCodec.frame).flatten ++ link.session.held ++
                  link.session.transport.inbound :=
            tracks.conserves.received
          have consumed := alike.consumed
          have nothing :
              (link.perform .call).session.transport.inbound = [] := drained
          rw [Link.consumed, Link.consumed, nothing,
            show (link.perform .call).answers = link.answers from rfl,
            received, List.length_append] at consumed
          refine List.length_eq_zero_iff.mp ?_
          rw [List.length_nil] at consumed
          omega
        · rw [follows.unforced.reads] at fewer
          cases fewer
  · exact Or.inl finished

/-- What is behind the rounds that are done waits to be served. -/
theorem exists_done
    (follows : link.Follows exchange broker rounds satisfied)
    (course : Course exchange broker rounds events last satisfied)
    (idle : link.IsIdle) {asked others : List Round}
    (isSplit : rounds = asked ++ others)
    (contents : link.requests.content = Round.requestBytes asked) :
    ∃ further,
      link.answers.passed = Round.answerBytes (asked ++ further) := by
  obtain ⟨done, ahead, alsoSplit, -, -, passed, answers⟩ := follows.served
  have isContent : link.answers.content = link.answers.passed := by
    rw [Pipe.content, idle.delivered, List.append_nil]
  rw [← isContent, answers]
  rcases List.append_eq_append_iff.mp (isSplit.symm.trans alsoSplit) with
    ⟨further, rfl, -⟩ | ⟨unserved, rfl, rfl⟩
  · exact ⟨further, rfl⟩
  · cases unserved with
    | nil =>
        exact ⟨[], by rw [List.append_nil, List.append_nil]⟩
    | cons round unserved =>
        rw [Round.requestBytes_append, Pipe.content, passed,
          List.append_cancel_left_eq] at contents
        have takes :=
          course.passage.sendable round (by rw [isSplit]; simp)
        exact (idle.served ⟨round.request, Round.requestBytes unserved,
          by rw [contents]; exact takes.decode_eq _⟩).elim

/-- On an idle link every request of an open session has been answered. -/
theorem not_awaiting
    (follows : link.Follows exchange broker rounds satisfied)
    (course : Course exchange broker rounds events last satisfied)
    (idle : link.IsIdle)
    (tracks : Tracks (link.origin exchange) link.session point)
    (drained : link.session.transport.inbound = []) :
    ¬ point.activity.isAwaiting = true := by
  intro isAwaiting
  have notWriting := Activity.isWriting_of_isAwaiting isAwaiting
  obtain ⟨answered, round, others, isSplit, areAnswered, areAsked⟩ :=
    course.exists_open follows.arrived_prefix tracks.script tracks.conserves
      isAwaiting
  have contents :
      link.requests.content = Round.requestBytes (answered ++ [round]) := by
    have sent :
        link.requests.content ++ link.accepted ++ link.session.unsent =
          [] ++ (frames link.session.journal).flatten :=
      tracks.conserves.sent
    rw [idle.carried, tracks.unsent_eq_nil notWriting, areAsked,
      List.append_nil, List.append_nil] at sent
    exact sent
  obtain ⟨further, passed⟩ :=
    follows.exists_done course idle isSplit contents
  have isHeld :
      link.session.held =
        FrameCodec.frame round.answer ++ Round.answerBytes further := by
    have received :
        link.answers.passed =
          ((payloads link.session.journal).map FrameCodec.frame).flatten ++
            link.session.held ++ link.session.transport.inbound :=
      tracks.conserves.received
    have earlier :
        ((answered.map Round.answer).map FrameCodec.frame).flatten =
          Round.answerBytes answered := by
      rw [List.map_map]
      rfl
    rw [passed, drained, areAnswered, earlier, List.append_nil,
      Round.answerBytes_append, Round.answerBytes_append,
      Round.answerBytes_singleton, List.append_assoc,
      List.append_cancel_left_eq] at received
    exact received.symm
  have takes :=
    course.passage.receivable round (by rw [isSplit]; simp)
  have undecided := tracks.abandons.undecided
  have decoded := takes.decode_eq (Round.answerBytes further)
  rw [← isHeld] at decoded
  cases undecided.symm.trans decoded

/-! ## Schedules -/

/-- A course bounds what there is to do on a link. -/
theorem progress_le (follows : link.Follows exchange broker rounds satisfied)
    (course : Course exchange broker rounds events last satisfied) :
    link.progress ≤
      events.length + 3 * (Round.requestBytes rounds).length +
        3 * (Round.answerBytes rounds).length := by
  have leaves := (Sound.advances follows.advances).leaves
  obtain ⟨_, script⟩ := leaves.script
  obtain ⟨_, _, conserves⟩ := leaves.conserves
  obtain ⟨rest, same, -⟩ :=
    course.exists_rest follows.arrived_prefix script conserves
  have noted : link.session.journal.length ≤ events.length := by
    rw [same, List.length_append]
    exact Nat.le_add_right _ _
  have accepted := (follows.accepted_prefix course).length_le
  have carried := (follows.content_prefix course).length_le
  have served : link.requests.passed.length ≤ link.requests.content.length :=
    (List.prefix_append _ _).length_le
  have delivered : link.answers.passed.length ≤ link.answers.content.length :=
    (List.prefix_append _ _).length_le
  have consumed : link.consumed ≤ link.answers.passed.length :=
    Nat.sub_le _ _
  have answered :
      link.answers.content.length ≤ (Round.answerBytes rounds).length := by
    obtain ⟨done, ahead, rfl, -, -, -, isAnswered⟩ := follows.served
    rw [isAnswered, Round.answerBytes_append, List.length_append]
    exact Nat.le_add_right _ _
  rw [progress]
  omega

/-- From some time on nothing more is done on a link. -/
theorem exists_settled
    (follows : link.Follows exchange broker rounds satisfied)
    (course : Course exchange broker rounds events last satisfied)
    (schedule : Nat → Step) :
    ∃ settled, ∀ time, settled ≤ time →
      (link.after schedule settled).Alike (link.after schedule time) := by
  by_contra unsettled
  have grows (count : Nat) :
      ∃ time, count ≤ (link.after schedule time).progress := by
    induction count with
    | zero =>
        exact ⟨0, Nat.zero_le _⟩
    | succ count inductionHypothesis =>
        -- If nothing more were done, the link would have settled here.
        obtain ⟨time, reached⟩ := inductionHypothesis
        by_contra stays
        refine unsettled ⟨time, fun later order =>
          (onward_after link schedule order).alike ?_⟩
        have notMore := mt (Exists.intro later) stays
        omega
  obtain ⟨time, beyond⟩ := grows
    (events.length + 3 * (Round.requestBytes rounds).length +
      3 * (Round.answerBytes rounds).length + 1)
  have bounded := (follows.after course schedule time).progress_le course
  omega

/-- Under a fair schedule the session is complete in the end. -/
theorem exists_finished
    (follows : link.Follows exchange broker rounds satisfied)
    (course : Course exchange broker rounds events last satisfied)
    {schedule : Nat → Step} (fair : link.IsFair schedule) :
    ∃ time,
      (link.after schedule time).session.isComplete = true := by
  obtain ⟨settled, still⟩ := follows.exists_settled course schedule
  obtain ⟨lifted, unlimited⟩ := fair.lifted
  obtain ⟨time, order, isCall⟩ := fair.calls (max settled lifted)
  have settledBefore : settled ≤ time :=
    Nat.le_trans (Nat.le_max_left settled lifted) order
  have liftedBefore : lifted ≤ time :=
    Nat.le_trans (Nat.le_max_right settled lifted) order
  have followsThen := follows.after course schedule time
  have idles :
      (link.after schedule time).Alike
        ((link.after schedule time).perform .call) := by
    rw [← isCall]
    exact (still time settledBefore).symm.trans
      (still (time + 1) (Nat.le_succ_of_le settledBefore))
  rcases followsThen.exists_awaiting course (unlimited time liftedBefore).1
      (unlimited time liftedBefore).2 idles with
    finished | ⟨point, tracks, isAwaiting, drained⟩
  · exact ⟨time, decide_eq_true finished.stage⟩
  · exact (followsThen.not_awaiting course (fair.isIdle still settledBefore)
      tracks drained isAwaiting).elim

/-- A complete session stays complete. -/
theorem isComplete_perform
    (follows : link.Follows exchange broker rounds satisfied)
    (complete : link.session.isComplete = true) (step : Step) :
    (link.perform step).session.isComplete = true := by
  cases step with
  | call =>
      have finished :=
        (Sound.advances follows.advances).finished (of_decide_eq_true complete)
      obtain ⟨ledger, isBegun⟩ := link.session.exists_begin
      rw [Link.perform, finished.authenticate, isBegun]
      exact complete
  | serve =>
      rw [Link.perform]
      split <;> exact complete
  | carry | deliver | readBudget | writeBudget =>
      exact complete

/-- A session that is complete stays complete. -/
theorem isComplete_of_le
    (follows : link.Follows exchange broker rounds satisfied)
    (course : Course exchange broker rounds events last satisfied)
    {schedule : Nat → Step} {time later : Nat} (order : time ≤ later)
    (complete : (link.after schedule time).session.isComplete = true) :
    (link.after schedule later).session.isComplete = true := by
  induction order with
  | refl =>
      exact complete
  | @step later _ inductionHypothesis =>
      exact (follows.after course schedule later).isComplete_perform
        inductionHypothesis (schedule later)

/-- With a complete session the broker has served the whole course. -/
theorem broker_eq_of_isComplete
    (follows : link.Follows exchange broker rounds satisfied)
    (course : Course exchange broker rounds events last satisfied)
    (complete : link.session.isComplete = true) : link.broker = satisfied := by
  have finished :=
    (Sound.advances follows.advances).finished (of_decide_eq_true complete)
  have arrived : link.answers.passed = Round.answerBytes rounds :=
    course.arrived_eq follows.arrived_prefix finished
  obtain ⟨done, ahead, rfl, -, later, -, answers⟩ := follows.served
  rw [Pipe.content, arrived, Round.answerBytes_append, List.append_assoc,
    List.append_right_eq_self] at answers
  cases later with
  | nothing =>
      rfl
  | @round _ _ _ round =>
      rw [← List.singleton_append, Round.answerBytes_append,
        Round.answerBytes_singleton] at answers
      have nothing := (List.append_eq_nil_iff.mp answers).1
      exact (FrameCodec.frame_ne_nil round.answer
        (List.append_eq_nil_iff.mp nothing).1).elim

end Follows

end Link

end BrokerSession
