import BrokerSession.Proofs.Session.Course
import BrokerSession.Proofs.Session.FirstError
import BrokerSession.Proofs.Session.Negotiation
import BrokerSession.Proofs.Session.Quiescence

namespace BrokerSession

/-!
# The outcome does not depend on the schedule

Two runs with the same client and the same inbound bytes may differ in how the
bytes are cut into pieces, in what the transport accepts at once and in when
the owner calls.  Once both stand still they have gone the same way: an
exchange has one course, and each of them has followed it as far as the bytes
lead.
-/

open Journal

namespace Exchange

variable {exchange : Exchange} {point other : Point} {journal : List Event}
  {left otherLeft : Bytes}

/-! ## Where the bytes end -/

/-- Whether the bytes that are left do not lead an exchange any further. -/
def IsStuck (exchange : Exchange) (point : Point) (left : Bytes) : Prop :=
  ∀ events next, exchange.Moves point events next →
    ∃ payload,
      events = [.taken payload] ∧
        ∀ rest,
          FrameCodec.Takes ⟨exchange.config.maxReceiveSize⟩ payload →
            left ≠ FrameCodec.frame payload ++ rest

/-- Nothing follows a point where the bytes that are left lead nowhere. -/
theorem IsStuck.eq_of_leads {rest : List Event}
    (stuck : exchange.IsStuck point left)
    (leads : exchange.Leads point rest other)
    (takes :
      ∀ payload ∈ payloads rest,
        FrameCodec.Takes ⟨exchange.config.maxReceiveSize⟩ payload)
    (same :
      left =
        ((payloads rest).map FrameCodec.frame).flatten ++ otherLeft) :
    rest = [] ∧ point = other := by
  cases leads with
  | stay =>
      exact ⟨rfl, rfl⟩
  | @move _ _ _ _ later moves leads =>
      obtain ⟨payload, rfl, differs⟩ := stuck _ _ moves
      have taken :
          payloads ([.taken payload] ++ later) = payload :: payloads later := by
        rw [payloads_append]
        rfl
      rw [taken] at takes same
      rw [List.map_cons, List.flatten_cons, List.append_assoc] at same
      exact (differs _ (takes payload List.mem_cons_self) same).elim

end Exchange

/-- Two scripts over the same bytes that are both stuck are the same. -/
theorem Script.eq_of_isStuck {exchange : Exchange} {point other : Point}
    {journal otherJournal : List Event} {left otherLeft : Bytes}
    (script : Script exchange point journal)
    (otherScript : Script exchange other otherJournal)
    (takes :
      ∀ payload ∈ payloads journal,
        FrameCodec.Takes ⟨exchange.config.maxReceiveSize⟩ payload)
    (otherTakes :
      ∀ payload ∈ payloads otherJournal,
        FrameCodec.Takes ⟨exchange.config.maxReceiveSize⟩ payload)
    (same :
      ((payloads journal).map FrameCodec.frame).flatten ++ left =
        ((payloads otherJournal).map FrameCodec.frame).flatten ++ otherLeft)
    (stuck : exchange.IsStuck point left)
    (otherStuck : exchange.IsStuck other otherLeft) :
    point = other ∧ journal = otherJournal ∧ left = otherLeft := by
  have compared :=
    FrameCodec.prefix_or_prefix_of_flatten_eq takes otherTakes same
  rcases script.linear otherScript compared with ⟨rest, rfl, leads⟩ |
    ⟨rest, rfl, leads⟩
  · have further :
        left =
          ((payloads rest).map FrameCodec.frame).flatten ++ otherLeft := by
      simpa using same
    have restTakes (payload : Bytes) (member : payload ∈ payloads rest) :=
      otherTakes payload (by simp [member])
    obtain ⟨rfl, rfl⟩ := stuck.eq_of_leads leads restTakes further
    exact ⟨rfl, (List.append_nil journal).symm, further⟩
  · have further :
        otherLeft =
          ((payloads rest).map FrameCodec.frame).flatten ++ left := by
      simpa using same.symm
    have restTakes (payload : Bytes) (member : payload ∈ payloads rest) :=
      takes payload (by simp [member])
    obtain ⟨rfl, rfl⟩ := otherStuck.eq_of_leads leads restTakes further
    exact ⟨rfl, List.append_nil otherJournal, further.symm⟩

/-! ## Answers that are owed -/

/--
Whether a mechanism is never complete while a raw answer might follow.

A PLAIN client is complete once its token is sent, and no answer is owed to a
token that is sent raw.  Whether a session takes such an answer would depend on
when it arrives.
-/
inductive AnswersAreOwed (config : Config) (arrived : Bytes) :
    SaslClient → Prop where
  | scram (client : ScramClient) :
      AnswersAreOwed config arrived (.scram client)
  /-- The peer's list of versions, if it is accepted, has tokens wrapped. -/
  | plain (client : PlainClient)
      (enabled : config.handshakeRequestEnable = true)
      (listed :
        ∀ payload rest response,
          arrived = FrameCodec.frame payload ++ rest →
            Response.ofPayload (Script.openingHeader config) payload =
                .ok (.apiVersions response) →
              response.error = .none →
                (response.apiVersion? .saslAuthenticate).isSome = true) :
      AnswersAreOwed config arrived (.plain client)

theorem AnswersAreOwed.not_isComplete {exchange : Exchange} {point : Point}
    {journal : List Event} {arrived left : Bytes} {task : Task}
    (owed : AnswersAreOwed exchange.config arrived exchange.client)
    (script : Script exchange point journal)
    (fresh : exchange.client.IsFresh)
    (received :
      arrived = ((payloads journal).map FrameCodec.frame).flatten ++ left)
    (awaiting : point.activity = .awaiting task none) :
    Mechanism.isComplete point.client = false := by
  generalize isClient : exchange.client = client at owed
  cases owed with
  | scram client =>
      rcases script.not_isComplete_of_scram isClient fresh with
        refused | ⟨-, silent | incomplete⟩
      · cases awaiting.symm.trans refused
      · cases awaiting.symm.trans silent
      · exact incomplete
  | plain client enabled listed =>
      have fits := script.headerFits
      have opens := script.opens
      rw [awaiting] at fits
      rw [Script.Opens, awaiting] at opens
      cases task with
      | versions | handshake =>
          cases fits.1
      | token content =>
          obtain ⟨payload, rest, response, first, decoded, succeeded, terms⟩ :=
            opens enabled
          have isListed := listed payload
            ((rest.map FrameCodec.frame).flatten ++ left) response
            (by rw [received, first]; simp) decoded succeeded
          have wrapped : point.terms.authenticateVersion.isSome = true := by
            rw [terms, Terms.ofResponse, Option.isSome_map]
            exact isListed
          cases fits.1.trans wrapped

/-- Whether the mechanism and the server are both satisfied. -/
inductive Point.HasEnded (point : Point) : Prop where
  | silent (silent : point.activity = .silent)
  | challenged (challenge : Bytes)
      (complete : Mechanism.isComplete point.client = true)
      (challenged : point.activity = .challenged challenge)

namespace Point.HasEnded

variable {exchange : Exchange} {point : Point}

theorem not_moves {events : List Event} {next : Point}
    (ended : point.HasEnded) : ¬ exchange.Moves point events next := by
  intro moves
  cases ended with
  | silent silent =>
      exact Exchange.Moves.not_of_over (Or.inl silent) moves
  | challenged challenge complete challenged =>
      cases (moves.of_challenged challenged).1.symm.trans complete

theorem not_awaiting {task : Task} {header : Option RequestHeader}
    (ended : point.HasEnded) : point.activity ≠ .awaiting task header := by
  intro awaiting
  cases ended with
  | silent silent =>
      cases awaiting.symm.trans silent
  | challenged challenge complete challenged =>
      cases awaiting.symm.trans challenged

theorem not_refuses {journal : List Event} {held : Bytes}
    {cause : SessionError} (ended : point.HasEnded) :
    ¬ exchange.Refuses point journal held cause := by
  intro refuses
  cases ended with
  | silent silent =>
      exact refuses.not_silent silent
  | challenged challenge complete challenged =>
      exact refuses.not_challenged challenged

end Point.HasEnded

namespace Session

variable {origin : Origin} {session other : Session SaslClient} {point : Point}
  {held otherHeld : Bytes} {error otherError : Option SessionError}

/-! ## Where a session stands in the end -/

/-- Where a quiet session stands, given what it has read of the next frame. -/
inductive Settles (exchange : Exchange) (session : Session SaslClient)
    (point : Point) : Bytes → Option SessionError → Prop where
  /-- It waits for bytes that have not arrived. -/
  | waits {task : Task} {header : Option RequestHeader} {held : Bytes}
      (awaiting : point.activity = .awaiting task header)
      (drained : session.transport.inbound = [])
      (undecided :
        FrameCodec.decode ⟨exchange.config.maxReceiveSize⟩ held = .ok none)
      (stage :
        session.stage =
          if Mechanism.isComplete point.client then .clientComplete
          else task.receiving)
      (outstanding : session.outstanding = header) :
      Settles exchange session point held none
  | completes (ended : point.HasEnded)
      (stage : session.stage = .complete)
      (outstanding : session.outstanding = none) :
      Settles exchange session point [] none
  | fails {held : Bytes} {cause : SessionError}
      (refuses : exchange.Refuses point session.journal held cause)
      (stage : session.stage = .failed)
      (outstanding : session.outstanding = none) :
      Settles exchange session point held (some cause)

/-- A quiet session that is neither complete nor failed waits. -/
theorem Tracks.settles (tracks : Tracks origin session point)
    (rests : Rests session.stage session.pending point)
    (patient : session.transport.IsPatient) (quiet : session.IsQuiet) :
    Settles origin.exchange session point session.held none := by
  obtain ⟨isAwaiting, drained, incomplete⟩ :=
    tracks.standsStill rests patient quiet
  obtain ⟨incoming, -, isHeld, isPartial⟩ := tracks.exists_incoming
  have undecided := isPartial.undecided
  rw [← isPartial.consumed_eq, ← isHeld] at undecided
  have outstanding := tracks.outstanding
  cases rests with
  | asking _ _ _ current | starting _ _ _ current
  | writing _ _ _ _ _ current | writingNext _ _ _ _ _ _ current =>
      rw [current] at isAwaiting
      cases isAwaiting
  | awaitingFinal token header stage pending complete awaiting =>
      rw [awaiting] at outstanding
      refine .waits awaiting drained undecided ?_ outstanding
      rw [if_pos complete]
      exact stage
  | awaiting task header stage pending suits awaiting =>
      rw [awaiting] at outstanding
      refine .waits awaiting drained undecided ?_ outstanding
      have unfinished : Mechanism.isComplete point.client = false := by
        cases task with
        | versions | handshake =>
            exact SaslClient.not_isComplete_of_isFresh suits
        | token content =>
            exact incomplete stage
      rw [unfinished, if_neg Bool.false_ne_true]
      exact stage

/-- A complete session has nothing left to read unless it may go unread. -/
theorem Finished.exists_settles (finished : Finished origin session)
    (fresh : origin.exchange.client.IsFresh)
    (owed :
      AnswersAreOwed origin.exchange.config origin.arrived
        origin.exchange.client) :
    ∃ point,
      Script origin.exchange point session.journal ∧
        Conserves origin session.transport.outbound session.transport.inbound
          session.journal [] [] ∧
        Settles origin.exchange session point [] none := by
  obtain ⟨point, held, script, -, complete, final, conserves, abandons⟩ :=
    finished.ending
  have received := conserves.received
  rw [List.append_assoc] at received
  have completes (ended : point.HasEnded) :
      Settles origin.exchange session point [] none :=
    .completes ended finished.stage finished.outstanding
  have nothing (notAwaiting : point.activity.isAwaiting = false) : held = [] :=
    (abandons.nothing notAwaiting).1
  generalize activity : point.activity = current at final nothing
  cases final with
  | silent =>
      rw [nothing rfl] at conserves
      exact ⟨point, script, conserves, completes (.silent activity)⟩
  | challenged challenge =>
      rw [nothing rfl] at conserves
      exact ⟨point, script, conserves,
        completes (.challenged challenge complete activity)⟩
  | awaiting token =>
      have incomplete := owed.not_isComplete script fresh received activity
      cases incomplete.symm.trans complete

/-- Where a session with its bytes stands once it is quiet. -/
theorem Fares.exists_settles (fares : Fares origin session error)
    (fresh : origin.exchange.client.IsFresh)
    (owed :
      AnswersAreOwed origin.exchange.config origin.arrived
        origin.exchange.client)
    (patient : origin.patient) (quiet : session.IsQuiet) :
    ∃ point held,
      Script origin.exchange point session.journal ∧
        Conserves origin session.transport.outbound session.transport.inbound
          session.journal [] held ∧
        Settles origin.exchange session point held error ∧
        session.pending = none := by
  cases fares with
  | failed failed throws =>
      obtain ⟨point, unsent, held, script, conserves, stops⟩ := throws
      cases stops with
      | broken impatient =>
          exact (impatient patient).elim
      | refused refuses =>
          exact ⟨point, held, script, conserves,
            .fails refuses failed.stage failed.outstanding, failed.pending⟩
  | advances advances =>
      rcases advances with ⟨point, tracks, -, rests⟩ | finished
      · have still := tracks.patient patient
        have notWriting :=
          Activity.isWriting_of_isAwaiting
            (tracks.standsStill rests still quiet).1
        have conserves := tracks.conserves
        rw [tracks.unsent_eq_nil notWriting] at conserves
        exact ⟨point, session.held, tracks.script, conserves,
          tracks.settles rests still quiet, rests.pending_eq_none notWriting⟩
      · obtain ⟨point, script, conserves, settles⟩ :=
          finished.exists_settles fresh owed
        exact ⟨point, [], script, conserves, settles, finished.pending⟩

/-- Where a quiet session stands the bytes that are left lead no further. -/
theorem Settles.isStuck {exchange : Exchange}
    (settles : Settles exchange session point held error) :
    exchange.IsStuck point (held ++ session.transport.inbound) := by
  intro events next moves
  cases settles with
  | waits awaiting drained undecided =>
      obtain ⟨payload, rfl, -⟩ := moves.of_awaiting awaiting
      refine ⟨payload, rfl, fun rest takes isFrame => ?_⟩
      rw [drained, List.append_nil] at isFrame
      rw [isFrame, takes.decode_eq] at undecided
      cases undecided
  | completes ended =>
      exact (ended.not_moves moves).elim
  | fails refuses =>
      obtain ⟨payload, failure, rfl, malformed⟩ := refuses.taken_of_moves moves
      refine ⟨payload, rfl, fun rest takes isFrame => ?_⟩
      have refused := malformed.decode_eq_error session.transport.inbound
      rw [isFrame, takes.decode_eq] at refused
      cases refused

/-- A frame that may still be completed is not a malformed one. -/
theorem not_refuses_of_waits {exchange : Exchange} {journal : List Event}
    {task : Task} {header : Option RequestHeader} {cause : SessionError}
    {held otherHeld rest : Bytes}
    (awaiting : point.activity = .awaiting task header)
    (undecided :
      FrameCodec.decode ⟨exchange.config.maxReceiveSize⟩ held = .ok none)
    (together : held = otherHeld ++ rest) :
    ¬ exchange.Refuses point journal otherHeld cause := by
  intro refuses
  obtain ⟨failure, malformed, -⟩ := refuses.of_awaiting awaiting
  rw [together, malformed.decode_eq_error] at undecided
  cases undecided

/-- At one point, with the same bytes left, sessions settle in one way. -/
theorem Settles.unique {exchange : Exchange}
    (settles : Settles exchange session point held error)
    (otherSettles : Settles exchange other point otherHeld otherError)
    (sameJournal : session.journal = other.journal)
    (together :
      held ++ session.transport.inbound =
        otherHeld ++ other.transport.inbound) :
    session.stage = other.stage ∧
      session.outstanding = other.outstanding ∧ error = otherError ∧
      held = otherHeld := by
  cases settles with
  | waits awaiting drained undecided stage outstanding =>
      rw [drained, List.append_nil] at together
      cases otherSettles with
      | waits otherAwaiting otherDrained _ otherStage otherOutstanding =>
          cases awaiting.symm.trans otherAwaiting
          rw [otherDrained, List.append_nil] at together
          exact ⟨stage.trans otherStage.symm,
            outstanding.trans otherOutstanding.symm, rfl, together⟩
      | completes ended =>
          exact (ended.not_awaiting awaiting).elim
      | fails refuses =>
          exact (not_refuses_of_waits awaiting undecided together
            refuses).elim
  | completes ended stage outstanding =>
      cases otherSettles with
      | waits awaiting =>
          exact (ended.not_awaiting awaiting).elim
      | completes _ otherStage otherOutstanding =>
          exact ⟨stage.trans otherStage.symm,
            outstanding.trans otherOutstanding.symm, rfl, rfl⟩
      | fails refuses =>
          exact (ended.not_refuses refuses).elim
  | fails refuses stage outstanding =>
      cases otherSettles with
      | waits awaiting drained undecided =>
          rw [drained, List.append_nil] at together
          exact (not_refuses_of_waits awaiting undecided together.symm
            refuses).elim
      | completes ended =>
          exact (ended.not_refuses refuses).elim
      | fails otherRefuses otherStage otherOutstanding =>
          rw [← sameJournal] at otherRefuses
          obtain ⟨sameHeld, sameCause⟩ :=
            refuses.unique otherRefuses together
          exact ⟨stage.trans otherStage.symm,
            outstanding.trans otherOutstanding.symm,
            congrArg some sameCause, sameHeld⟩

end Session

/-! ## Whole runs -/

/--
A run over a transport that only delays, up to where nothing changes any more.

Bytes may arrive in any pieces, budgets may be set and forced outcomes may be
queued at any time, and calls may come in any order between them.
-/
structure QuietRun (exchange : Exchange) where
  subject : Subject
  transport : Transport
  operations : List Session.Operation
  patient : transport.IsPatient
  /-- Nothing is closed, and forced outcomes only block or interrupt. -/
  delays :
    ∀ operation ∈ operations,
      operation ≠ .close ∧ operation.isPatient = true
  quiet :
    Session.IsQuiet
      ((Session.start exchange.config exchange.node exchange.host subject
        transport exchange.client).run operations)

namespace QuietRun

variable {exchange : Exchange}

def first (whole : QuietRun exchange) : Session SaslClient :=
  .start exchange.config exchange.node exchange.host whole.subject
    whole.transport exchange.client

def final (whole : QuietRun exchange) : Session SaslClient :=
  whole.first.run whole.operations

/-- All inbound bytes, whether they were there or arrived during the run. -/
def arrived (whole : QuietRun exchange) : Bytes :=
  whole.transport.inbound ++
    whole.operations.flatMap Session.Operation.arriving

/-- All outbound bytes, whether they were taken away or are still there. -/
def outbound (whole : QuietRun exchange) : Bytes :=
  whole.first.takenAway whole.operations ++ whole.final.transport.outbound

/-- The first failure that a call reported. -/
def firstError (whole : QuietRun exchange) : Option SessionError :=
  whole.first.firstError whole.operations

/-- A run has gone as far as its bytes lead, and nothing of it is unsent. -/
theorem exists_settles (whole : QuietRun exchange)
    (fresh : exchange.client.IsFresh)
    (owed :
      AnswersAreOwed exchange.config whole.arrived exchange.client) :
    ∃ point held,
      Script exchange point whole.final.journal ∧
        Session.Settles exchange whole.final point held whole.firstError ∧
        whole.final.pending = none ∧
        whole.outbound =
          whole.transport.outbound ++ (frames whole.final.journal).flatten ∧
        whole.arrived =
          ((payloads whole.final.journal).map FrameCodec.frame).flatten ++
            (held ++ whole.final.transport.inbound) ∧
        ∀ payload ∈ payloads whole.final.journal,
          FrameCodec.Takes ⟨exchange.config.maxReceiveSize⟩ payload := by
  have unfailed : whole.first.stage ≠ .failed := by
    simp only [first, Session.start, Stage.first]
    split <;> exact Stage.noConfusion
  have started :=
    Session.sound_start exchange.config exchange.node exchange.host
      whole.subject whole.transport fresh
  have fares :=
    (started.advances_of_ne unfailed).fares_run whole.operations
      fun operation member => (whole.delays operation member).1
  obtain ⟨point, held, script, conserves, settles, pending⟩ :=
    fares.exists_settles fresh owed
      ⟨whole.patient,
        fun operation member => (whole.delays operation member).2⟩
      whole.quiet
  have sent := conserves.sent
  have received := conserves.received
  rw [List.append_nil] at sent
  rw [List.append_assoc] at received
  exact ⟨point, held, script, settles, pending, sent, received,
    conserves.takes⟩

/-- What two runs have in common in the end. -/
structure Agrees (one other : QuietRun exchange) : Prop where
  stage : one.final.stage = other.final.stage
  pending : one.final.pending = other.final.pending
  outstanding : one.final.outstanding = other.final.outstanding
  journal : one.final.journal = other.final.journal
  firstError : one.firstError = other.firstError
  sent :
    ∃ sent,
      one.outbound = one.transport.outbound ++ sent ∧
        other.outbound = other.transport.outbound ++ sent
  unread :
    one.final.transport.inbound = other.final.transport.inbound

/-- Runs over the same inbound bytes come to the same end. -/
theorem agrees_of_arrived_eq (one other : QuietRun exchange)
    (fresh : exchange.client.IsFresh)
    (owed :
      AnswersAreOwed exchange.config one.arrived exchange.client)
    (sameArrived : one.arrived = other.arrived) : one.Agrees other := by
  obtain ⟨point, held, script, settles, pending, sent, received, takes⟩ :=
    one.exists_settles fresh owed
  obtain ⟨otherPoint, otherHeld, otherScript, otherSettles, otherPending,
    otherSent, otherReceived, otherTakes⟩ :=
    other.exists_settles fresh (sameArrived ▸ owed)
  have sameBytes := received.symm.trans (sameArrived.trans otherReceived)
  obtain ⟨rfl, sameJournal, together⟩ :=
    script.eq_of_isStuck otherScript takes otherTakes sameBytes
      settles.isStuck otherSettles.isStuck
  obtain ⟨sameStage, sameOutstanding, sameError, sameHeld⟩ :=
    settles.unique otherSettles sameJournal together
  constructor
  case stage =>
    exact sameStage
  case pending =>
    exact pending.trans otherPending.symm
  case outstanding =>
    exact sameOutstanding
  case journal =>
    exact sameJournal
  case firstError =>
    exact sameError
  case sent =>
    rw [← sameJournal] at otherSent
    exact ⟨_, sent, otherSent⟩
  case unread =>
    rw [sameHeld] at together
    exact List.append_cancel_left together

/-- A SCRAM client whose mechanism the server will not take. -/
def unwelcome : Exchange where
  config := { mechanism := "SCRAM-SHA-256" }
  node := "broker:9092"
  host := "broker"
  client :=
    .scram
      { suite := .sha256, username := "user", password := "pencil"
        nonce := "rOprNGfwEbeRWgbNEkqO" }

/-- The server's versions, its refusal and three bytes behind it. -/
def refusal : List Bytes :=
  [FrameCodec.frame
      [255, 255, 255, 255, 0, 0, 0, 0, 0, 2, 0, 17, 0, 0, 0, 1, 0, 36, 0, 0, 0,
        1],
    FrameCodec.frame
      [0, 0, 0, 0, 0, 33, 0, 0, 0, 1, 0, 5, 80, 76, 65, 73, 78],
    [1, 2, 3]]

/-- The owner calls whenever a piece has arrived. -/
def unhindered : QuietRun unwelcome where
  subject := {}
  transport := {}
  operations :=
    .authenticate ::
      refusal.flatMap fun piece => [.transport (.push piece), .authenticate]
  patient := ⟨rfl, nofun, nofun⟩
  delays := by decide
  quiet :=
    { readUnlimited := by decide +kernel
      writeUnlimited := by decide +kernel
      unchanged := by
        rw [Session.authenticate_of_failed]
        decide +kernel }

/-- Budgets and forced outcomes are in the way, and all bytes come at once. -/
def hindered : QuietRun unwelcome where
  subject := {}
  transport :=
    { inbound := refusal.flatten, readBudget := some 9, writeBudget := some 5
      readOutcomes := [.fail .interrupted, .fail .wouldBlock] }
  operations :=
    [.authenticate, .transport .take,
      .transport (.forceWrite (.fail .wouldBlock)),
      .transport (.writeBudget (some 30)), .authenticate, .authenticate,
      .authenticate, .transport (.readBudget none), .authenticate,
      .transport (.writeBudget none), .authenticate, .authenticate,
      .authenticate]
  patient := ⟨rfl, by decide, nofun⟩
  delays := by decide
  quiet :=
    { readUnlimited := by decide +kernel
      writeUnlimited := by decide +kernel
      unchanged := by
        rw [Session.authenticate_of_failed]
        decide +kernel }

theorem agrees_of_arrived_eq_unwelcome :
    unwelcome.client.IsFresh ∧
      AnswersAreOwed unwelcome.config unhindered.arrived unwelcome.client ∧
      unhindered.arrived = hindered.arrived ∧
      unhindered.firstError =
        some (.unsupportedSaslMechanism "SCRAM-SHA-256" ["PLAIN"]) ∧
      unhindered.final.transport.inbound = [1, 2, 3] ∧
      unhindered.Agrees hindered := by
  have fresh : unwelcome.client.IsFresh := rfl
  have owed :
      AnswersAreOwed unwelcome.config unhindered.arrived unwelcome.client :=
    .scram _
  have sameArrived : unhindered.arrived = hindered.arrived := by
    decide +kernel
  exact ⟨fresh, owed, sameArrived, by decide +kernel, by decide +kernel,
    agrees_of_arrived_eq unhindered hindered fresh owed sameArrived⟩

end QuietRun

end BrokerSession
