import BrokerSession.Proofs.Channel.Idle
import BrokerSession.Proofs.Session.Answer
import BrokerSession.Proofs.Session.FirstError
import BrokerSession.Proofs.Session.Negotiation
import BrokerSession.Proofs.Session.Quiescence

namespace BrokerSession

/-!
# Calls that find nothing to do

A call over a transport that moves nothing leaves the stage as it is, however
often it is made.  There is one deliberate step that needs no byte: a mechanism
that is complete by itself moves a session on, because no token is exchanged
any more.  Apart from it, a session that does not ask to write goes on only by
what it reads.
-/

/-- Whether the frame that opens an exchange can be made. -/
def Exchange.CanOpen (exchange : Exchange) : Prop :=
  if exchange.config.handshakeRequestEnable then
    ∃ framing, Task.versions.Framed exchange.config {} (-1) framing
  else
    ∃ token next framing,
      Mechanism.evaluate exchange.client [] = (.ok (some token), next) ∧
        (Task.token token).Framed exchange.config {} (-1) framing

/-- What fits into a frame can be sent. -/
theorem Outgoing.exists_ofPayload (destination : String)
    {payload frame : Bytes}
    (encoded : FrameCodec.unlimited.encode payload = .ok frame) :
    ∃ outgoing, ofPayload destination payload = .ok outgoing :=
  ⟨_, except_bind_eq_ok_iff.mpr ⟨frame, encoded, rfl⟩⟩

/-- A request that can be framed makes an outgoing frame. -/
theorem Task.Framed.exists_outgoing {config : Config} {terms : Terms}
    {correlationId : Int32} {task : Task} {framing : Framing}
    (framed : task.Framed config terms correlationId framing)
    {request : Request} (asked : task.request? config terms = some request)
    (destination : String) :
    ∃ outgoing,
      request.toOutgoing destination
          (Task.headerOf config correlationId request) =
        .ok outgoing := by
  cases framed with
  | @request task other payload frame isAsked serialized encoded =>
      cases asked.symm.trans isAsked
      obtain ⟨outgoing, made⟩ := Outgoing.exists_ofPayload destination encoded
      exact ⟨outgoing, except_bind_eq_ok_iff.mpr
        ⟨payload, except_mapError_eq_ok_iff.mpr serialized,
          except_mapError_eq_ok_iff.mpr made⟩⟩
  | raw unwrapped encoded =>
      rw [Task.request?, unwrapped] at asked
      cases asked

/-- There is always something to write of a frame that was just made. -/
theorem Outgoing.remaining_ne_nil {destination : String} {payload : Bytes}
    {outgoing : Outgoing} (made : ofPayload destination payload = .ok outgoing) :
    outgoing.remaining ≠ [] := by
  obtain ⟨-, -, isFrame⟩ :=
    FrameCodec.encode_eq_ok_iff.mp (encode_of_ofPayload made)
  rw [isFrame]
  exact FrameCodec.frame_ne_nil payload

namespace Session

open Journal SessionM

variable {origin : Origin} {session later : Session SaslClient} {point : Point}
  {Content : Type}

/-- The stage that a session has once a call has found nothing to read. -/
def restingStage (session : Session SaslClient) : Stage :=
  if session.stage = .intermediate ∧
      Mechanism.isComplete session.client = true then
    .afterClientComplete session.authenticateVersion.isSome false
  else session.stage

/-! ## Changes of stage -/

/-- A change of stage leaves the frame being written as it is. -/
theorem outgoing_setStage (session : Session SaslClient) (stage : Stage) :
    (session.setStage stage).outgoing = session.outgoing := by
  unfold setStage
  split
  · rfl
  · dsimp only
    split <;> rfl

/-- A change of stage does not ask the mechanism. -/
theorem client_setStage (session : Session SaslClient) (stage : Stage) :
    (session.setStage stage).client = session.client := by
  unfold setStage
  split
  · rfl
  · dsimp only
    split <;> rfl

/-- A change of stage does not move a byte. -/
theorem kept_setStage (session : Session SaslClient) (stage : Stage) :
    session.transport.Kept (session.setStage stage).transport := by
  unfold setStage
  split
  · exact .refl _
  · dsimp only
    split
    · exact (Transport.Kept.refl _).setWriteInterest false
    · exact .refl _

/-! ## Reading nothing -/

/-- A session after a step that found nothing to read. -/
structure Unchanged (session later : Session SaslClient) : Prop where
  transport : session.transport.Kept later.transport
  stage : later.stage = session.stage
  outgoing : later.outgoing = session.outgoing
  client : later.client = session.client
  authenticateVersion :
    later.authenticateVersion = session.authenticateVersion
  journal : later.journal = session.journal

/-- A computation that reads nothing, and changes nothing either. -/
def FindsNothing (action : SessionM SaslClient (Option Content))
    (session : Session SaslClient) : Prop :=
  action.Ensures session
    (fun received later => received = none ∧ session.Unchanged later)
    (fun _ _ => False)

/-- A transport that cannot be read gives no frame. -/
theorem Tracks.findsNothing (tracks : Tracks origin session point)
    (cannot : session.transport.CannotRead) :
    FindsNothing receiveFrame session := by
  obtain ⟨incoming, isIncoming, -, isPartial⟩ := tracks.exists_incoming
  obtain ⟨transport, reads, kept⟩ :=
    Incoming.readAfter_of_cannotRead isPartial cannot 0
  rw [FindsNothing, ensures_receiveFrame_iff isIncoming, Incoming.readFrom,
    reads]
  dsimp only
  rw [isPartial.payload]
  exact ⟨rfl, kept, rfl, rfl, rfl, rfl, rfl⟩

namespace FindsNothing

/-- Without a frame there is no response. -/
theorem receiveResponse (nothing : FindsNothing receiveFrame session) :
    FindsNothing receiveResponse session := by
  rw [FindsNothing, Session.receiveResponse]
  apply Ensures.bind nothing
  rintro _ between ⟨rfl, unchanged⟩
  exact ⟨rfl, unchanged⟩

/-- Without a frame there is no response of any kind. -/
theorem receiveAs (nothing : FindsNothing receiveFrame session)
    (convert : Response → Except SessionError Content) :
    FindsNothing (receiveAs convert) session := by
  rw [FindsNothing, Session.receiveAs]
  apply Ensures.bind nothing.receiveResponse
  rintro _ between ⟨rfl, unchanged⟩
  exact ⟨rfl, unchanged⟩

/-- Without a frame there is no token. -/
theorem receiveToken (nothing : FindsNothing receiveFrame session) :
    FindsNothing receiveToken session := by
  rw [FindsNothing, Session.receiveToken, ensures_bind, ensures_get]
  split
  · exact nothing
  · apply Ensures.bind (nothing.receiveAs _)
    rintro _ between ⟨rfl, unchanged⟩
    exact ⟨rfl, unchanged⟩

/-- Without a frame there are no versions to be accepted. -/
theorem acceptApiVersions (nothing : FindsNothing receiveFrame session) :
    acceptApiVersions.Ensures session
      (fun accepted later => accepted = false ∧ session.Unchanged later)
      (fun _ _ => False) := by
  rw [Session.acceptApiVersions]
  apply Ensures.bind (nothing.receiveAs _)
  rintro _ between ⟨rfl, unchanged⟩
  exact ⟨rfl, unchanged⟩

/-- Without a frame the peer has not taken the mechanism. -/
theorem acceptHandshake (nothing : FindsNothing receiveFrame session) :
    acceptHandshake.Ensures session
      (fun accepted later => accepted = false ∧ session.Unchanged later)
      (fun _ _ => False) := by
  rw [Session.acceptHandshake]
  apply Ensures.bind (nothing.receiveAs _)
  rintro _ between ⟨rfl, unchanged⟩
  exact ⟨rfl, unchanged⟩

end FindsNothing

/-- A session after a call that found nothing to read. -/
structure Rested (session later : Session SaslClient) : Prop where
  transport : session.transport.Kept later.transport
  stage : later.stage = session.restingStage
  outgoing : later.outgoing = session.outgoing
  client : later.client = session.client
  journal : later.journal = session.journal

/-- Outside of the rounds of tokens a session rests in its stage. -/
theorem restingStage_of_ne (other : session.stage ≠ .intermediate) :
    session.restingStage = session.stage :=
  if_neg fun both => other both.1

/-- With an incomplete mechanism a session rests in its stage. -/
theorem restingStage_of_incomplete
    (incomplete : Mechanism.isComplete session.client = false) :
    session.restingStage = session.stage := by
  refine if_neg fun both => ?_
  cases incomplete.symm.trans both.2

/-- A session that is unchanged has come to rest. -/
theorem Unchanged.rested (unchanged : session.Unchanged later)
    (same : session.restingStage = session.stage) : session.Rested later where
  transport := unchanged.transport
  stage := unchanged.stage.trans same.symm
  outgoing := unchanged.outgoing
  client := unchanged.client
  journal := unchanged.journal

/-- Completing is the one step that does not wait for a byte. -/
theorem FindsNothing.exchangeTokens
    (nothing : FindsNothing receiveFrame session)
    (stage : session.stage = .intermediate)
    (idle : session.outgoing = none) :
    exchangeTokens.Ensures session
      (fun _ later => session.Rested later)
      (fun _ _ => False) := by
  rw [Session.exchangeTokens]
  apply Ensures.bind nothing.receiveToken
  rintro _ between ⟨rfl, unchanged⟩
  simp only [pure_bind, ensures_bind, ensures_get]
  by_cases complete : Mechanism.isComplete between.client = true
  · rw [if_pos complete, ensures_modify]
    have stillIdle := unchanged.outgoing.trans idle
    have completes :
        session.restingStage =
          .afterClientComplete between.authenticateVersion.isSome false := by
      rw [unchanged.client] at complete
      rw [restingStage, if_pos ⟨stage, complete⟩,
        unchanged.authenticateVersion]
    have moved :
        Stage.afterClientComplete between.authenticateVersion.isSome false =
          session.restingStage :=
      completes.symm
    rw [moved]
    constructor
    case transport =>
      exact unchanged.transport.trans (kept_setStage _ _)
    case stage =>
      exact (stage_setStage stillIdle _).1
    case outgoing =>
      exact (outgoing_setStage _ _).trans unchanged.outgoing
    case client =>
      exact (client_setStage _ _).trans unchanged.client
    case journal =>
      exact (journal_setStage _ _).trans unchanged.journal
  · rw [if_neg complete, ensures_pure]
    rw [unchanged.client, Bool.not_eq_true] at complete
    exact unchanged.rested (restingStage_of_incomplete complete)

/-- A session that waits for an answer goes on waiting. -/
theorem Tracks.ensures_handle_of_cannotRead
    (tracks : Tracks origin session point)
    (rests : Rests session.stage session.pending point)
    (isAwaiting : point.activity.isAwaiting = true)
    (cannot : session.transport.CannotRead) :
    (handle session.stage).Ensures session
      (fun _ later => session.Rested later)
      (fun _ _ => False) := by
  have nothing := tracks.findsNothing cannot
  have idle :=
    tracks.outgoing_eq_none (Activity.isWriting_of_isAwaiting isAwaiting)
  cases rests with
  | asking _ _ _ current | starting _ _ _ current
  | writing _ _ _ _ _ current | writingNext _ _ _ _ _ _ current =>
      rw [current] at isAwaiting
      cases isAwaiting
  | awaitingFinal token header stage pending complete awaiting =>
      have same : session.restingStage = session.stage :=
        restingStage_of_ne (by rw [stage]; exact Stage.noConfusion)
      rw [stage]
      apply Ensures.bind nothing.receiveToken
      rintro _ between ⟨rfl, unchanged⟩
      exact unchanged.rested same
  | awaiting task header stage pending suits awaiting =>
      cases task with
      | versions =>
          have same : session.restingStage = session.stage :=
            restingStage_of_ne (by rw [stage]; exact Stage.noConfusion)
          rw [stage]
          apply Ensures.bind nothing.acceptApiVersions
          rintro _ between ⟨rfl, unchanged⟩
          exact unchanged.rested same
      | handshake =>
          have same : session.restingStage = session.stage :=
            restingStage_of_ne (by rw [stage]; exact Stage.noConfusion)
          rw [stage]
          apply Ensures.bind nothing.acceptHandshake
          rintro _ between ⟨rfl, unchanged⟩
          exact unchanged.rested same
      | token content =>
          rw [stage]
          exact nothing.exchangeTokens stage idle

/-! ## Writing nothing -/

/-- A session after a call over a transport that moves nothing. -/
structure Idles (session later : Session SaslClient) : Prop where
  transport : session.transport.Kept later.transport
  stage : later.stage = session.restingStage
  /-- A further call leaves the stage as it is. -/
  settled : later.restingStage = later.stage

/-- A session that stays as it is idles unless it has to move on. -/
theorem idles_of_same (kept : session.transport.Kept later.transport)
    (stage : later.stage = session.stage)
    (client : later.client = session.client)
    (same : session.restingStage = session.stage) : session.Idles later where
  transport := kept
  stage := stage.trans same.symm
  settled := by
    by_cases intermediate : session.stage = .intermediate
    · refine restingStage_of_incomplete ?_
      rw [client]
      by_contra complete
      rw [Bool.not_eq_false] at complete
      rw [restingStage, if_pos ⟨intermediate, complete⟩, intermediate,
        Stage.afterClientComplete] at same
      split at same <;> cases same
    · exact restingStage_of_ne (by rw [stage]; exact intermediate)

/-- A session that has come to rest is idle. -/
theorem Rested.idles (rested : session.Rested later) : session.Idles later where
  transport := rested.transport
  stage := rested.stage
  settled := by
    by_cases moves :
        session.stage = .intermediate ∧
          Mechanism.isComplete session.client = true
    · refine restingStage_of_ne ?_
      rw [rested.stage, restingStage, if_pos moves, Stage.afterClientComplete]
      split <;> exact Stage.noConfusion
    · have same : session.restingStage = session.stage := if_neg moves
      exact (idles_of_same rested.transport (rested.stage.trans same)
        rested.client same).settled

/-- A session that has made a frame and could not write any of it. -/
structure Queued (session later : Session SaslClient) : Prop where
  transport : session.transport.Kept later.transport
  stage : later.stage = session.stage
  busy : later.outgoing.isSome = true

/-- Over an idle transport a frame is queued, and nothing of it is sent. -/
theorem ensures_send_of_isIdle (idle : session.transport.IsIdle)
    (header : Option RequestHeader) {outgoing : Outgoing}
    (unsent : outgoing.remaining ≠ []) :
    (send header outgoing).Ensures session
      (fun _ later => session.Queued later)
      (fun _ _ => False) := by
  obtain ⟨transport, writes, kept⟩ :=
    outgoing.writeAfter_of_isIdle idle 0
  have writesNow :
      outgoing.writeTo
          (session.note (.framed header outgoing.remaining)).transport =
        (.ok 0, outgoing, transport) :=
    writes
  have incomplete : outgoing.isComplete = false := by
    simpa [Outgoing.isComplete] using unsent
  rw [send, ensures_bind, ensures_modify, ensures_discard,
    ensures_flush_iff rfl]
  simp only [writesNow, incomplete, Bool.false_eq_true, if_false]
  exact ⟨kept.setWriteInterest true, rfl, rfl⟩

/-- A request that can be made is queued. -/
theorem ensures_sendRequest_of_isIdle (idle : session.transport.IsIdle)
    {request : Request} {outgoing : Outgoing}
    (made :
      request.toOutgoing session.node
          { api := request.api, version := request.version
            correlationId := session.correlationId
            clientId := session.config.clientId } =
        .ok outgoing) :
    (sendRequest request).Ensures session
      (fun _ later => session.Queued later)
      (fun _ _ => False) := by
  obtain ⟨payload, -, framed⟩ := except_bind_eq_ok_iff.mp made
  have unsent :=
    Outgoing.remaining_ne_nil (except_mapError_eq_ok_iff.mp framed)
  rw [sendRequest, ensures_bind, nextHeader, ensures_bind, ensures_get]
  simp only [ensures_bind, ensures_set, ensures_pure, ensures_get, made,
    ensures_modify]
  refine Ensures.weaken (ensures_send_of_isIdle (by exact idle) _ unsent) ?_
    fun _ _ => id
  rintro _ later ⟨kept, stage, busy⟩
  exact ⟨kept, stage, busy⟩

/-- A raw token that can be framed is queued. -/
theorem ensures_sendProduced_of_isIdle (idle : session.transport.IsIdle)
    (unwrapped : session.authenticateVersion = none) {token : Bytes}
    {outgoing : Outgoing}
    (made : Outgoing.ofPayload session.node token = .ok outgoing) :
    (sendProduced (some token)).Ensures session
      (fun _ later => session.Queued later)
      (fun _ _ => False) := by
  rw [sendProduced, ensures_bind, ensures_get]
  simp only [unwrapped, made]
  exact (ensures_send_of_isIdle idle none
    (Outgoing.remaining_ne_nil made)).bind fun _ _ queued => queued

/-- The next stage is pending while a frame is queued. -/
theorem Queued.idles (queued : session.Queued later)
    (other : session.stage ≠ .intermediate) (next : Stage) :
    session.Idles (later.setStage next) := by
  have stage :=
    (stage_setStage_of_writing queued.busy next).1.trans queued.stage
  have same := restingStage_of_ne other
  exact ⟨queued.transport.trans (kept_setStage later next),
    stage.trans same.symm,
    restingStage_of_ne (by rw [stage]; exact other)⟩

/-- The first frame is queued if it can be made. -/
theorem Tracks.ensures_handle_of_isIdle
    (tracks : Tracks origin session point)
    (rests : Rests session.stage session.pending point)
    (free : session.outgoing = none) (idle : session.transport.IsIdle)
    (fresh : origin.exchange.client.IsFresh)
    (opens : frames session.journal ≠ [] ∨ origin.exchange.CanOpen) :
    (handle session.stage).Ensures session
      (fun _ later => session.Idles later)
      (fun _ _ => False) := by
  by_cases isAwaiting : point.activity.isAwaiting = true
  · exact (tracks.ensures_handle_of_cannotRead rests isAwaiting
      idle.toCannotRead).weaken (fun _ _ rested => rested.idles) fun _ _ => id
  · cases rests with
    | awaiting _ _ _ _ _ current | awaitingFinal _ _ _ _ _ current =>
        rw [current] at isAwaiting
        exact (isAwaiting rfl).elim
    | writing _ _ _ _ _ current | writingNext _ _ _ _ _ _ current =>
        have isWriting := tracks.outgoing
        rw [free, current] at isWriting
        cases isWriting
    | asking stage pending stillFresh ready =>
        obtain ⟨enabled, nothing, firstId⟩ := tracks.script.unasked ready
        have canOpen := opens.resolve_left fun some => some nothing
        rw [Exchange.CanOpen, if_pos enabled] at canOpen
        obtain ⟨framing, framed⟩ := canOpen
        obtain ⟨outgoing, made⟩ := framed.exists_outgoing rfl session.node
        have other : session.stage ≠ .intermediate := by
          rw [stage]
          exact Stage.noConfusion
        rw [← firstId, ← tracks.correlationId, ← tracks.config] at made
        rw [stage]
        exact (ensures_sendRequest_of_isIdle idle made).bind
          fun _ between queued => queued.idles other _
    | starting stage pending stillFresh challenged unasked unsettled =>
        obtain ⟨disabled, nothing, same⟩ :=
          tracks.script.unopened fresh stillFresh challenged unasked
        have canOpen := opens.resolve_left fun some => some nothing
        rw [Exchange.CanOpen, disabled, if_neg Bool.false_ne_true] at canOpen
        obtain ⟨token, next, framing, evaluated, framed⟩ := canOpen
        have other : session.stage ≠ .intermediate := by
          rw [stage]
          exact Stage.noConfusion
        have incomplete : Mechanism.isComplete session.client = false := by
          rw [tracks.client]
          exact SaslClient.not_isComplete_of_isFresh stillFresh
        have unwrapped : session.authenticateVersion = none := by
          have version := congrArg Terms.authenticateVersion tracks.terms
          rw [unsettled] at version
          exact version
        cases framed with
        | request asked =>
            cases asked
        | raw noVersion encoded =>
            obtain ⟨outgoing, made⟩ :=
              Outgoing.exists_ofPayload session.node encoded
            rw [stage]
            change sendInitialToken.Ensures session _ _
            rw [sendInitialToken, ensures_bind, ensures_discard, sendToken_eq,
              ensures_bind, ensures_get, incomplete,
              if_neg Bool.false_ne_true, ensures_bind, ensures_nextToken_iff]
            simp only [SaslClient.hasInitialResponse, Bool.not_true,
              Bool.and_false, Bool.false_eq_true, if_false, tracks.client,
              same, evaluated]
            refine Ensures.weaken
              (ensures_sendProduced_of_isIdle (by exact idle)
                (by exact unwrapped) (by exact made)) ?_ fun _ _ => id
            rintro _ later ⟨kept, sameStage, busy⟩
            have queued : session.Queued later := ⟨kept, sameStage, busy⟩
            exact queued.idles other _

/-- A frame that is being written stays as it is. -/
theorem ensures_flush_of_isIdle (attends : Attends session)
    (busy : session.outgoing.isSome = true)
    (idle : session.transport.IsIdle)
    (same : session.restingStage = session.stage) :
    flush.Ensures session
      (fun done later => done = false ∧ session.Idles later)
      (fun _ _ => False) := by
  obtain ⟨outgoing, isOutgoing⟩ := Option.isSome_iff_exists.mp busy
  obtain ⟨transport, writes, kept⟩ :=
    outgoing.writeAfter_of_isIdle idle 0
  have incomplete : outgoing.isComplete = false := by
    simpa [Outgoing.isComplete] using (attends outgoing isOutgoing).1
  rw [ensures_flush_iff isOutgoing, Outgoing.writeTo, writes]
  simp only [incomplete, Bool.false_eq_true, if_false, true_and]
  exact idles_of_same (kept.setWriteInterest true) rfl rfl same

/-- A session that is writing is not one that has to move on. -/
theorem Rests.restingStage_eq
    (rests : Rests session.stage session.pending point)
    (tracks : Tracks origin session point)
    (isWriting : point.activity.isWriting = true) :
    session.restingStage = session.stage := by
  cases rests with
  | asking _ _ _ current | starting _ _ _ current
  | awaiting _ _ _ _ _ current | awaitingFinal _ _ _ _ _ current =>
      rw [current] at isWriting
      cases isWriting
  | writing task header stage =>
      refine restingStage_of_ne ?_
      rw [stage]
      cases task <;> exact Stage.noConfusion
  | writingNext token header stage pending begun incomplete =>
      exact restingStage_of_incomplete (tracks.client ▸ incomplete)

/-- Over an idle transport to advance leaves a session idle. -/
theorem Advances.ensures_advance_of_isIdle (advances : Advances origin session)
    (idle : session.transport.IsIdle)
    (fresh : origin.exchange.client.IsFresh)
    (opens : frames session.journal ≠ [] ∨ origin.exchange.CanOpen) :
    advance.Ensures session
      (fun _ later => session.Idles later)
      (fun _ _ => False) := by
  rw [advance, ensures_bind, ensures_get]
  rcases advances with ⟨point, tracks, attends, rests⟩ | finished
  · by_cases busy : session.outgoing.isSome = true
    · rw [if_pos busy]
      have same := rests.restingStage_eq tracks (tracks.outgoing.symm.trans busy)
      apply (ensures_flush_of_isIdle attends busy idle same).bind
      rintro _ between ⟨rfl, idles⟩
      exact idles
    · have free : session.outgoing = none := by
        simpa using busy
      rw [if_neg busy, ensures_bind, ensures_get]
      exact tracks.ensures_handle_of_isIdle rests free idle fresh opens
  · rw [if_neg (by rw [finished.outgoing]; exact Bool.false_ne_true),
      ensures_bind, ensures_get, finished.stage]
    exact idles_of_same (.refl _) rfl rfl
      (restingStage_of_ne (by rw [finished.stage]; exact Stage.noConfusion))

/-! ## Calls that move nothing -/

/-- A call that cannot throw returns. -/
theorem authenticate_of_ensures {returned : Session SaslClient → Prop}
    (notFailed : session.stage ≠ .failed)
    (ensures :
      advance.Ensures session.begin (fun _ later => returned later)
        (fun _ _ => False)) :
    session.authenticate.1 = .ok () ∧ returned session.authenticate.2 := by
  rcases ensures.authenticate notFailed with
    ⟨later, same, returned⟩ | ⟨cause, later, -, impossible⟩
  · rw [same]
    exact ⟨rfl, returned⟩
  · exact impossible.elim

/-- A call that has returned leaves a session that advances. -/
theorem Advances.of_authenticate_ok (advances : Advances origin session)
    (succeeded : session.authenticate.1 = .ok ()) :
    Advances origin session.authenticate.2 := by
  rcases advances.authenticate with ⟨-, later⟩ | ⟨cause, reported, -⟩
  · exact later
  · cases succeeded.symm.trans reported

/-- One call over a transport that moves nothing. -/
theorem Advances.authenticate_of_isIdle (advances : Advances origin session)
    (idle : session.transport.IsIdle)
    (fresh : origin.exchange.client.IsFresh)
    (opens : frames session.journal ≠ [] ∨ origin.exchange.CanOpen) :
    session.authenticate.1 = .ok () ∧ session.Idles session.authenticate.2 := by
  obtain ⟨ledger, isBegun⟩ := session.exists_begin
  have ensures := advances.begin.ensures_advance_of_isIdle
    (by rw [isBegun]; exact idle) fresh (by rw [isBegun]; exact opens)
  rw [isBegun] at ensures
  refine authenticate_of_ensures advances.stage_ne_failed ?_
  rw [isBegun]
  refine ensures.weaken ?_ fun _ _ => id
  rintro _ later ⟨kept, stage, settled⟩
  exact ⟨kept, stage, settled⟩

/-- What any number of calls leaves behind that move nothing. -/
structure StaysIdle (session later : Session SaslClient) (count : Nat) :
    Prop where
  transport : session.transport.Kept later.transport
  stage :
    later.stage = if count = 0 then session.stage else session.restingStage
  /-- One more call succeeds as well. -/
  succeeds : later.authenticate.1 = .ok ()

/-- Over an idle transport any number of calls leaves a session idle. -/
theorem Advances.staysIdle (advances : Advances origin session)
    (idle : session.transport.IsIdle)
    (fresh : origin.exchange.client.IsFresh)
    (opens : frames session.journal ≠ [] ∨ origin.exchange.CanOpen)
    (count : Nat) :
    session.StaysIdle (session.run (List.replicate count .authenticate))
      count := by
  induction count generalizing session with
  | zero =>
      exact ⟨.refl _, rfl,
        (advances.authenticate_of_isIdle idle fresh opens).1⟩
  | succ count inductionHypothesis =>
      obtain ⟨succeeded, kept, stage, settled⟩ :=
        advances.authenticate_of_isIdle idle fresh opens
      have stillOpens :
          frames session.authenticate.2.journal ≠ [] ∨
            origin.exchange.CanOpen := by
        refine opens.imp_left fun some nothing => some ?_
        rw [journal_authenticate, frames_append] at nothing
        exact (List.append_eq_nil_iff.mp nothing).1
      obtain ⟨keptOn, stageAfter, succeeds⟩ :=
        inductionHypothesis (advances.of_authenticate_ok succeeded)
          (kept.isIdle idle) stillOpens
      refine ⟨kept.trans keptOn, ?_, succeeds⟩
      rw [if_neg (Nat.succ_ne_zero count), ← stage]
      refine stageAfter.trans ?_
      rw [settled, ite_self]

/-! ## Sessions that wait to read -/

/-- A framing event tells of a frame. -/
theorem frames_ne_nil_of_framed {earlier later : List Event}
    {header : Option RequestHeader} {frame : Bytes}
    {journal : List Event}
    (shape : journal = earlier ++ .framed header frame :: later) :
    frames journal ≠ [] := by
  rw [shape, frames_append_cons]
  simp

/-- A session that has posted a frame has made one. -/
theorem Posted.frames_ne_nil {client : SaslClient} {task : Task} {stage : Stage}
    (posted : Posted origin session client task stage) :
    frames session.journal ≠ [] := by
  obtain ⟨point, header, -, activity, tracks, -⟩ := posted
  have ends := tracks.script.ends
  rcases activity with current | current
  · rw [current] at ends
    obtain ⟨earlier, frame, shape⟩ := ends
    exact frames_ne_nil_of_framed shape
  · rw [current] at ends
    obtain ⟨earlier, frame, shape⟩ := ends
    exact frames_ne_nil_of_framed shape

/-- A call that returns has sent something, unless the session is complete. -/
theorem Advances.ensures_frames (advances : Advances origin session)
    (nothing : frames session.journal = []) :
    advance.Ensures session
      (fun _ later => later.stage = .complete ∨ frames later.journal ≠ [])
      (fun _ _ => True) := by
  rw [advance, ensures_bind, ensures_get]
  rcases advances with ⟨point, tracks, -, rests⟩ | finished
  · have ends := tracks.script.ends
    cases rests with
    | writing _ _ _ _ _ current | awaiting _ _ _ _ _ current
    | writingNext _ _ _ _ _ _ current | awaitingFinal _ _ _ _ _ current =>
        rw [current] at ends
        obtain ⟨earlier, frame, shape⟩ := ends
        exact (frames_ne_nil_of_framed shape nothing).elim
    | asking stage pending stillFresh ready =>
        have free := tracks.outgoing_eq_none (by rw [ready]; rfl)
        rw [if_neg (by rw [free]; exact Bool.false_ne_true), ensures_bind,
          ensures_get, stage]
        refine Ensures.bind
          ((ensures_sendRequest tracks ready rfl pending).weaken
            (fun _ _ posted => posted) fun _ _ _ => trivial) ?_
        intro _ between posted
        rw [ensures_modify, journal_setStage]
        exact Or.inr posted.frames_ne_nil
    | starting stage pending stillFresh challenged =>
        have free := tracks.outgoing_eq_none (by rw [challenged]; rfl)
        rw [if_neg (by rw [free]; exact Bool.false_ne_true), ensures_bind,
          ensures_get, stage]
        change sendInitialToken.Ensures session _ _
        rw [sendInitialToken, ensures_bind, ensures_discard]
        refine (ensures_sendToken true tracks challenged pending).weaken ?_
          fun _ _ _ => trivial
        intro sent between ensured
        rw [ensures_modify, journal_setStage]
        cases sent with
        | true =>
            obtain ⟨token, next, -, -, posted⟩ := ensured
            exact Or.inr posted.frames_ne_nil
        | false =>
            obtain ⟨token, begun, evaluated, -⟩ :=
              SaslClient.evaluate_of_isFresh stillFresh
            rcases ensured.2 with ⟨complete, -⟩ | ⟨next, -, silent, -⟩
            · cases
                (SaslClient.not_isComplete_of_isFresh stillFresh).symm.trans
                  complete
            · cases evaluated.symm.trans silent
  · rw [if_neg (by rw [finished.outgoing]; exact Bool.false_ne_true),
      ensures_bind, ensures_get, finished.stage]
    exact Or.inl finished.stage

end Session

end BrokerSession
