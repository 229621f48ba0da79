import BrokerSession.Proofs.Broker.Request
import BrokerSession.Proofs.Channel.HangUp
import BrokerSession.Proofs.Config.Validation
import BrokerSession.Proofs.Session.Idleness
import BrokerSession.Proofs.Session.Outline

namespace BrokerSession

/-!
# Calls after the peer has hung up

Once the peer has hung up a call never returns to wait.  Whatever it has to
write fails, and what it has to read is there or will never come.  The one way
to succeed is to find the last frame that the session was waiting for.
-/

/-- The frame that opens an exchange can be made if the first token fits it. -/
theorem Exchange.canOpen_of_isUsable {exchange : Exchange}
    (usable : exchange.config.IsUsable) (fresh : exchange.client.IsFresh)
    (fits :
      ∀ token,
        (Mechanism.evaluate exchange.client []).1 = .ok (some token) →
          token.length ≤ maxFrameSize) :
    exchange.CanOpen := by
  rw [CanOpen]
  split
  · let request : Request :=
      { body := .apiVersions, version := ApiKey.apiVersions.oldestVersion }
    have encoded : request.encode = .ok [] :=
      Request.encode_apiVersions (by decide)
    have identified :
        ∀ clientId ∈ (Task.headerOf exchange.config (-1) request).clientId,
          clientId.utf8ByteSize ≤ Encode.maxStringLength :=
      usable.identified
    obtain ⟨payload, serialized, sized⟩ :=
      Request.exists_serialize identified encoded
    have small : payload.length ≤ maxFrameSize := by
      rw [sized, Task.headerOf, maxFrameSize, List.length_nil]
      cases isClientId : exchange.config.clientId with
      | none =>
          rw [Option.elim_none]
          omega
      | some clientId =>
          have bounded := usable.identified clientId isClientId
          rw [Encode.maxStringLength] at bounded
          rw [Option.elim_some]
          omega
    exact ⟨_, .request rfl serialized
      (FrameCodec.encode_eq_ok_iff.mpr ⟨small, small, rfl⟩)⟩
  · obtain ⟨token, next, evaluated, -⟩ := SaslClient.evaluate_of_isFresh fresh
    have small := fits token (by rw [evaluated])
    exact ⟨token, next, _, evaluated, .raw rfl
      (FrameCodec.encode_eq_ok_iff.mpr ⟨small, small, rfl⟩)⟩

/-- The first token fits a frame if an exchange can open with it. -/
theorem Exchange.CanOpen.fits {exchange : Exchange}
    (canOpen : exchange.CanOpen)
    (disabled : exchange.config.handshakeRequestEnable = false) {token : Bytes}
    (produced :
      (Mechanism.evaluate exchange.client []).1 = .ok (some token)) :
    token.length ≤ maxFrameSize := by
  rw [Exchange.CanOpen, disabled, if_neg Bool.false_ne_true] at canOpen
  obtain ⟨other, next, framing, evaluated, framed⟩ := canOpen
  rw [evaluated] at produced
  cases produced
  cases framed with
  | request asked =>
      cases asked
  | raw unwrapped encoded =>
      exact (FrameCodec.encode_eq_ok_iff.mp encoded).1

namespace Session

open SessionM

variable {origin : Origin} {session between later : Session SaslClient}
  {point : Point} {Content : Type}

/-! ## Writing -/

/-- Nothing is sent any more. -/
theorem ensures_flush_of_hasHungUp {outgoing : Outgoing}
    (hungUp : session.transport.HasHungUp)
    (isOutgoing : session.outgoing = some outgoing)
    (unsent : outgoing.remaining ≠ []) :
    flush.Ensures session (fun _ _ => False)
      (fun cause _ => cause = .connectionClosed session.node) := by
  rw [ensures_flush_iff isOutgoing, Outgoing.writeTo_of_hasHungUp hungUp unsent]
  rfl

theorem ensures_send_of_hasHungUp (hungUp : session.transport.HasHungUp)
    (header : Option RequestHeader) {outgoing : Outgoing}
    (unsent : outgoing.remaining ≠ []) :
    (send header outgoing).Ensures session (fun _ _ => False)
      (fun cause _ => cause = .connectionClosed session.node) := by
  rw [send, ensures_bind, ensures_modify, ensures_discard]
  exact ensures_flush_of_hasHungUp hungUp rfl unsent

/-- A request is not sent, be it that it cannot even be framed. -/
theorem ensures_sendRequest_of_hasHungUp
    (hungUp : session.transport.HasHungUp) (request : Request) :
    (sendRequest request).Ensures session (fun _ _ => False)
      (fun cause _ =>
        (∃ outgoing,
          request.toOutgoing session.node
              (Task.headerOf session.config session.correlationId request) =
            .ok outgoing) →
          cause = .connectionClosed session.node) := by
  rw [sendRequest, ensures_bind, nextHeader, ensures_bind, ensures_get]
  simp only [ensures_bind, ensures_set, ensures_pure, ensures_get]
  split
  · next cause refused =>
      rintro ⟨outgoing, made⟩
      cases refused.symm.trans made
  · next outgoing made =>
      obtain ⟨payload, -, framed⟩ := except_bind_eq_ok_iff.mp made
      have unsent :=
        Outgoing.remaining_ne_nil (except_mapError_eq_ok_iff.mp framed)
      rw [ensures_bind, ensures_modify]
      refine (ensures_send_of_hasHungUp (by exact hungUp) _ unsent).weaken
        (fun _ _ => id) ?_
      exact fun _ _ closed _ => closed

theorem ensures_sendProduced_of_hasHungUp
    (hungUp : session.transport.HasHungUp) (token : Bytes) :
    (sendProduced (some token)).Ensures session (fun _ _ => False)
      (fun cause _ =>
        session.authenticateVersion = none →
          token.length ≤ maxFrameSize →
            cause = .connectionClosed session.node) := by
  rw [sendProduced, ensures_bind, ensures_get]
  cases isVersion : session.authenticateVersion with
  | some version =>
      rw [ensures_bind]
      refine (ensures_sendRequest_of_hasHungUp hungUp _).weaken
        (fun _ _ => False.elim) ?_
      rintro _ _ - ⟨⟩
  | none =>
      dsimp only
      split
      · next cause refused =>
          intro _ small
          obtain ⟨outgoing, made⟩ :=
            Outgoing.exists_ofPayload session.node
              (FrameCodec.encode_eq_ok_iff.mpr ⟨small, small, rfl⟩)
          cases refused.symm.trans made
      · next outgoing made =>
          rw [ensures_bind]
          exact (ensures_send_of_hasHungUp hungUp none
            (Outgoing.remaining_ne_nil made)).weaken (fun _ _ => False.elim)
            fun _ _ closed _ _ => closed

/-- A fresh mechanism has a first token, which is not sent. -/
theorem ensures_sendInitialToken_of_hasHungUp
    (hungUp : session.transport.HasHungUp) (fresh : session.client.IsFresh) :
    sendInitialToken.Ensures session (fun _ _ => False)
      (fun cause _ =>
        session.authenticateVersion = none →
          (∀ token,
            (Mechanism.evaluate session.client []).1 = .ok (some token) →
              token.length ≤ maxFrameSize) →
            cause = .connectionClosed session.node) := by
  obtain ⟨token, next, evaluated, -⟩ := SaslClient.evaluate_of_isFresh fresh
  have incomplete := SaslClient.not_isComplete_of_isFresh fresh
  rw [sendInitialToken, ensures_bind, ensures_discard, sendToken_eq,
    ensures_bind, ensures_get, incomplete, if_neg Bool.false_ne_true,
    ensures_bind, ensures_nextToken_iff]
  simp only [SaslClient.hasInitialResponse, Bool.not_true, Bool.and_false,
    Bool.false_eq_true, if_false, evaluated]
  refine (ensures_sendProduced_of_hasHungUp (by exact hungUp) token).weaken
    (fun _ _ => False.elim) ?_
  exact fun _ _ closed unwrapped fits => closed unwrapped (fits token rfl)

/-- A mechanism that has begun has to be content with what it was sent. -/
theorem ensures_sendToken_of_hasHungUp (hungUp : session.transport.HasHungUp)
    (begun : session.client.HasBegun) (challenge : Bytes) :
    (sendToken challenge false).Ensures session
      (fun sent later =>
        sent = false ∧ Mechanism.isComplete later.client = true ∧
          later.outgoing = session.outgoing ∧
          later.transport = session.transport ∧
          ∃ events, later.journal = session.journal ++ events)
      (fun _ _ => True) := by
  rw [sendToken_eq, ensures_bind, ensures_get]
  by_cases complete : Mechanism.isComplete session.client = true
  · rw [if_pos complete]
    exact ⟨rfl, complete, rfl, rfl, [], (List.append_nil _).symm⟩
  rw [if_neg complete, ensures_bind, ensures_nextToken_iff, Bool.false_and,
    if_neg Bool.false_ne_true]
  rw [Bool.not_eq_true] at complete
  split
  · trivial
  · next token next evaluated =>
      have ends := (SaslClient.hasBegun_of_evaluate begun complete evaluated).2
      cases token with
      | none =>
          exact ⟨rfl, ends, rfl, rfl, _, rfl⟩
      | some token =>
          exact (ensures_sendProduced_of_hasHungUp (by exact hungUp)
            token).weaken (fun _ _ => False.elim) fun _ _ _ => trivial

theorem ensures_requestHandshake_of_hasHungUp
    (hungUp : session.transport.HasHungUp) :
    requestHandshake.Ensures session (fun _ _ => False) (fun _ _ => True) := by
  rw [requestHandshake, ensures_bind, ensures_get, ensures_bind]
  exact (ensures_sendRequest_of_hasHungUp hungUp _).weaken
    (fun _ _ => False.elim) fun _ _ _ => trivial

/-! ## Reading -/

/-- The next frame in what a session has read of it and could still read. -/
def found (session : Session SaslClient) :
    Except IoError (Option (Bytes × Bytes)) :=
  FrameCodec.decode ⟨session.config.maxReceiveSize⟩
    (session.held ++ session.transport.inbound)

/-- Whether the frame that was found has been taken, and nothing behind it. -/
def HasTaken (session later : Session SaslClient) : Prop :=
  ∃ payload events,
    session.found = .ok (some (payload, later.transport.inbound)) ∧
      later.journal = session.journal ++ .taken payload :: events

/-- A session that has read, and nothing else that matters to its next step. -/
structure Consumed (session later : Session SaslClient) : Prop where
  hasTaken : session.HasTaken later
  hungUp : later.transport.HasHungUp
  client : later.client = session.client
  outgoing : later.outgoing = session.outgoing

theorem HasTaken.exists_found (hasTaken : session.HasTaken later) :
    ∃ frame, session.found = .ok (some frame) := by
  obtain ⟨payload, -, isFound, -⟩ := hasTaken
  exact ⟨_, isFound⟩

theorem HasTaken.setStage (hasTaken : session.HasTaken later) (stage : Stage) :
    session.HasTaken (later.setStage stage) := by
  rw [Session.setStage]
  split
  · exact hasTaken
  · dsimp only
    split <;> exact hasTaken

theorem Consumed.setStage (consumed : session.Consumed later) (stage : Stage) :
    session.Consumed (later.setStage stage) where
  hasTaken := consumed.hasTaken.setStage stage
  hungUp := by
    rw [Session.setStage]
    split
    · exact consumed.hungUp
    · dsimp only
      split
      · exact { consumed.hungUp with }
      · exact consumed.hungUp
  client := (client_setStage later stage).trans consumed.client
  outgoing := (outgoing_setStage later stage).trans consumed.outgoing

/-- A failure that says why no frame was found, if none was. -/
structure Explains (session : Session SaslClient) (cause : SessionError) :
    Prop where
  ended :
    session.found = .ok none → cause = .connectionClosed session.node
  refused :
    ∀ failure, session.found = .error failure →
      cause = .invalidSaslResponse (.io failure)

/-- There is nothing to explain once a frame was taken. -/
theorem Consumed.explains (consumed : session.Consumed later)
    (cause : SessionError) : session.Explains cause := by
  obtain ⟨frame, isFound⟩ := consumed.hasTaken.exists_found
  constructor
  · intro nothing
    cases nothing.symm.trans isFound
  · intro failure refused
    cases refused.symm.trans isFound

/-- A computation that takes the frame, or says why there is none. -/
def TakesFound (action : SessionM SaslClient (Option Content))
    (session : Session SaslClient) : Prop :=
  action.Ensures session
    (fun received later => received.isSome = true ∧ session.Consumed later)
    (fun cause _ => session.Explains cause)

theorem Tracks.takesFound (tracks : Tracks origin session point)
    (hungUp : session.transport.HasHungUp) :
    TakesFound receiveFrame session := by
  obtain ⟨incoming, isIncoming, isHeld, isPartial⟩ := tracks.exists_incoming
  have serves := isPartial.serves_readAfter 0 session.transport hungUp
  have isFound :
      session.found =
        FrameCodec.decode ⟨origin.exchange.config.maxReceiveSize⟩
          (incoming.buffer ++ session.transport.inbound) := by
    rw [found, isHeld, isPartial.consumed_eq, tracks.config]
  rw [TakesFound, ensures_receiveFrame_iff isIncoming]
  rw [← Incoming.readFrom] at serves
  generalize decoded :
    FrameCodec.decode ⟨origin.exchange.config.maxReceiveSize⟩
      (incoming.buffer ++ session.transport.inbound) = next at serves
  rw [decoded] at isFound
  generalize incoming.readFrom session.transport = result at serves
  cases serves with
  | @whole payload rest count left isPayload =>
      dsimp only
      rw [isPayload]
      exact ⟨rfl, ⟨payload, [], isFound, rfl⟩, { hungUp with }, rfl, rfl⟩
  | ended =>
      refine ⟨fun _ => rfl, fun failure refused => ?_⟩
      cases isFound.symm.trans refused
  | @refused failure =>
      have isInvalid : failure.kind = .invalidData :=
        (FrameCodec.peekSize_eq_error
          (FrameCodec.decode_eq_error_iff.mp decoded)).2
      dsimp only
      rw [if_pos isInvalid]
      refine ⟨fun nothing => ?_, fun other refused => ?_⟩
      · cases isFound.symm.trans nothing
      · cases isFound.symm.trans refused
        rfl

/-- Whatever is done with a frame that was taken explains itself. -/
theorem Consumed.andThen {action : SessionM SaslClient Content}
    {returned : Content → Session SaslClient → Prop}
    {thrown : SessionError → Session SaslClient → Prop}
    (consumed : session.Consumed between)
    (ensures : action.Ensures between returned thrown) :
    action.Ensures between returned (fun cause _ => session.Explains cause) :=
  ensures.weaken (fun _ _ => id) fun cause _ _ => consumed.explains cause

namespace TakesFound

theorem receiveResponse (takes : TakesFound receiveFrame session) :
    TakesFound receiveResponse session := by
  rw [TakesFound, Session.receiveResponse]
  apply Ensures.bind takes
  rintro (_ | payload) between ⟨isSome, consumed⟩
  · cases isSome
  obtain ⟨body, events, isFound, journal⟩ := consumed.hasTaken
  simp only [ensures_bind, ensures_get, ensures_set]
  split
  · exact consumed.explains _
  · split
    · exact consumed.explains _
    · exact consumed.explains _
    · next header _ _ response _ =>
        refine ⟨rfl, ⟨body, events ++ [.decoded header response], isFound, ?_⟩,
          consumed.hungUp, consumed.client, consumed.outgoing⟩
        simp [note, journal]

theorem receiveAs (takes : TakesFound receiveFrame session)
    (convert : Response → Except SessionError Content) :
    TakesFound (receiveAs convert) session := by
  rw [TakesFound, Session.receiveAs]
  apply Ensures.bind takes.receiveResponse
  rintro (_ | response) between ⟨isSome, consumed⟩
  · cases isSome
  · dsimp only
    split
    · exact ⟨rfl, consumed⟩
    · exact consumed.explains _

theorem receiveToken (takes : TakesFound receiveFrame session) :
    TakesFound receiveToken session := by
  rw [TakesFound, Session.receiveToken, ensures_bind, ensures_get]
  split
  · exact takes
  · apply Ensures.bind (takes.receiveAs _)
    rintro (_ | response) between ⟨isSome, consumed⟩
    · cases isSome
    · dsimp only
      split
      · exact ⟨rfl, consumed⟩
      · exact consumed.explains _

theorem acceptApiVersions (takes : TakesFound receiveFrame session) :
    acceptApiVersions.Ensures session
      (fun accepted later => accepted = true ∧ session.Consumed later)
      (fun cause _ => session.Explains cause) := by
  rw [Session.acceptApiVersions]
  apply Ensures.bind (takes.receiveAs _)
  rintro (_ | response) between ⟨isSome, consumed⟩
  · cases isSome
  · dsimp only
    split
    · simp only [ensures_bind, ensures_modify, ensures_pure, true_and]
      apply Consumed.setStage
      exact { consumed with }
    · exact consumed.explains _

theorem acceptHandshake (takes : TakesFound receiveFrame session) :
    acceptHandshake.Ensures session
      (fun accepted later => accepted = true ∧ session.Consumed later)
      (fun cause _ => session.Explains cause) := by
  rw [Session.acceptHandshake]
  apply Ensures.bind (takes.receiveAs _)
  rintro (_ | response) between ⟨isSome, consumed⟩
  · cases isSome
  · simp only [ensures_bind, ensures_get]
    split
    · exact consumed.explains _
    · simp only [ensures_bind, ensures_modify, ensures_pure, true_and]
      exact consumed.setStage .initial

/-- A token that ends the exchange completes the session. -/
theorem exchangeTokens (takes : TakesFound receiveFrame session)
    (begun : session.client.HasBegun) (idle : session.outgoing = none) :
    exchangeTokens.Ensures session
      (fun _ later => later.stage = .complete ∧ session.HasTaken later)
      (fun cause _ => session.Explains cause) := by
  rw [Session.exchangeTokens]
  apply Ensures.bind takes.receiveToken
  rintro (_ | token) between ⟨isSome, consumed⟩
  · cases isSome
  have stillBegun : between.client.HasBegun := consumed.client ▸ begun
  simp only [ensures_bind, ensures_map, ensures_get]
  refine (ensures_sendToken_of_hasHungUp consumed.hungUp stillBegun
    token).weaken ?_ fun cause _ _ => consumed.explains cause
  rintro _ later ⟨rfl, complete, outgoing, transport, events, journal⟩
  -- A token of its own could not have been sent, so the client has none.
  rw [if_pos complete, ensures_modify]
  have final :
      Stage.afterClientComplete later.authenticateVersion.isSome (!false) =
        .complete := by
    simp [Stage.afterClientComplete]
  have stillIdle := outgoing.trans (consumed.outgoing.trans idle)
  obtain ⟨payload, earlier, isFound, isJournal⟩ := consumed.hasTaken
  have hasTaken : session.HasTaken later := by
    refine ⟨payload, earlier ++ events, ?_, ?_⟩
    · rw [transport]
      exact isFound
    · rw [journal, isJournal, List.append_assoc]
      rfl
  rw [final]
  exact ⟨(stage_setStage stillIdle .complete).1, hasTaken.setStage .complete⟩

theorem receiveFinalResponse (takes : TakesFound receiveFrame session)
    (idle : session.outgoing = none) :
    receiveFinalResponse.Ensures session
      (fun _ later => later.stage = .complete ∧ session.HasTaken later)
      (fun cause _ => session.Explains cause) := by
  rw [Session.receiveFinalResponse]
  apply Ensures.bind takes.receiveToken
  rintro received between ⟨isSome, consumed⟩
  rw [if_pos isSome, ensures_modify]
  have stillIdle := consumed.outgoing.trans idle
  exact ⟨(stage_setStage stillIdle .complete).1,
    consumed.hasTaken.setStage .complete⟩

end TakesFound

/-! ## Calls -/

/-- Whether a call begins to read, with nothing left to write. -/
def IsReading (session : Session SaslClient) : Prop :=
  session.outgoing = none ∧ session.stage.isReceiving = true

/-- A session that waits for an answer has it or never will. -/
theorem Tracks.ensures_handle_of_isReading
    (tracks : Tracks origin session point)
    (rests : Rests session.stage session.pending point)
    (reading : session.IsReading) (hungUp : session.transport.HasHungUp) :
    (handle session.stage).Ensures session
      (fun _ later =>
        (session.stage = .intermediate ∨ session.stage = .clientComplete) ∧
          later.stage = .complete ∧ session.HasTaken later)
      (fun cause _ => session.Explains cause) := by
  obtain ⟨idle, receives⟩ := reading
  have takes := tracks.takesFound hungUp
  cases rests with
  | asking stage | starting stage =>
      rw [stage] at receives
      cases receives
  | writing _ _ _ _ _ current | writingNext _ _ _ _ _ _ current =>
      have isWriting := tracks.outgoing
      rw [idle, current] at isWriting
      cases isWriting
  | awaitingFinal token header stage =>
      rw [stage]
      exact (takes.receiveFinalResponse idle).weaken
        (fun _ _ ends => ⟨Or.inr rfl, ends⟩) fun _ _ => id
  | awaiting task header stage pending suits awaiting =>
      rw [stage]
      cases task with
      | versions =>
          apply takes.acceptApiVersions.bind
          rintro _ between ⟨rfl, consumed⟩
          rw [if_pos rfl]
          exact consumed.andThen
            ((ensures_requestHandshake_of_hasHungUp consumed.hungUp).weaken
              (fun _ _ => False.elim) fun _ _ => id)
      | handshake =>
          have fresh : session.client.IsFresh := tracks.client ▸ suits
          apply takes.acceptHandshake.bind
          rintro _ between ⟨rfl, consumed⟩
          rw [if_pos rfl]
          exact consumed.andThen
            ((ensures_sendInitialToken_of_hasHungUp consumed.hungUp
              (consumed.client ▸ fresh)).weaken
              (fun _ _ => False.elim) fun _ _ => id)
      | token content =>
          have begun : session.client.HasBegun := tracks.client ▸ suits
          exact (takes.exchangeTokens begun idle).weaken
            (fun _ _ ends => ⟨Or.inl rfl, ends⟩) fun _ _ => id

/-- A session that has something to send cannot. -/
theorem Advances.ensures_advance_of_not_isReading
    (advances : Advances origin session)
    (goesOn : session.stage.isTerminal = false)
    (writes : ¬ session.IsReading) (hungUp : session.transport.HasHungUp)
    (fresh : origin.exchange.client.IsFresh)
    (canOpen : origin.exchange.CanOpen) :
    advance.Ensures session (fun _ _ => False)
      (fun cause _ => cause = .connectionClosed session.node) := by
  rw [advance, ensures_bind, ensures_get]
  rcases advances with ⟨point, tracks, attends, rests⟩ | finished
  · by_cases busy : session.outgoing.isSome = true
    · obtain ⟨outgoing, isOutgoing⟩ := Option.isSome_iff_exists.mp busy
      have unsent := (attends outgoing isOutgoing).1
      rw [if_pos busy, ensures_bind]
      exact (ensures_flush_of_hasHungUp hungUp isOutgoing unsent).weaken
        (fun _ _ => False.elim) fun _ _ => id
    · have free : session.outgoing = none := by
        simpa using busy
      rw [if_neg busy, ensures_bind, ensures_get]
      cases rests with
      | awaiting task _ stage =>
          refine (writes ⟨free, ?_⟩).elim
          rw [stage]
          cases task <;> rfl
      | awaitingFinal _ _ stage =>
          refine (writes ⟨free, ?_⟩).elim
          rw [stage]
          rfl
      | writing _ _ _ _ _ current | writingNext _ _ _ _ _ _ current =>
          have isWriting := tracks.outgoing
          rw [free, current] at isWriting
          cases isWriting
      | asking stage pending stillFresh ready =>
          obtain ⟨enabled, -, firstId⟩ := tracks.script.unasked ready
          rw [Exchange.CanOpen, if_pos enabled] at canOpen
          obtain ⟨framing, framed⟩ := canOpen
          have made := framed.exists_outgoing rfl session.node
          rw [← firstId, ← tracks.correlationId, ← tracks.config] at made
          rw [stage]
          change requestApiVersions.Ensures session _ _
          rw [requestApiVersions, ensures_bind]
          exact (ensures_sendRequest_of_hasHungUp hungUp _).weaken
            (fun _ _ => False.elim) fun _ _ closed => closed made
      | starting stage pending stillFresh challenged unasked unsettled =>
          obtain ⟨disabled, -, same⟩ :=
            tracks.script.unopened fresh stillFresh challenged unasked
          have unwrapped : session.authenticateVersion = none := by
            have version := congrArg Terms.authenticateVersion tracks.terms
            rw [unsettled] at version
            exact version
          have isClient : session.client = origin.exchange.client :=
            tracks.client.trans same
          rw [stage]
          refine Ensures.weaken (ensures_sendInitialToken_of_hasHungUp hungUp
            (isClient ▸ fresh)) (fun _ _ => False.elim) ?_
          intro cause _ closed
          refine closed unwrapped fun token produced => ?_
          rw [isClient] at produced
          exact Exchange.CanOpen.fits canOpen disabled produced
  · rw [finished.stage] at goesOn
    cases goesOn

/-- What a call does to a session whose peer has hung up. -/
structure NoticesHangUp (session : Session SaslClient) : Prop where
  /-- The call does not leave the session waiting. -/
  isTerminal : session.authenticate.2.stage.isTerminal = true
  ended :
    session.found = .ok none →
      session.authenticate.2.stage = .failed ∧
        session.authenticate.1 = .error (.connectionClosed session.node)
  refused :
    ∀ failure, session.found = .error failure →
      session.authenticate.2.stage = .failed ∧
        (session.IsReading →
          session.authenticate.1 =
            .error (.invalidSaslResponse (.io failure))) ∧
        (¬ session.IsReading →
          session.authenticate.1 = .error (.connectionClosed session.node))
  complete :
    session.authenticate.2.stage = .complete →
      (session.stage = .intermediate ∨ session.stage = .clientComplete) ∧
        session.HasTaken session.authenticate.2

/-- A session that reads finds its frame, or reports why there is none. -/
theorem Advances.noticesHangUp_of_isReading
    (advances : Advances origin session) (reading : session.IsReading)
    (hungUp : session.transport.HasHungUp) : session.NoticesHangUp := by
  obtain ⟨ledger, isBegun⟩ := session.exists_begin
  have ensures :
      advance.Ensures session.begin
        (fun _ later =>
          (session.stage = .intermediate ∨ session.stage = .clientComplete) ∧
            later.stage = .complete ∧ session.HasTaken later)
        (fun cause _ => session.Explains cause) := by
    have begun := advances.begin
    rw [isBegun] at begun ⊢
    rw [advance, ensures_bind, ensures_get,
      if_neg (by rw [reading.1]; exact Bool.false_ne_true), ensures_bind,
      ensures_get]
    rcases begun with ⟨point, tracks, -, rests⟩ | finished
    · have handled :=
        tracks.ensures_handle_of_isReading rests reading (by exact hungUp)
      refine handled.weaken (fun _ _ ends => ends) fun _ _ explains => ?_
      exact ⟨explains.ended, explains.refused⟩
    · have receives := reading.2
      rw [show session.stage = .complete from finished.stage] at receives
      cases receives
  rcases ensures.authenticate advances.stage_ne_failed with
    ⟨later, same, stage, complete, hasTaken⟩ | ⟨cause, later, same, explains⟩
  · obtain ⟨frame, isFound⟩ := hasTaken.exists_found
    constructor
    case isTerminal =>
      rw [same, complete]
      rfl
    case ended =>
      intro nothing
      cases nothing.symm.trans isFound
    case refused =>
      intro failure refused
      cases refused.symm.trans isFound
    case complete =>
      rw [same]
      exact fun _ => ⟨stage, hasTaken⟩
  · constructor
    case isTerminal =>
      rw [same]
      rfl
    case ended =>
      intro nothing
      rw [same, explains.ended nothing]
      exact ⟨rfl, rfl⟩
    case refused =>
      intro failure refused
      rw [same, explains.refused failure refused]
      exact ⟨rfl, fun _ => rfl, fun notReading => (notReading reading).elim⟩
    case complete =>
      rw [same]
      rintro ⟨⟩

/-- A session that does not read reports that its connection is closed. -/
theorem Advances.noticesHangUp_of_not_isReading
    (advances : Advances origin session)
    (goesOn : session.stage.isTerminal = false)
    (writes : ¬ session.IsReading) (hungUp : session.transport.HasHungUp)
    (fresh : origin.exchange.client.IsFresh)
    (canOpen : origin.exchange.CanOpen) : session.NoticesHangUp := by
  obtain ⟨ledger, isBegun⟩ := session.exists_begin
  have ensures :
      advance.Ensures session.begin (fun _ _ => False)
        (fun cause _ => cause = .connectionClosed session.node) := by
    have begun := advances.begin
    rw [isBegun] at begun ⊢
    exact begun.ensures_advance_of_not_isReading goesOn writes
      (by exact hungUp) fresh canOpen
  rcases ensures.authenticate advances.stage_ne_failed with
    ⟨later, -, impossible⟩ | ⟨cause, later, same, rfl⟩
  · exact impossible.elim
  · constructor
    case isTerminal =>
      rw [same]
      rfl
    case ended =>
      rw [same]
      exact fun _ => ⟨rfl, rfl⟩
    case refused =>
      rw [same]
      exact fun _ _ => ⟨rfl, fun reading => (writes reading).elim,
        fun _ => rfl⟩
    case complete =>
      rw [same]
      rintro ⟨⟩

theorem Sound.advances_of_goesOn (sound : Sound origin session)
    (goesOn : session.stage.isTerminal = false) : Advances origin session := by
  cases sound with
  | advances advances =>
      exact advances
  | failed failed =>
      rw [failed.stage] at goesOn
      cases goesOn

/--
Once the peer has hung up, the very next call ends the session.

It fails because the connection is closed, or because it reads a size out of
range, unless the frame is there that it reads.  It completes the session only
by taking that frame.
-/
theorem noticesHangUp_run (config : Config) (node host : String)
    (subject : Subject) (transport : Transport) {client : SaslClient}
    (valid : config.validate = .ok ()) (fresh : client.IsFresh)
    (fits :
      ∀ token,
        (Mechanism.evaluate client []).1 = .ok (some token) →
          token.length ≤ maxFrameSize)
    (operations : List Operation) :
    let session :=
      (start config node host subject transport client).run operations
    session.stage.isTerminal = false →
      session.transport.HasHungUp → session.NoticesHangUp := by
  intro session goesOn hungUp
  have sound :=
    (sound_start config node host subject transport fresh).run operations
  have advances := sound.advances_of_goesOn goesOn
  by_cases reading : session.IsReading
  · exact advances.noticesHangUp_of_isReading reading hungUp
  · have canOpen : Exchange.CanOpen { config, node, host, client } :=
      Exchange.canOpen_of_isUsable
        (Config.validate_eq_ok_iff.mp valid) fresh fits
    exact advances.noticesHangUp_of_not_isReading goesOn reading hungUp fresh
      canOpen

/-- A server that hangs up in the middle of the size of its first frame. -/
theorem noticesHangUp_run_halfRead :
    let client : SaslClient :=
      .plain
        { authorizationId := none, username := "user", password := "secret" }
    let session :=
      (start {} "broker:9092" "broker" {} {} client).run
        [.authenticate, .transport (.push [0, 0]), .authenticate,
          .transport .close]
    session.stage.isTerminal = false ∧ session.transport.HasHungUp ∧
      session.NoticesHangUp ∧
      session.authenticate.1 = .error (.connectionClosed session.node) := by
  intro client session
  have goesOn : session.stage.isTerminal = false := by decide +kernel
  have hungUp : session.transport.HasHungUp :=
    ⟨⟨by decide +kernel, by decide +kernel⟩, by decide +kernel,
      by decide +kernel⟩
  have fits (token : Bytes)
      (produced : (Mechanism.evaluate client []).1 = .ok (some token)) :
      token.length ≤ maxFrameSize := by
    cases produced
    decide +kernel
  have fresh : client.IsFresh := rfl
  have notices :=
    noticesHangUp_run {} "broker:9092" "broker" {} {} (by decide +kernel)
      fresh fits
      [.authenticate, .transport (.push [0, 0]), .authenticate,
        .transport .close]
      goesOn hungUp
  have nothing : session.found = .ok none := by decide +kernel
  exact ⟨goesOn, hungUp, notices, (notices.ended nothing).2⟩

end Session

end BrokerSession
