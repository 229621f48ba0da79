import BrokerSession.Proofs.Session.Tracking

namespace BrokerSession.Session

/-!
# Receiving on the script

Every step of a handler that reads has one lemma.  What is read so far of a
frame is kept, and a frame that is complete moves the exchange on.
-/

open Journal SessionM

variable {origin : Origin} {session : Session SaslClient} {point : Point}

/-- Bytes that are read move from the transport to the frame being read. -/
theorem Conserves.receive {outbound unsent : Bytes}
    {journal : List Event} {incoming left : Incoming}
    {before after : Transport} {part : Bytes}
    (conserves :
      Conserves origin outbound before.inbound journal unsent
        incoming.consumed)
    (received : incoming.Received left before after part) :
    Conserves origin outbound after.inbound journal unsent left.consumed where
  sent := conserves.sent
  partly := conserves.partly
  received := by
    rw [conserves.received, received.yielded.inbound, received.consumed]
    simp only [List.append_assoc]
  takes := conserves.takes

/-- A frame that was read completely is one more that was taken. -/
theorem Conserves.take {outbound inbound unsent payload : Bytes}
    {journal : List Event}
    (conserves :
      Conserves origin outbound inbound journal unsent
        (FrameCodec.frame payload))
    (flushed : unsent = [])
    (takes :
      FrameCodec.Takes ⟨origin.exchange.config.maxReceiveSize⟩ payload) :
    Conserves origin outbound inbound (journal ++ [.taken payload]) unsent
      [] where
  sent := by
    simpa using conserves.sent
  partly := Or.inl flushed
  received := by
    rw [conserves.received]
    simp
  takes := by
    intro other member
    rw [payloads_append] at member
    rcases List.mem_append.mp member with earlier | isNew
    · exact conserves.takes other earlier
    · obtain rfl := List.mem_singleton.mp isNew
      exact takes

/-- What a session goes on reading is a partial frame. -/
theorem Tracks.exists_incoming (tracks : Tracks origin session point) :
    ∃ incoming : Incoming,
      session.incoming.getD
          (.start session.node session.config.maxReceiveSize) = incoming ∧
        session.held = incoming.consumed ∧
        incoming.IsPartial origin.exchange.config.maxReceiveSize := by
  cases reading : session.incoming with
  | none =>
      refine ⟨_, rfl, by rw [held, reading]; rfl, ?_⟩
      rw [Option.getD_none, tracks.config]
      exact Incoming.isPartial_start _ _
  | some incoming =>
      exact ⟨incoming, rfl, by rw [held, reading]; rfl,
        (tracks.reading incoming reading).1⟩

/-- A frame is taken once it has arrived, or else waited for. -/
theorem ensures_receiveFrame {task : Task} {header : Option RequestHeader}
    (tracks : Tracks origin session point)
    (awaiting : point.activity = .awaiting task header) :
    receiveFrame.Ensures session
      (fun received later =>
        Stays session later ∧
          match received with
          | none => Tracks origin later point
          | some payload =>
              Tracks origin later
                { point with activity := .afterTaking task header payload })
      (Throws origin) := by
  have isAwaiting : point.activity.isAwaiting = true := by
    rw [awaiting]
    rfl
  have flushed : session.unsent = [] :=
    tracks.unsent_eq_nil (by rw [awaiting]; rfl)
  obtain ⟨incoming, isIncoming, isHeld, isPartial⟩ := tracks.exists_incoming
  rw [ensures_receiveFrame_iff isIncoming]
  obtain ⟨part, received, -⟩ := incoming.received_readFrom session.transport
  have continues := incoming.continues_readAfter 0 session.transport isPartial
  have patiently := incoming.isPatient_readAfter 0 session.transport
  rw [← Incoming.readFrom] at continues patiently
  generalize incoming.readFrom session.transport = result
    at received continues patiently
  rcases result with ⟨outcome, left, transport⟩
  have conserves := tracks.conserves
  rw [isHeld] at conserves
  have moved := conserves.receive received
  rw [← received.yielded.outbound] at moved
  cases outcome with
  | error cause =>
      rw [flushed] at moved
      have stops (failure : SessionError)
          (isFailure :
            Stops origin point session.journal [] left.consumed failure) :
          Throws origin failure
            { session with incoming := some left, transport := transport } :=
        ⟨point, _, _, tracks.script, moved, isFailure⟩
      rcases continues.fails cause rfl with malformed | impatient
      · have isInvalid : cause.kind = .invalidData :=
          (FrameCodec.peekSize_eq_error malformed.refused).2
        simp only [isInvalid, if_true]
        exact stops _ (.refused (.malformed awaiting malformed))
      · refine stops _ (.broken
          (fun patient => impatient (tracks.patient patient))
          (Or.inr isAwaiting) ⟨cause, ?_⟩)
        split
        · exact Or.inr rfl
        · rw [tracks.node]
          exact Or.inl rfl
  | ok count =>
      have stillPatient (patient : origin.patient) : transport.IsPatient :=
        patiently (tracks.patient patient)
      have interest (unasked : origin.unasked)
          (idle : session.outgoing = none) : transport.writeInterest = false :=
        received.yielded.writeInterest.trans (tracks.interest unasked idle)
      dsimp only
      cases complete : left.payload with
      | none =>
          refine ⟨⟨rfl, rfl⟩, { tracks with
            reading := ?_
            patient := stillPatient
            interest := interest
            conserves := moved }⟩
          rintro _ ⟨⟩
          exact ⟨continues.waits count rfl complete, isAwaiting⟩
      | some payload =>
          have isFrame : left.consumed = FrameCodec.frame payload := by
            rw [Incoming.consumed, complete]
          dsimp only at moved
          rw [isFrame] at moved
          refine ⟨⟨rfl, rfl⟩, ?_⟩
          have outstanding := tracks.outstanding
          have outgoing := tracks.outgoing
          have taken := moved.take flushed (continues.takes payload complete)
          rw [awaiting] at outstanding outgoing
          cases header with
          | none =>
              exact
                { tracks with
                  script := tracks.script.move (.takenRaw awaiting payload)
                  outstanding := outstanding
                  outgoing := outgoing
                  reading := reads_none
                  patient := stillPatient
                  interest := interest
                  conserves := taken }
          | some request =>
              exact
                { tracks with
                  script := tracks.script.move (.taken awaiting payload)
                  outstanding := outstanding
                  outgoing := outgoing
                  reading := reads_none
                  patient := stillPatient
                  interest := interest
                  conserves := taken }

/-- A response is decoded once the frame that answers its request is there. -/
theorem ensures_receiveResponse {task : Task} {header : RequestHeader}
    (tracks : Tracks origin session point)
    (awaiting : point.activity = .awaiting task (some header)) :
    receiveResponse.Ensures session
      (fun received later =>
        Stays session later ∧
          match received with
          | none => Tracks origin later point
          | some response =>
              response.api = header.api ∧
                Tracks origin later
                  { point with activity := .answered task response })
      (Throws origin) := by
  rw [receiveResponse]
  apply (ensures_receiveFrame tracks awaiting).bind
  rintro received between ⟨stays, moved⟩
  cases received with
  | none =>
      rw [ensures_pure]
      exact ⟨stays, moved⟩
  | some payload =>
      have isOutstanding : between.outstanding = some header :=
        moved.outstanding
      simp only [ensures_bind, ensures_get, ensures_set, isOutstanding]
      cases decoded : Response.ofPayload header payload with
      | error cause =>
          have throws : Throws origin cause.ofUndecodable
              { between with outstanding := none } :=
            moved.throws rfl rfl (.undecodable rfl decoded)
          cases cause <;> exact throws
      | ok response =>
          simp only [ensures_bind, ensures_modify, ensures_pure]
          exact ⟨stays, Response.api_of_ofPayload decoded,
            { moved with
              script := moved.script.move (.decoded rfl decoded)
              outstanding := rfl
              outgoing := moved.outgoing
              reading := moved.reads rfl _
              conserves :=
                moved.conserves.append rfl rfl (moved.unsent_eq_nil rfl) }⟩

/-- A response always belongs to the API that was asked. -/
theorem ensures_receiveAs {Content : Type}
    {convert : Response → Except SessionError Content} {task : Task}
    {header : RequestHeader} (tracks : Tracks origin session point)
    (awaiting : point.activity = .awaiting task (some header))
    (expects :
      ∀ response, response.api = task.api →
        ∃ content, convert response = .ok content) :
    (receiveAs convert).Ensures session
      (fun received later =>
        Stays session later ∧
          match received with
          | none => Tracks origin later point
          | some content =>
              ∃ response,
                convert response = .ok content ∧
                  Tracks origin later
                    { point with activity := .answered task response })
      (Throws origin) := by
  have fits := tracks.script.headerFits
  rw [awaiting] at fits
  rw [receiveAs]
  apply (ensures_receiveResponse tracks awaiting).bind
  rintro received between ⟨stays, moved⟩
  cases received with
  | none =>
      rw [ensures_pure]
      exact ⟨stays, moved⟩
  | some response =>
      obtain ⟨sameApi, answered⟩ := moved
      obtain ⟨content, converted⟩ :=
        expects response (sameApi.trans (fits.2 header rfl))
      simp only [converted]
      exact ⟨stays, response, converted, answered⟩

/-- The server's next token is a challenge, wrapped or not. -/
theorem ensures_receiveToken {token : Bytes} {header : Option RequestHeader}
    (tracks : Tracks origin session point)
    (awaiting : point.activity = .awaiting (.token token) header) :
    receiveToken.Ensures session
      (fun received later =>
        Stays session later ∧
          match received with
          | none => Tracks origin later point
          | some challenge =>
              Tracks origin later
                { point with activity := .challenged challenge })
      (Throws origin) := by
  have fits := tracks.script.headerFits
  rw [awaiting] at fits
  have wrapped : header.isSome = session.authenticateVersion.isSome := by
    have sameTerms := tracks.terms
    rw [fits.1, Task.isWrapped, ← sameTerms]
    rfl
  rw [receiveToken, ensures_bind, ensures_get]
  cases header with
  | none =>
      have raw : session.authenticateVersion.isNone = true := by
        simpa using wrapped.symm
      rw [if_pos raw]
      exact ensures_receiveFrame tracks awaiting
  | some request =>
      have notRaw : ¬ session.authenticateVersion.isNone = true := by
        rw [Option.isNone_iff_eq_none]
        intro absent
        rw [absent] at wrapped
        cases wrapped
      rw [if_neg notRaw]
      apply (ensures_receiveAs tracks awaiting
        Response.exists_toSaslAuthenticate).bind
      rintro received between ⟨stays, moved⟩
      cases received with
      | none =>
          rw [ensures_pure]
          exact ⟨stays, moved⟩
      | some content =>
          obtain ⟨response, converted, answered⟩ := moved
          obtain rfl := Response.eq_of_toSaslAuthenticate converted
          simp only
          split
          · next succeeded =>
              rw [ensures_pure]
              exact ⟨stays,
                { answered with
                  script :=
                    answered.script.moveSilently (.unwrapped rfl succeeded)
                  reading := answered.reads rfl _ }⟩
          · next failed =>
              exact answered.throws rfl rfl
                (.rejected rfl (Response.rejection_saslAuthenticate failed))

end BrokerSession.Session
