import BrokerSession.Proofs.Session.Idleness

namespace BrokerSession.Session

/-!
# Sessions that are called when something is ready

A session that a call leaves without a wish to write waits for bytes alone.
Whatever else is done to its transport, it stays where it is until there is
something to read, so that its owner misses no step by waiting for readiness.
-/

open Journal SessionM

variable {origin : Origin} {session : Session SaslClient} {point : Point}

/-- Whether no call among operations finds anything to read. -/
def NeverReads (session : Session SaslClient) : List Operation → Prop
  | [] => True
  | operation :: later =>
      operation ≠ .close ∧
        (operation = .authenticate → session.transport.CannotRead) ∧
          NeverReads (session.perform operation).2 later

/-- A session with an outstanding frame to read and nothing else to do. -/
structure IsWaiting (origin : Origin) (session : Session SaslClient) :
    Prop where
  advances : Advances origin session
  free : session.outgoing = none
  asked : frames session.journal ≠ []
  unfinished : session.stage.isTerminal = false
  settled : session.restingStage = session.stage

theorem IsWaiting.exists_awaiting (waiting : IsWaiting origin session)
    (fresh : origin.exchange.client.IsFresh) :
    ∃ point,
      Tracks origin session point ∧
        Rests session.stage session.pending point ∧
          point.activity.isAwaiting = true := by
  rcases waiting.advances with ⟨point, tracks, -, rests⟩ | finished
  · refine ⟨point, tracks, rests, ?_⟩
    cases rests with
    | awaiting _ _ _ _ _ current | awaitingFinal _ _ _ _ _ current =>
        rw [current]
        rfl
    | writing _ _ _ _ _ current | writingNext _ _ _ _ _ _ current =>
        have isWriting := tracks.outgoing
        rw [waiting.free, current] at isWriting
        cases isWriting
    | asking _ _ _ ready =>
        exact (waiting.asked (tracks.script.unasked ready).2.1).elim
    | starting _ _ stillFresh challenged unasked =>
        have unopened :=
          tracks.script.unopened fresh stillFresh challenged unasked
        exact (waiting.asked unopened.2.1).elim
  · have terminal := waiting.unfinished
    rw [finished.stage] at terminal
    cases terminal

/-- A call that finds nothing to read leaves a waiting session waiting. -/
theorem IsWaiting.authenticate (waiting : IsWaiting origin session)
    (fresh : origin.exchange.client.IsFresh)
    (cannot : session.transport.CannotRead) :
    session.authenticate.1 = .ok () ∧
      IsWaiting origin session.authenticate.2 ∧
        session.Rested session.authenticate.2 := by
  obtain ⟨point, tracks, rests, isAwaiting⟩ := waiting.exists_awaiting fresh
  obtain ⟨ledger, isBegun⟩ := session.exists_begin
  have begun :
      Tracks origin { session with started := true, ledger := ledger } point :=
    { tracks with }
  have ensures := begun.ensures_handle_of_cannotRead rests isAwaiting cannot
  have rested :
      session.authenticate.1 = .ok () ∧
        session.Rested session.authenticate.2 := by
    refine authenticate_of_ensures waiting.advances.stage_ne_failed ?_
    rw [isBegun, advance, ensures_bind, ensures_get,
      if_neg (by rw [waiting.free]; exact Bool.false_ne_true), ensures_bind,
      ensures_get]
    refine ensures.weaken ?_ fun _ _ => id
    rintro _ later ⟨kept, stage, outgoing, client, journal⟩
    exact ⟨kept, stage, outgoing, client, journal⟩
  obtain ⟨succeeded, rested⟩ := rested
  have sameStage := rested.stage.trans waiting.settled
  refine ⟨succeeded, ?_, rested⟩
  constructor
  case advances =>
    exact waiting.advances.of_authenticate_ok succeeded
  case free =>
    exact rested.outgoing.trans waiting.free
  case asked =>
    rw [rested.journal]
    exact waiting.asked
  case unfinished =>
    rw [sameStage]
    exact waiting.unfinished
  case settled =>
    exact rested.idles.settled

/-- What the owner of a transport does to it does not concern the session. -/
theorem IsWaiting.move (waiting : IsWaiting origin session)
    (step : Transport.Step) :
    IsWaiting
      (origin.after ((session.transport.perform step).1.getD [])
        [.transport step])
      { session with transport := (session.transport.perform step).2 } where
  advances :=
    ((Sound.advances waiting.advances).move step).advances_of_ne
      waiting.advances.stage_ne_failed
  free := waiting.free
  asked := waiting.asked
  unfinished := waiting.unfinished
  settled := waiting.settled

/-- What becomes of a session by operations that let it read nothing. -/
structure StaysPut (session : Session SaslClient)
    (operations : List Operation) : Prop where
  stage : (session.run operations).stage = session.stage
  succeeds : session.firstError operations = none
  /-- Nothing is written either. -/
  outbound :
    session.takenAway operations ++ (session.run operations).transport.outbound =
      session.transport.outbound

theorem IsWaiting.staysPut (waiting : IsWaiting origin session)
    (fresh : origin.exchange.client.IsFresh) (operations : List Operation)
    (never : session.NeverReads operations) : session.StaysPut operations := by
  induction operations generalizing origin session with
  | nil =>
      exact ⟨rfl, rfl, rfl⟩
  | cons operation later inductionHypothesis =>
      obtain ⟨notClosed, cannotRead, neverAfter⟩ := never
      cases operation with
      | close =>
          exact (notClosed rfl).elim
      | transport step =>
          obtain ⟨stage, succeeds, outbound⟩ :=
            inductionHypothesis (waiting.move step) fresh neverAfter
          refine ⟨stage, succeeds, ?_⟩
          have taken := session.transport.outbound_perform step
          rw [← taken, takenAway, List.append_assoc]
          exact congrArg _ outbound
      | authenticate =>
          obtain ⟨succeeded, stillWaiting, rested⟩ :=
            waiting.authenticate fresh (cannotRead rfl)
          obtain ⟨stage, succeeds, outbound⟩ :=
            inductionHypothesis stillWaiting fresh neverAfter
          constructor
          case stage =>
            exact stage.trans (rested.stage.trans waiting.settled)
          case succeeds =>
            rw [← succeeds]
            simp only [firstError, Session.perform, succeeded, Except.map]
          case outbound =>
            rw [takenAway, handed_authenticate, List.nil_append]
            exact outbound.trans rested.transport.outbound

/-- A call that returns without a wish to write leaves a waiting session. -/
theorem Advances.isWaiting_of_authenticate (advances : Advances origin session)
    (succeeded : session.authenticate.1 = .ok ())
    (unfinished : session.authenticate.2.stage.isTerminal = false)
    (noInterest : session.authenticate.2.transport.writeInterest = false)
    (settled :
      session.authenticate.2.restingStage = session.authenticate.2.stage) :
    IsWaiting origin session.authenticate.2 := by
  have later := advances.of_authenticate_ok succeeded
  refine ⟨later, ?_, ?_, unfinished, settled⟩
  · rcases later with ⟨point, -, attends, -⟩ | finished
    · by_contra busy
      obtain ⟨outgoing, isOutgoing⟩ := Option.ne_none_iff_exists'.mp busy
      cases noInterest.symm.trans (attends outgoing isOutgoing).2
    · exact finished.outgoing
  · by_cases nothing : frames session.journal = []
    · obtain ⟨ledger, isBegun⟩ := session.exists_begin
      have ensures := advances.begin.ensures_frames (by rw [isBegun]; exact nothing)
      have notFailed := later.stage_ne_failed
      rcases returned_of_authenticate notFailed ensures with complete | sent
      · rw [complete] at unfinished
        cases unfinished
      · exact sent
    · intro nothingLater
      rw [journal_authenticate, frames_append] at nothingLater
      exact nothing (List.append_eq_nil_iff.mp nothingLater).1

/-- How a session takes calls for which there is nothing to do. -/
structure TakesIdleCalls (exchange : Exchange) (session : Session SaslClient) :
    Prop where
  /-- The first frame apart, nothing can fail that does not move a byte. -/
  idle :
    session.stage ≠ .failed → session.transport.IsIdle →
      frames session.journal ≠ [] ∨ exchange.CanOpen →
        ∀ count,
          session.StaysIdle
            (session.run (List.replicate count .authenticate)) count
  /-- A mechanism that is complete by itself apart, only reading goes on. -/
  ready :
    session.authenticate.1 = .ok () →
      session.authenticate.2.stage.isTerminal = false →
        session.authenticate.2.transport.writeInterest = false →
          session.authenticate.2.restingStage =
              session.authenticate.2.stage →
            ∀ operations,
              session.authenticate.2.NeverReads operations →
                session.authenticate.2.StaysPut operations

/-- Calls for which there is nothing to do change nothing, in any run. -/
theorem takesIdleCalls_of_isFresh (config : Config) (node host : String)
    (subject : Subject) (transport : Transport) {client : SaslClient}
    (fresh : client.IsFresh) (operations : List Operation) :
    TakesIdleCalls { config, node, host, client }
      ((start config node host subject transport client).run operations) := by
  have sound :=
    (sound_start config node host subject transport fresh).run operations
  constructor
  case idle =>
    intro notFailed idle opens count
    exact (sound.advances_of_ne notFailed).staysIdle idle fresh opens count
  case ready =>
    intro succeeded unfinished noInterest settled later never
    have notFailed :
        ((start config node host subject transport client).run
            operations).stage ≠
          .failed := by
      intro isFailed
      rw [authenticate_of_failed isFailed] at succeeded
      cases succeeded
    have waiting :=
      (sound.advances_of_ne notFailed).isWaiting_of_authenticate succeeded
        unfinished noInterest settled
    exact waiting.staysPut fresh later never

/-- A session that waits for the answer to a token it could write in part. -/
theorem takesIdleCalls_of_isFresh_partly :
    let client : SaslClient :=
      .plain
        { authorizationId := none, username := "user", password := "secret" }
    let exchange : Exchange :=
      { config := { handshakeRequestEnable := false }
        node := "broker:9092", host := "broker", client := client }
    let session :=
      (start exchange.config exchange.node exchange.host {}
          { writeBudget := some 6 } client).run
        [.authenticate]
    client.IsFresh ∧ session.stage = .initial ∧ session.transport.IsIdle ∧
      session.transport.outbound.length = 6 ∧
      TakesIdleCalls exchange session := by
  intro client exchange session
  have fresh : client.IsFresh := rfl
  have idle : session.transport.IsIdle :=
    ⟨⟨by decide +kernel, Or.inl (by decide +kernel), by decide +kernel⟩,
      by decide +kernel, by decide +kernel⟩
  have takes :=
    takesIdleCalls_of_isFresh exchange.config "broker:9092" "broker" {}
      { writeBudget := some 6 } fresh [.authenticate]
  exact ⟨fresh, by decide +kernel, idle, by decide +kernel, takes⟩

/-- Under a client id that is too long no request can be made. -/
theorem authenticate_of_long_clientId {config : Config} {clientId : String}
    (isClientId : config.clientId = some clientId)
    (tooLong : Encode.maxStringLength < clientId.utf8ByteSize)
    (enabled : config.handshakeRequestEnable = true) (node host : String)
    (subject : Subject) (transport : Transport) (client : SaslClient) :
    ∃ cause,
      (start config node host subject transport client).authenticate.1 =
        .error cause := by
  have stage :
      (start config node host subject transport client).stage =
        .sendApiVersionsRequest := by
    rw [start, enabled]
    rfl
  have throws :
      advance.Ensures (start config node host subject transport client).begin
        (fun _ _ => False) (fun _ _ => True) := by
    obtain ⟨ledger, isBegun⟩ :=
      (start config node host subject transport client).exists_begin
    have unwritable :
        Encode.string "client_id" clientId =
          .error (.stringTooLong "client_id" clientId.utf8ByteSize) :=
      if_neg (Nat.not_le.mpr tooLong)
    rw [isBegun, advance, ensures_bind, ensures_get,
      if_neg (by exact Bool.false_ne_true), ensures_bind, ensures_get, stage]
    change requestApiVersions.Ensures _ _ _
    rw [requestApiVersions, ensures_bind, sendRequest, ensures_bind,
      nextHeader, ensures_bind, ensures_get]
    simp only [ensures_bind, ensures_set, ensures_pure, ensures_get]
    split
    · trivial
    · next outgoing made =>
        obtain ⟨payload, serialized, -⟩ := except_bind_eq_ok_iff.mp made
        obtain ⟨head, encoded, -⟩ :=
          except_bind_eq_ok_iff.mp (except_mapError_eq_ok_iff.mp serialized)
        obtain ⟨written, isWritten, -⟩ := except_bind_eq_ok_iff.mp encoded
        simp only [start, isClientId] at isWritten
        cases unwritable.symm.trans isWritten
  rw [Ensures] at throws
  rw [authenticate, if_neg (by rw [stage]; exact Stage.noConfusion)]
  cases outcome :
    advance.run (start config node host subject transport client).begin with
  | ok content later =>
      rw [outcome] at throws
      exact throws.elim
  | error cause later =>
      exact ⟨cause, rfl⟩

theorem utf8ByteSize_ofList_replicate (count : Nat) :
    (String.ofList (List.replicate count 'a')).utf8ByteSize = count := by
  induction count with
  | zero =>
      rfl
  | succ count inductionHypothesis =>
      rw [List.replicate_succ', String.ofList_append,
        String.utf8ByteSize_append, inductionHypothesis]
      rfl

/--
Calls that move on, fail or go further without a byte that has just arrived.

A complete mechanism moves on, a first request that cannot be made fails, and a
call takes no more than one frame of those that have arrived together.
-/
theorem movesOn_without_new_bytes :
    let client : SaslClient :=
      .plain
        { authorizationId := none, username := "user", password := "secret" }
    let versions : Bytes :=
      [0, 0, 0, 22, 255, 255, 255, 255, 0, 0, 0, 0, 0, 2, 0, 17, 0, 0, 0, 0, 0,
        36, 0, 0, 0, 0]
    let handshake : Bytes :=
      [0, 0, 0, 17, 0, 0, 0, 0, 0, 0, 0, 0, 0, 1, 0, 5, 80, 76, 65, 73, 78]
    let exchanged :=
      (start {} "broker:9092" "broker" {} {} client).run
        [.authenticate, .transport (.push versions), .authenticate,
          .transport (.push handshake), .authenticate,
          .transport (.writeBudget (some 0))]
    let misnamed :=
      start
        { clientId := some (String.ofList (List.replicate 32768 'a')) }
        "broker:9092" "broker" {} { writeBudget := some 0 } client
    let hurried :=
      (start {} "broker:9092" "broker" {} {} client).run
        [.authenticate, .transport (.push (versions ++ handshake))]
    client.IsFresh ∧
      (exchanged.stage = .intermediate ∧ exchanged.transport.IsIdle ∧
        exchanged.authenticate.2.stage = .clientComplete) ∧
      (misnamed.stage ≠ .failed ∧ misnamed.transport.IsIdle ∧
        ∃ cause, misnamed.authenticate.1 = .error cause) ∧
      hurried.authenticate.1 = .ok () ∧
      hurried.authenticate.2.stage = .receiveHandshakeResponse ∧
      hurried.authenticate.2.transport.writeInterest = false ∧
      hurried.authenticate.2.authenticate.2.stage = .intermediate := by
  intro client versions handshake exchanged misnamed hurried
  have idle : exchanged.transport.IsIdle :=
    ⟨⟨by decide +kernel, Or.inl (by decide +kernel), by decide +kernel⟩,
      by decide +kernel, by decide +kernel⟩
  have tooLong :
      Encode.maxStringLength <
        (String.ofList (List.replicate 32768 'a')).utf8ByteSize := by
    rw [utf8ByteSize_ofList_replicate]
    decide
  refine ⟨rfl, ⟨by decide +kernel, idle, by decide +kernel⟩,
    ⟨nofun, ⟨⟨rfl, Or.inl rfl, nofun⟩, rfl, nofun⟩, ?_⟩, ?_⟩
  · exact authenticate_of_long_clientId rfl tooLong rfl _ _ _ _ _
  · have succeeded : hurried.authenticate.1.isOk = true := by
      decide +kernel
    refine ⟨?_, by decide +kernel, by decide +kernel, by decide +kernel⟩
    cases outcome : hurried.authenticate.1 with
    | ok content =>
        rfl
    | error cause =>
        rw [outcome] at succeeded
        cases succeeded

end BrokerSession.Session
