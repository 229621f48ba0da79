import BrokerSession.Proofs.Session.Failure

namespace BrokerSession.Session

/-!
# What is true between any two operations

The write interest, the unsent bytes, the pending stage and the outstanding
request of a session always fit together, whatever its owner, its peer and its
transport did.  A session therefore never waits for the wrong event, and no
call fails because a request or the mechanism's turn was lost.
-/

/-- The stages, with the pending ones, in which a frame can be partly unsent. -/
inductive IsSending : Stage → Option Stage → Prop where
  | versions :
      IsSending .sendApiVersionsRequest (some .receiveApiVersionsResponse)
  | handshake :
      IsSending .sendHandshakeRequest (some .receiveHandshakeResponse)
  | firstToken : IsSending .initial (some .intermediate)
  | nextToken : IsSending .intermediate none

/-- Whether a request of an API at a version is outstanding. -/
def Awaits (session : Session SaslClient) (api : ApiKey) (version : Int16) :
    Prop :=
  ∃ header,
    session.outstanding = some header ∧ header.api = api ∧
      header.version = version

/-- Whether what is outstanding fits a stage. -/
def Owes (session : Session SaslClient) : Stage → Prop
  | .receiveApiVersionsResponse => session.Awaits .apiVersions 0
  | .receiveHandshakeResponse =>
      session.Awaits .saslHandshake session.handshakeVersion
  | .intermediate | .clientComplete =>
      match session.authenticateVersion with
      | some version => session.Awaits .saslAuthenticate version
      | none => session.outstanding = none
  | .complete | .failed => session.outstanding = none
  | _ => True

/-- How the parts of a session fit together between two operations. -/
structure Coherent (session : Session SaslClient) : Prop where
  /-- A frame is kept exactly while some of its bytes are unsent. -/
  kept : session.outgoing.isSome = true ↔ session.unsent ≠ []
  interest : session.transport.writeInterest = true ↔ session.unsent ≠ []
  sending : session.unsent ≠ [] → IsSending session.stage session.pending
  settled : session.unsent = [] → session.pending = none
  owes : session.Owes session.stage
  wrapped :
    session.stage = .clientComplete → session.authenticateVersion.isSome = true
  /-- The next call fails only for what others have done. -/
  warranted :
    ∀ cause, session.authenticate.1 = .error cause →
      cause.IsWarranted session.authenticate.2.journal

variable {origin : Origin} {session : Session SaslClient} {point : Point}

/-! ## Sessions on their script -/

theorem Attends.isSome_iff (attends : Attends session) :
    session.outgoing.isSome = true ↔ session.unsent ≠ [] := by
  unfold unsent
  cases outgoing : session.outgoing with
  | none =>
      simp
  | some frame =>
      simpa using (attends frame outgoing).1

/-- The request of a task is outstanding once it is being written. -/
theorem Tracks.outstanding_eq {task : Task} {header : Option RequestHeader}
    (tracks : Tracks origin session point)
    (current :
      point.activity = .writing task header ∨
        point.activity = .awaiting task header) :
    session.outstanding = header ∧
      header.isSome = task.isWrapped session.terms ∧
      ∀ request ∈ header, ∃ content correlationId,
        task.request? session.config session.terms = some content ∧
          request = Task.headerOf session.config correlationId content := by
  have fits := tracks.script.headerFits
  have asked := tracks.script.isAsked
  have outstanding := tracks.outstanding
  rw [tracks.terms, tracks.config]
  rcases current with writing | awaiting
  · rw [writing] at fits asked outstanding
    refine ⟨outstanding, fits.1, ?_⟩
    rintro _ ⟨⟩
    exact asked
  · rw [awaiting] at fits asked outstanding
    refine ⟨outstanding, fits.1, ?_⟩
    rintro _ ⟨⟩
    exact asked

/-- An opening request is outstanding while its answer is awaited. -/
theorem Tracks.awaits {task : Task} {header : Option RequestHeader}
    {content : Request}
    (tracks : Tracks origin session point)
    (awaiting : point.activity = .awaiting task header)
    (asked : task.request? session.config session.terms = some content) :
    session.Awaits task.api content.version := by
  obtain ⟨outstanding, wrapped, made⟩ :=
    tracks.outstanding_eq (Or.inr awaiting)
  rw [Task.isWrapped_of_request asked] at wrapped
  obtain ⟨request, rfl⟩ := Option.isSome_iff_exists.mp wrapped
  obtain ⟨other, correlationId, otherAsked, rfl⟩ := made request rfl
  cases asked.symm.trans otherAsked
  exact ⟨_, outstanding, Task.api_request asked, rfl⟩

/-- A token is outstanding exactly if tokens are wrapped. -/
theorem Tracks.awaits_token {token : Bytes} {header : Option RequestHeader}
    (tracks : Tracks origin session point)
    (current :
      point.activity = .writing (.token token) header ∨
        point.activity = .awaiting (.token token) header) :
    match session.authenticateVersion with
    | some version => session.Awaits .saslAuthenticate version
    | none => session.outstanding = none := by
  obtain ⟨outstanding, wrapped, made⟩ := tracks.outstanding_eq current
  cases version : session.authenticateVersion with
  | none =>
      rw [Task.isWrapped, Session.terms, version] at wrapped
      rw [outstanding]
      simpa using wrapped
  | some version =>
      have isWrapped : header.isSome = true := by
        rw [wrapped, Task.isWrapped, Session.terms, version]
        rfl
      obtain ⟨request, rfl⟩ := Option.isSome_iff_exists.mp isWrapped
      obtain ⟨content, correlationId, asked, rfl⟩ := made request rfl
      rw [Task.request?, Session.terms, version] at asked
      cases asked
      exact ⟨_, outstanding, rfl, rfl⟩

/-- A complete mechanism waits for the server only if tokens are wrapped. -/
theorem Tracks.isSome_authenticateVersion {pending : Option Stage}
    (tracks : Tracks origin session point)
    (rests : Rests .clientComplete pending point) :
    session.authenticateVersion.isSome = true := by
  cases rests with
  | awaitingFinal token header isStage isPending complete awaiting =>
      obtain ⟨-, wrapped, -⟩ := tracks.outstanding_eq (Or.inr awaiting)
      exact wrapped.symm
  | writing task header isStage | awaiting task header isStage =>
      cases task <;> cases isStage
  | asking isStage | starting isStage | writingNext _ _ isStage =>
      cases isStage

/-- What is outstanding fits the stage in which a session rests. -/
theorem Tracks.owes (tracks : Tracks origin session point)
    (rests : Rests session.stage session.pending point) :
    session.Owes session.stage := by
  cases rests with
  | asking stage | starting stage =>
      rw [stage]
      trivial
  | writing task header stage =>
      rw [stage]
      cases task <;> trivial
  | writingNext token header stage pending begun incomplete writing =>
      rw [stage]
      exact tracks.awaits_token (Or.inl writing)
  | awaitingFinal token header stage pending complete awaiting =>
      rw [stage]
      exact tracks.awaits_token (Or.inr awaiting)
  | awaiting task header stage pending suits awaiting =>
      rw [stage]
      cases task with
      | versions =>
          exact tracks.awaits awaiting rfl
      | handshake =>
          exact tracks.awaits awaiting rfl
      | token content =>
          exact tracks.awaits_token (Or.inr awaiting)

/-- A session that is writing makes a change of stage, or stays with tokens. -/
theorem Rests.isSending {stage : Stage} {pending : Option Stage}
    (rests : Rests stage pending point)
    (writing : point.activity.isWriting = true) : IsSending stage pending := by
  cases rests with
  | writing task header isStage isPending =>
      rw [isStage, isPending]
      cases task with
      | versions =>
          exact .versions
      | handshake =>
          exact .handshake
      | token content =>
          exact .firstToken
  | writingNext token header isStage isPending =>
      rw [isStage, isPending]
      exact .nextToken
  | asking _ _ _ current | starting _ _ _ current
  | awaiting _ _ _ _ _ current | awaitingFinal _ _ _ _ _ current =>
      rw [current] at writing
      cases writing

/-! ## Every state -/

/-- A session that keeps no frame and is over is coherent. -/
theorem coherent_of_idle (idle : session.outgoing = none)
    (interest : session.transport.writeInterest = false)
    (pending : session.pending = none)
    (outstanding : session.outstanding = none)
    (ended : session.stage = .complete ∨ session.stage = .failed)
    (warranted :
      ∀ cause, session.authenticate.1 = .error cause →
        cause.IsWarranted session.authenticate.2.journal) :
    Coherent session := by
  have nothing : session.unsent = [] := by
    rw [unsent, idle]
    rfl
  constructor
  case kept =>
    simp [idle, nothing]
  case interest =>
    simp [interest, nothing]
  case sending =>
    exact fun something => (something nothing).elim
  case settled =>
    exact fun _ => pending
  case owes =>
    rcases ended with stage | stage <;> (rw [stage]; exact outstanding)
  case wrapped =>
    rintro stage
    rcases ended with other | other <;> cases stage.symm.trans other
  case warranted =>
    exact warranted

/-- A sound session is coherent if nobody had asked to write before it. -/
theorem Sound.coherent (sound : Sound origin session)
    (fresh : origin.exchange.client.IsFresh) (unasked : origin.unasked) :
    Coherent session := by
  have warranted (cause : SessionError)
      (failed : session.authenticate.1 = .error cause) :=
    sound.isWarranted fresh failed
  cases sound with
  | failed failed =>
      exact coherent_of_idle failed.outgoing failed.interest failed.pending
        failed.outstanding (Or.inr failed.stage) warranted
  | advances advances =>
      rcases advances with ⟨point, tracks, attends, rests⟩ | finished
      · have kept := attends.isSome_iff
        have isWriting := tracks.outgoing
        constructor
        case kept =>
          exact kept
        case interest =>
          rw [← kept]
          cases outgoing : session.outgoing with
          | none =>
              simp [tracks.interest unasked outgoing]
          | some frame =>
              simp [(attends frame outgoing).2]
        case sending =>
          intro something
          rw [kept.mpr something] at isWriting
          exact rests.isSending isWriting.symm
        case settled =>
          intro nothing
          refine rests.pending_eq_none ?_
          rw [← isWriting]
          simpa [nothing] using kept
        case owes =>
          exact tracks.owes rests
        case wrapped =>
          intro stage
          exact tracks.isSome_authenticateVersion (stage ▸ rests)
        case warranted =>
          exact warranted
      · exact coherent_of_idle finished.outgoing finished.interest
          finished.pending finished.outstanding (Or.inl finished.stage)
          warranted

/-- Every run of a session with a fresh mechanism ends in a coherent state. -/
theorem coherent_of_isFresh (config : Config) (node host : String)
    (subject : Subject) (transport : Transport) {client : SaslClient}
    (fresh : client.IsFresh) (unasked : transport.writeInterest = false)
    (operations : List Operation) :
    Coherent
      ((start config node host subject transport client).run operations) :=
  ((sound_start config node host subject transport fresh).run
    operations).coherent fresh unasked

/-- A transport that at first accepts three bytes of the first frame. -/
theorem coherent_of_isFresh_stalled :
    let client : SaslClient :=
      .plain
        { authorizationId := none, username := "user", password := "secret" }
    let transport : Transport := { writeBudget := some 3 }
    let session := start {} "broker:9092" "broker" {} transport client
    client.IsFresh ∧ transport.writeInterest = false ∧
      (session.run [.authenticate]).unsent ≠ [] ∧
      Coherent (session.run [.authenticate]) := by
  intro client transport session
  have fresh : client.IsFresh := rfl
  have coherent :=
    coherent_of_isFresh {} "broker:9092" "broker" {} transport fresh rfl
      [.authenticate]
  exact ⟨fresh, rfl, by decide +kernel, coherent⟩

/--
A server that explains its refusal with the text about a response to nothing.

The session reports this text although a request was outstanding.
-/
theorem unrequestedMessage_of_explanation :
    let client : SaslClient :=
      .plain
        { authorizationId := none, username := "user", password := "secret" }
    let versions : Bytes :=
      [255, 255, 255, 255, 0, 0, 0, 0, 0, 2, 0, 17, 0, 0, 0, 0, 0, 36, 0, 0, 0,
        0]
    let handshake : Bytes :=
      [0, 0, 0, 0, 0, 0, 0, 0, 0, 1, 0, 5, 80, 76, 65, 73, 78]
    let refusal : Bytes :=
      [0, 0, 0, 1, 0, 34, 0, 47] ++ Bytes.ofString unrequestedMessage ++
        [0, 0, 0, 0]
    let session :=
      (start {} "broker:9092" "broker" {} {} client).run
        [.authenticate,
          .transport (.push (FrameCodec.frame versions)), .authenticate,
          .transport (.push (FrameCodec.frame handshake)), .authenticate,
          .transport (.push (FrameCodec.frame refusal))]
    session.outstanding.isSome = true ∧
      session.authenticate.1 =
        .error (.illegalSaslState unrequestedMessage) := by
  decide +kernel

end BrokerSession.Session
