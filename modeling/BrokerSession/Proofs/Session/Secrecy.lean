import BrokerSession.Proofs.Session.Conduct

namespace BrokerSession

/-!
# Secrecy before the peer's consent

Until the peer takes the mechanism, a session does what a session without any
credentials would do in its place.  Two sessions that differ in their
credentials alone are both compared with that one, so that nobody can tell them
apart before the peer consents.
-/

open Journal

/-- Someone without credentials, who has nothing to say. -/
inductive Anonymous where
  | anonymous

instance : Mechanism Anonymous where
  name _ := ""
  hasInitialResponse _ := false
  evaluate client _ := (.ok none, client)
  isComplete _ := false
  dispose client := client

namespace Session

variable {Client : Type}

/-- A session as it is seen without its mechanism and its subject. -/
def masked (session : Session Client) : Session Anonymous :=
  { session with
    subject := {}
    client := .anonymous }

/-! What else a session shows is not masked. -/

variable (session : Session Client)

/-- The configuration is shown. -/
@[simp] theorem masked_config : session.masked.config = session.config :=
  rfl

/-- The peer's name is shown. -/
@[simp] theorem masked_node : session.masked.node = session.node :=
  rfl

/-- The transport is shown. -/
@[simp] theorem masked_transport : session.masked.transport = session.transport :=
  rfl

/-- Whether a session has started is shown. -/
@[simp] theorem masked_started : session.masked.started = session.started :=
  rfl

/-- The stage is shown. -/
@[simp] theorem masked_stage : session.masked.stage = session.stage :=
  rfl

/-- The pending move is shown. -/
@[simp] theorem masked_pending : session.masked.pending = session.pending :=
  rfl

/-- The frame being read is shown. -/
@[simp] theorem masked_incoming : session.masked.incoming = session.incoming :=
  rfl

/-- The frame being written is shown. -/
@[simp] theorem masked_outgoing : session.masked.outgoing = session.outgoing :=
  rfl

/-- The request that waits for a response is shown. -/
@[simp] theorem masked_outstanding : session.masked.outstanding = session.outstanding :=
  rfl

/-- A masked session has the outline of the session. -/
@[simp] theorem masked_outline : session.masked.outline = session.outline :=
  rfl

/-- A move to another stage needs no credentials. -/
theorem masked_setStage (stage : Stage) :
    (session.setStage stage).masked = session.masked.setStage stage := by
  rw [setStage, setStage, masked_outgoing]
  split
  · rfl
  · dsimp only
    split <;> rfl

/-- A frame is flushed without any credentials. -/
theorem masked_settle : session.settle.masked = session.masked.settle := by
  rw [settle, settle, masked_pending]
  cases session.pending with
  | none =>
      rfl
  | some stage =>
      exact masked_setStage _ stage

/-- A call begins without any credentials. -/
theorem masked_begin : session.begin.masked = session.masked.begin := by
  rw [begin, begin, masked_started]
  split <;> rfl

end Session

/-! ## Computations -/

/-- The outcome of a computation, with the session masked. -/
def SessionM.maskedResult {Client Content : Type} :
    EStateM.Result SessionError (Session Client) Content →
      EStateM.Result SessionError (Session Anonymous) Content
  | .ok content session => .ok content session.masked
  | .error cause session => .error cause session.masked

/-- A computation that does the same for everybody. -/
def SessionM.IsBlind {Client Content : Type}
    (action : SessionM Client Content)
    (common : SessionM Anonymous Content) : Prop :=
  ∀ session, maskedResult (action.run session) = common.run session.masked

namespace SessionM

variable {Client Content Next : Type}

/-- Everybody may return the same. -/
theorem isBlind_pure (content : Content) :
    IsBlind (pure content : SessionM Client Content) (pure content) :=
  fun _ => rfl

/-- Everybody may fail for the same cause. -/
theorem isBlind_throw (cause : SessionError) :
    IsBlind (throw cause : SessionM Client Content) (throw cause) :=
  fun _ => rfl

/-- A change of what is shown is the same for everybody. -/
theorem isBlind_modify {change : Session Client → Session Client}
    {common : Session Anonymous → Session Anonymous}
    (same : ∀ session, (change session).masked = common session.masked) :
    IsBlind (modify change) (modify common) :=
  fun session => congrArg (EStateM.Result.ok PUnit.unit) (same session)

/-- To put a session in place is the same for everybody. -/
theorem isBlind_set (session : Session Client) :
    IsBlind (set session : SessionM Client PUnit) (set session.masked) :=
  fun _ => rfl

/-- A look at the session is blind if what follows uses what is shown alone. -/
theorem isBlind_get {next : Session Client → SessionM Client Content}
    {common : Session Anonymous → SessionM Anonymous Content}
    (goesOn : ∀ session, IsBlind (next session) (common session.masked)) :
    IsBlind (get >>= next) (get >>= common) :=
  fun session => goesOn session session

/-- One blind computation after the other is blind. -/
theorem IsBlind.bind {first : SessionM Client Next}
    {next : Next → SessionM Client Content}
    {commonFirst : SessionM Anonymous Next}
    {commonNext : Next → SessionM Anonymous Content}
    (starts : IsBlind first commonFirst)
    (goesOn : ∀ content, IsBlind (next content) (commonNext content)) :
    IsBlind (first >>= next) (commonFirst >>= commonNext) := by
  intro session
  have same := starts session
  rw [EStateM.run_bind, EStateM.run_bind, ← same]
  cases first.run session with
  | ok content between =>
      exact goesOn content between
  | error cause between =>
      rfl

end SessionM

namespace Session

open SessionM

variable {Client Content : Type}

/-! ## Writing -/

/-- Everybody writes the rest of a frame alike. -/
theorem isBlind_flush : IsBlind (flush : SessionM Client Bool) flush := by
  refine isBlind_get fun session => ?_
  rw [masked_outgoing]
  cases session.outgoing with
  | none =>
      exact (isBlind_modify masked_settle).bind fun _ => isBlind_pure true
  | some outgoing =>
      dsimp only
      rw [masked_transport]
      refine (isBlind_set _).bind fun _ => ?_
      split
      · exact isBlind_throw _
      · refine IsBlind.bind (isBlind_modify fun _ => rfl) fun _ => ?_
        split
        · exact (isBlind_modify masked_settle).bind fun _ => isBlind_pure true
        · exact IsBlind.bind (isBlind_modify fun _ => rfl)
            fun _ => isBlind_pure false

/-- Everybody sends a given payload alike. -/
theorem isBlind_send (header : Option RequestHeader) (outgoing : Outgoing) :
    IsBlind (send header outgoing : SessionM Client Unit)
      (send header outgoing) :=
  IsBlind.bind (isBlind_modify fun _ => rfl) fun _ =>
    isBlind_flush.bind fun _ => isBlind_pure _

/-- Everybody numbers the requests alike. -/
theorem isBlind_nextHeader (api : ApiKey) (version : Int16) :
    IsBlind (nextHeader api version : SessionM Client RequestHeader)
      (nextHeader api version) :=
  isBlind_get fun _ => IsBlind.bind (isBlind_set _) fun _ => isBlind_pure _

/-- Everybody sends a given request alike. -/
theorem isBlind_sendRequest (request : Request) :
    IsBlind (sendRequest request : SessionM Client Unit)
      (sendRequest request) := by
  refine (isBlind_nextHeader _ _).bind fun header => ?_
  refine isBlind_get fun session => ?_
  rw [masked_node]
  split
  · exact isBlind_throw _
  · exact IsBlind.bind (isBlind_modify fun _ => rfl) fun _ => isBlind_send _ _

/-! ## Reading -/

/-- Everybody reads a frame alike. -/
theorem isBlind_receiveFrame :
    IsBlind (receiveFrame : SessionM Client (Option Bytes)) receiveFrame := by
  refine isBlind_get fun session => ?_
  dsimp only
  rw [masked_incoming, masked_node, masked_config, masked_transport]
  rcases (session.incoming.getD
    (.start session.node session.config.maxReceiveSize)).readFrom
      session.transport with ⟨cause | count, left, transport⟩
  · refine IsBlind.bind (isBlind_set _) fun _ => ?_
    dsimp only
    split
    · exact isBlind_throw _
    · exact isBlind_throw _
  · refine IsBlind.bind (isBlind_set _) fun _ =>
      IsBlind.bind (isBlind_modify fun _ => rfl) fun _ => ?_
    dsimp only
    split
    · exact isBlind_pure none
    · exact IsBlind.bind (isBlind_modify fun _ => rfl) fun _ => isBlind_pure _

/-- Everybody decodes a response alike. -/
theorem isBlind_receiveResponse :
    IsBlind (receiveResponse : SessionM Client (Option Response))
      receiveResponse := by
  refine isBlind_receiveFrame.bind fun received => ?_
  cases received with
  | none =>
      exact isBlind_pure none
  | some payload =>
      refine isBlind_get fun session => IsBlind.bind (isBlind_set _) fun _ => ?_
      rw [masked_outstanding]
      split
      · exact isBlind_throw _
      · split
        · exact isBlind_throw _
        · exact isBlind_throw _
        · exact IsBlind.bind (isBlind_modify fun _ => rfl) fun _ =>
            isBlind_pure _

/-- Everybody expects a certain response alike. -/
theorem isBlind_receiveAs (convert : Response → Except SessionError Content) :
    IsBlind (receiveAs convert : SessionM Client (Option Content))
      (receiveAs convert) := by
  refine isBlind_receiveResponse.bind fun received => ?_
  cases received with
  | none =>
      exact isBlind_pure none
  | some response =>
      dsimp only
      split
      · exact isBlind_pure _
      · exact isBlind_throw _

/-! ## The opening -/

/-- Everybody asks for the versions alike. -/
theorem isBlind_requestApiVersions :
    IsBlind (requestApiVersions : SessionM Client Unit) requestApiVersions :=
  (isBlind_sendRequest _).bind fun _ =>
    isBlind_modify fun session => session.masked_setStage _

/-- Everybody settles the versions alike. -/
theorem isBlind_acceptApiVersions :
    IsBlind (acceptApiVersions : SessionM Client Bool) acceptApiVersions := by
  refine (isBlind_receiveAs _).bind fun received => ?_
  cases received with
  | none =>
      exact isBlind_pure false
  | some response =>
      dsimp only
      split
      · exact IsBlind.bind (isBlind_modify fun _ => rfl) fun _ =>
          IsBlind.bind (isBlind_modify fun session => session.masked_setStage _)
            fun _ => isBlind_pure true
      · exact isBlind_throw _

/-- Who proposes a mechanism shows its configured name alone. -/
theorem isBlind_requestHandshake :
    IsBlind (requestHandshake : SessionM Client Unit) requestHandshake :=
  isBlind_get fun _ => (isBlind_sendRequest _).bind fun _ =>
    isBlind_modify fun session => session.masked_setStage _

/-- Everybody learns alike whether the peer takes the mechanism. -/
theorem isBlind_acceptHandshake :
    IsBlind (acceptHandshake : SessionM Client Bool) acceptHandshake := by
  refine (isBlind_receiveAs _).bind fun received => ?_
  cases received with
  | none =>
      exact isBlind_pure false
  | some response =>
      refine isBlind_get fun session => ?_
      rw [masked_config]
      split
      · exact isBlind_throw _
      · exact IsBlind.bind
          (isBlind_modify fun session => session.masked_setStage _)
          fun _ => isBlind_pure true

end Session

/-! ## Consent -/

/-- A computation after which the peer has consented, even if it fails. -/
def SessionM.Consents {Client Content : Type}
    (action : SessionM Client Content) (session : Session Client) : Prop :=
  action.Ensures session (fun _ later => HasConsent later.journal)
    (fun _ later => HasConsent later.journal)

/-- A computation that does the same for everybody, or the peer consents. -/
def SessionM.Conceals {Client Content : Type}
    (action : SessionM Client Content)
    (common : SessionM Anonymous Content) (session : Session Client) : Prop :=
  maskedResult (action.run session) = common.run session.masked ∨
    action.Consents session ∧ common.Consents session.masked

namespace SessionM

variable {Client Content Next : Type} {session : Session Client}
  {action : SessionM Client Content} {common : SessionM Anonymous Content}

/-- A blind computation conceals who does it. -/
theorem IsBlind.conceals (blind : IsBlind action common)
    (session : Session Client) : Conceals action common session :=
  Or.inl (blind session)

/-- What follows a blind computation alone may tell sessions apart. -/
theorem IsBlind.concealsBind {first : SessionM Client Next}
    {next : Next → SessionM Client Content}
    {commonFirst : SessionM Anonymous Next}
    {commonNext : Next → SessionM Anonymous Content}
    {thrown : SessionError → Session Client → Prop}
    (starts : IsBlind first commonFirst)
    (goesOn :
      first.Ensures session
        (fun content between =>
          Conceals (next content) (commonNext content) between)
        thrown) :
    Conceals (first >>= next) (commonFirst >>= commonNext) session := by
  have same := starts session
  rw [Ensures] at goesOn
  rw [Conceals, Consents, Consents, Ensures, Ensures, EStateM.run_bind,
    EStateM.run_bind, ← same]
  cases outcome : first.run session with
  | ok content between =>
      rw [outcome] at goesOn
      exact goesOn
  | error cause between =>
      exact Or.inl rfl

/-- Once the peer has consented, it has for good. -/
theorem Conducts.consents {outline : Outline}
    {returned : Content → Outline → Prop}
    (conducts : Conducts action outline returned)
    (isOutline : session.outline = outline)
    (consent : HasConsent session.journal) : Consents action session := by
  have sameJournal : session.journal = outline.journal :=
    congrArg Outline.journal isOutline
  rw [sameJournal] at consent
  refine (conducts session isOutline).weaken ?_ ?_
  · rintro content later ⟨acts, -⟩
    exact consent.mono (Outline.Acts.journal_prefix acts)
  · rintro cause later ⟨between, acts, left⟩
    have leftJournal : later.journal = between.journal :=
      congrArg Outline.journal left
    rw [leftJournal]
    exact consent.mono (Outline.Acts.journal_prefix acts)

/-- A look at the session conceals what its continuation conceals. -/
theorem conceals_get {next : Session Client → SessionM Client Content}
    {commonNext : Session Anonymous → SessionM Anonymous Content} :
    Conceals (get >>= next) (get >>= commonNext) session ↔
      Conceals (next session) (commonNext session.masked) session :=
  Iff.rfl

end SessionM

namespace Session

open SessionM

variable {Client : Type} [Mechanism Client] {session : Session Client}

/-- The handlers of the opening are blind until the peer consents. -/
theorem conceals_handle {stage : Stage} {number : Nat}
    (poised : session.outline.IsPoised stage number)
    (opening : session.outline.IsOpening) :
    Conceals (handle stage : SessionM Client Unit) (handle stage) session := by
  cases stage with
  | sendApiVersionsRequest =>
      exact isBlind_requestApiVersions.conceals session
  | receiveApiVersionsResponse =>
      have blind :
          IsBlind (handle .receiveApiVersionsResponse : SessionM Client Unit)
            (handle .receiveApiVersionsResponse) := by
        refine isBlind_acceptApiVersions.bind fun accepted => ?_
        cases accepted with
        | true =>
            exact isBlind_requestHandshake
        | false =>
            exact isBlind_pure ()
      exact blind.conceals session
  | sendHandshakeRequest =>
      exact isBlind_requestHandshake.conceals session
  | receiveHandshakeResponse =>
      have ensured := conducts_acceptHandshake poised session rfl
      refine isBlind_acceptHandshake.concealsBind
        (ensured.weaken ?_ fun _ _ abandons => abandons)
      rintro accepted between ⟨acts, isPoised⟩
      cases accepted with
      | true =>
          have admitted : between.outline.IsPoised .initial number := isPoised
          have consent : HasConsent between.journal := by
            rcases opening.acts acts with ⟨opened | failed, -⟩ | consent
            · cases (congrArg Stage.isOpening admitted.stage).symm.trans opened
            · cases admitted.stage.symm.trans failed
            · exact consent
          exact Or.inr
            ⟨(conducts_sendInitialToken admitted).consents rfl consent,
              (conducts_sendInitialToken admitted).consents rfl consent⟩
      | false =>
          exact (isBlind_pure ()).conceals between
  | failed =>
      exact (isBlind_pure ()).conceals session
  | initial | intermediate | clientComplete | complete =>
      rcases opening.stage with opened | failed
      · cases (congrArg Stage.isOpening poised.stage).symm.trans opened
      · cases poised.stage.symm.trans failed

/-- To advance in the opening conceals who does it, until the peer consents. -/
theorem conceals_advance (orderly : session.outline.IsOrderly)
    (opening : session.outline.IsOpening) :
    Conceals (advance : SessionM Client Unit) advance session := by
  rw [advance, advance, conceals_get, masked_outgoing]
  split
  · next busy =>
      have flushes :
          Conducts (flush : SessionM Client Bool) session.outline _ :=
        conducts_flush busy
      refine isBlind_flush.concealsBind
        ((flushes session rfl).weaken ?_ fun _ _ abandons => abandons)
      rintro done between ⟨-, isBetween⟩
      cases done with
      | true =>
          have isPoised : session.outline.settle.IsPoised _ _ :=
            Outline.isPoised_settle
          have stillOpening := opening.settle
          rw [if_pos rfl] at isBetween
          rw [← isBetween] at isPoised stillOpening
          rw [if_pos rfl, if_pos rfl, conceals_get]
          exact conceals_handle { isPoised with stage := rfl } stillOpening
      | false =>
          exact (isBlind_pure ()).conceals between
  · next idle =>
      have notWriting : session.outline.isWriting = false := by
        rw [Bool.not_eq_true] at idle
        exact idle
      rw [conceals_get]
      exact conceals_handle
        ⟨rfl, orderly.pending_eq_none notWriting, notWriting, rfl⟩ opening

/-! ## Operations -/

/-- A call does the same for everybody, or the peer consents in it. -/
theorem authenticate_conceals (orderly : session.outline.IsOrderly)
    (opening : session.outline.IsOpening) :
    session.authenticate.map id masked = session.masked.authenticate ∨
      HasConsent session.authenticate.2.journal ∧
        HasConsent session.masked.authenticate.2.journal := by
  rw [authenticate, authenticate, masked_stage]
  split
  · exact Or.inl rfl
  · have conceals :
        Conceals (advance : SessionM Client Unit) advance session.begin := by
      apply conceals_advance
      · rw [outline_begin]
        exact orderly
      · rw [outline_begin]
        exact opening
    rw [Conceals, Consents, Consents, Ensures, Ensures, masked_begin]
      at conceals
    rcases conceals with same | consents
    · left
      rw [← same]
      cases advance.run session.begin with
      | ok content later =>
          rfl
      | error cause later =>
          rfl
    · right
      revert consents
      cases advance.run session.begin <;>
        cases advance.run session.masked.begin <;> exact id

/-- An operation does the same for everybody, or the peer consents in it. -/
theorem perform_conceals (orderly : session.outline.IsOrderly)
    (opening : session.outline.IsOpening) (operation : Operation) :
    (session.perform operation).map id masked =
        session.masked.perform operation ∨
      HasConsent (session.perform operation).2.journal ∧
        HasConsent (session.masked.perform operation).2.journal := by
  cases operation with
  | authenticate =>
      rcases authenticate_conceals orderly opening with same | consents
      · left
        rw [Session.perform, Session.perform, ← same]
        rfl
      · exact Or.inr consents
  | close =>
      left
      rw [Session.perform, Session.perform, close, close, masked_stage]
      split <;> rfl
  | transport step =>
      exact Or.inl rfl

/-- After an operation the opening goes on, or the peer has consented. -/
theorem isOpening_perform (orderly : session.outline.IsOrderly)
    (opening : session.outline.IsOpening) (operation : Operation) :
    (session.perform operation).2.outline.IsOpening ∨
      HasConsent (session.perform operation).2.journal := by
  rcases session.outline_perform_cases orderly operation with
    acts | ⟨between, acts, failed⟩ | ⟨-, released⟩
  · exact opening.acts acts
  · have sameJournal :
        (session.perform operation).2.journal = between.journal :=
      congrArg Outline.journal failed
    rw [failed, sameJournal]
    rcases opening.acts acts with - | consent
    · exact Or.inl ⟨Or.inr rfl, nofun⟩
    · exact Or.inr consent
  · rw [released]
    exact Or.inl { opening with }

/-! ## Runs -/

/-- What the operations of a run return, one after the other. -/
def outcomes (session : Session Client) :
    List Operation → List (Except SessionError (Option Bytes))
  | [] => []
  | operation :: later =>
      (session.perform operation).1 ::
        outcomes (session.perform operation).2 later

/-- Once the peer has consented, no operation takes that back. -/
theorem hasConsent_run (orderly : session.outline.IsOrderly)
    (consent : HasConsent session.journal) (operations : List Operation) :
    HasConsent (session.run operations).journal := by
  have preserves (before after : Outline) (_ : before.IsOrderly)
      (consented : HasConsent before.journal) (act : before.Act after) :
      HasConsent after.journal :=
    consented.mono act.journal_prefix
  have fails (before : Outline) (consented : HasConsent before.journal) :
      HasConsent before.fail.journal :=
    consented
  have releases (before : Outline) (_ : before.stage.isTerminal = true)
      (consented : HasConsent before.journal) :
      HasConsent before.release.journal :=
    consented
  exact (outline_run_induct preserves fails releases orderly consent
    operations).2

/-- A run is the same for everybody, or the peer consents in it. -/
theorem run_conceals (orderly : session.outline.IsOrderly)
    (opening : session.outline.IsOpening) (operations : List Operation) :
    session.outcomes operations = session.masked.outcomes operations ∧
        (session.run operations).masked = session.masked.run operations ∨
      HasConsent (session.run operations).journal ∧
        HasConsent (session.masked.run operations).journal := by
  induction operations generalizing session with
  | nil =>
      exact Or.inl ⟨rfl, rfl⟩
  | cons operation later inductionHypothesis =>
      have orderlyLater :
          (session.perform operation).2.outline.IsOrderly :=
        isOrderly_run orderly [operation]
      have maskedOrderly : session.masked.outline.IsOrderly := orderly
      have orderlyMasked :
          (session.masked.perform operation).2.outline.IsOrderly :=
        isOrderly_run maskedOrderly [operation]
      have consented
          (consents :
            HasConsent (session.perform operation).2.journal ∧
              HasConsent (session.masked.perform operation).2.journal) :
          HasConsent (session.run (operation :: later)).journal ∧
            HasConsent (session.masked.run (operation :: later)).journal :=
        ⟨hasConsent_run orderlyLater consents.1 later,
          hasConsent_run orderlyMasked consents.2 later⟩
      rcases perform_conceals orderly opening operation with same | consents
      · have sameOutcome :
            (session.perform operation).1 =
              (session.masked.perform operation).1 :=
          congrArg Prod.fst same
        have sameSession :
            (session.perform operation).2.masked =
              (session.masked.perform operation).2 :=
          congrArg Prod.snd same
        rcases isOpening_perform orderly opening operation with
          stillOpening | consent
        · have goesOn := inductionHypothesis orderlyLater stillOpening
          rw [sameSession] at goesOn
          rcases goesOn with ⟨sameOutcomes, sameLater⟩ | consents
          · refine Or.inl ⟨?_, sameLater⟩
            rw [outcomes, outcomes, sameOutcome, sameOutcomes]
          · exact Or.inr consents
        · refine Or.inr (consented ⟨consent, ?_⟩)
          rw [← sameSession]
          exact consent
      · exact Or.inr (consented consents)

/-! ## Two sessions -/

omit [Mechanism Client] in
/-- With a handshake a session has an opening. -/
theorem isOpening_start {config : Config}
    (enabled : config.handshakeRequestEnable = true) (node host : String)
    (subject : Subject) (transport : Transport) (client : Client) :
    (start config node host subject transport client).outline.IsOpening := by
  refine ⟨Or.inl ?_, nofun⟩
  have first : (start config node host subject transport client).outline.stage =
      .first config.handshakeRequestEnable := rfl
  rw [first, enabled]
  rfl

/-- A created session is a fresh one with a client of its mechanism. -/
theorem exists_eq_start_of_create {config : Config} {node host : String}
    {subject : Subject} {transport : Transport} {entropy : Bytes}
    {session : Session SaslClient}
    (created :
      create config node host subject transport entropy = .ok session) :
    ∃ client, session = start config node host subject transport client := by
  rw [create] at created
  obtain ⟨-, -, made⟩ := except_bind_eq_ok_iff.mp created
  obtain ⟨client, -, returned⟩ := except_bind_eq_ok_iff.mp made
  cases returned
  exact ⟨client, rfl⟩

/-- What two sessions show alike once operations are done. -/
structure ShowsAlike (left right : Session SaslClient)
    (operations : List Operation) : Prop where
  outcomes : left.outcomes operations = right.outcomes operations
  /-- The accepted bytes are the same, and so is what is left to be read. -/
  transport :
    (left.run operations).transport = (right.run operations).transport
  stage : (left.run operations).stage = (right.run operations).stage
  pending : (left.run operations).pending = (right.run operations).pending
  /-- Nothing else differs but the mechanism and the subject. -/
  masked : (left.run operations).masked = (right.run operations).masked

/-- Sessions that look the same go on doing so until the peer consents. -/
theorem showsAlike_of_masked_eq {left right : Session SaslClient}
    (orderly : left.outline.IsOrderly) (opening : left.outline.IsOpening)
    (same : left.masked = right.masked) {operations : List Operation}
    (noConsent : ¬ HasConsent (left.run operations).journal) :
    ShowsAlike left right operations := by
  have sameOutline := congrArg Session.outline same
  rw [masked_outline, masked_outline] at sameOutline
  rcases run_conceals orderly opening operations with
    ⟨leftOutcomes, leftRun⟩ | ⟨consent, -⟩
  · rw [same] at leftOutcomes leftRun
    rw [sameOutline] at orderly opening
    rcases run_conceals orderly opening operations with
      ⟨rightOutcomes, rightRun⟩ | ⟨-, consent⟩
    · have sameRun := leftRun.trans rightRun.symm
      have sameTransport := congrArg Session.transport sameRun
      have sameStage := congrArg Session.stage sameRun
      have samePending := congrArg Session.pending sameRun
      exact ⟨leftOutcomes.trans rightOutcomes.symm, sameTransport, sameStage,
        samePending, sameRun⟩
    · rw [← leftRun] at consent
      exact (noConsent consent).elim
  · exact (noConsent consent).elim

/-- Until the peer consents, a session shows nothing of its credentials. -/
theorem showsAlike_of_not_hasConsent {config : Config} {node host : String}
    {transport : Transport} {leftSubject rightSubject : Subject}
    {leftEntropy rightEntropy : Bytes} {left right : Session SaslClient}
    (enabled : config.handshakeRequestEnable = true)
    (isLeft :
      create config node host leftSubject transport leftEntropy = .ok left)
    (isRight :
      create config node host rightSubject transport rightEntropy = .ok right)
    {operations : List Operation}
    (noConsent : ¬ HasConsent (left.run operations).journal) :
    ∀ done, done <+: operations → ShowsAlike left right done := by
  rintro done ⟨later, rfl⟩
  obtain ⟨leftClient, rfl⟩ := exists_eq_start_of_create isLeft
  obtain ⟨rightClient, rfl⟩ := exists_eq_start_of_create isRight
  have orderly :
      (start config node host leftSubject transport
        leftClient).outline.IsOrderly :=
    Outline.isOrderly_of_settled rfl
  have opening :=
    isOpening_start enabled node host leftSubject transport leftClient
  have sameStart :
      (start config node host leftSubject transport leftClient).masked =
        (start config node host rightSubject transport rightClient).masked :=
    rfl
  refine showsAlike_of_masked_eq orderly opening sameStart ?_
  intro consent
  apply noConsent
  rw [run_append]
  exact hasConsent_run (isOrderly_run orderly done) consent later

/-- Two users of a server that does not take their mechanism. -/
theorem showsAlike_of_not_hasConsent_refused :
    let user : Subject :=
      { credential := some { username := "user", password := "secret" } }
    let other : Subject :=
      { authorizationId := some "owner"
        credential := some { username := "other", password := "hidden" } }
    let config : Config := { mechanism := "SCRAM-SHA-256" }
    let versions : Bytes :=
      [0, 0, 0, 22, 255, 255, 255, 255, 0, 0, 0, 0, 0, 2, 0, 17, 0, 0, 0, 0, 0,
        36, 0, 0, 0, 0]
    let refusal : Bytes := [0, 0, 0, 10, 0, 0, 0, 0, 0, 33, 0, 0, 0, 0]
    let operations : List Operation :=
      [.authenticate, .transport (.push versions), .authenticate,
        .transport (.push refusal), .authenticate]
    ∃ left right : Session SaslClient,
      config.handshakeRequestEnable = true ∧
        create config "broker:9092" "broker" user {} [1, 2] = .ok left ∧
        create config "broker:9092" "broker" other {} [3, 4] = .ok right ∧
        (left.run operations).stage = .failed ∧
        ¬ HasConsent (left.run operations).journal ∧
        ∀ done, done <+: operations → ShowsAlike left right done := by
  intro user other config versions refusal operations
  let clientOf (username password : String) (entropy : Bytes) : SaslClient :=
    .scram
      { suite := .sha256, username, password
        nonce := SaslClient.nonceOf entropy }
  let left : Session SaslClient :=
    start config "broker:9092" "broker" user {}
      (clientOf "user" "secret" [1, 2])
  let right : Session SaslClient :=
    start config "broker:9092" "broker" other {}
      (clientOf "other" "hidden" [3, 4])
  have isLeft :
      create config "broker:9092" "broker" user {} [1, 2] = .ok left := by
    change create { mechanism := "SCRAM-SHA-256" } _ _ _ _ _ = _
    rfl
  have isRight :
      create config "broker:9092" "broker" other {} [3, 4] = .ok right := by
    change create { mechanism := "SCRAM-SHA-256" } _ _ _ _ _ = _
    rfl
  have failed : (left.run operations).stage = .failed := by
    decide +kernel
  have noConsent : ¬ HasConsent (left.run operations).journal := by
    decide +kernel
  refine ⟨left, right, rfl, isLeft, isRight, failed, noConsent, ?_⟩
  exact showsAlike_of_not_hasConsent rfl isLeft isRight noConsent

end Session

end BrokerSession
