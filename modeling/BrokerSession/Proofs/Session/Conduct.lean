import BrokerSession.Proofs.Session.Outline
import BrokerSession.Proofs.Session.Pace
import BrokerSession.Proofs.Session.Sending

namespace BrokerSession

/-!
# The conduct of a session

The handlers are followed through once, with any mechanism: whatever a call
does to a session, it does by the acts that its outline allows.  A property
that every act preserves therefore holds after every run.
-/

/-! ## Computations -/

/-- What a computation does to a session with an outline, by acts alone. -/
def SessionM.Conducts {Client Content : Type}
    (action : SessionM Client Content) (outline : Outline)
    (returned : Content → Outline → Prop) : Prop :=
  ∀ session : Session Client, session.outline = outline →
    action.Ensures session
      (fun content later =>
        outline.Acts later.outline ∧ returned content later.outline)
      (fun _ later => outline.Abandons later.outline)

namespace SessionM

variable {Client Content Next : Type} {outline : Outline}
  {returned : Content → Outline → Prop}

/-- To return something needs no act. -/
theorem conducts_pure {content : Content} (returns : returned content outline) :
    Conducts (pure content : SessionM Client Content) outline returned := by
  rintro session rfl
  exact ⟨.refl, returns⟩

/-- A failure gives the call up where it stands. -/
theorem conducts_throw (cause : SessionError) :
    Conducts (throw cause : SessionM Client Content) outline returned := by
  rintro session rfl
  exact Outline.Acts.abandons .refl

/-- A change of the session that is made of acts. -/
theorem conducts_modify {change : Session Client → Session Client}
    {returned : PUnit → Outline → Prop} (after : Outline)
    (changes :
      ∀ session, session.outline = outline → (change session).outline = after)
    (acts : outline.Acts after) (returns : returned ⟨⟩ after) :
    Conducts (modify change) outline returned := by
  intro session isOutline
  rw [ensures_modify, changes session isOutline]
  exact ⟨acts, returns⟩

/-- A look at the session needs no act. -/
theorem conducts_get {next : Session Client → SessionM Client Content}
    (goesOn :
      ∀ session, session.outline = outline →
        Conducts (next session) outline returned) :
    Conducts (get >>= next) outline returned :=
  fun session isOutline => goesOn session isOutline session isOutline

namespace Conducts

variable {first : SessionM Client Next} {next : Next → SessionM Client Content}
  {between : Next → Outline → Prop}

/-- What a computation ensures may be weakened. -/
theorem weaken {action : SessionM Client Content}
    {laterReturned : Content → Outline → Prop}
    (conducts : Conducts action outline returned)
    (weaker :
      ∀ content later, returned content later → laterReturned content later) :
    Conducts action outline laterReturned := by
  intro session isOutline
  exact (conducts session isOutline).weaken
    (fun content later ⟨acts, returns⟩ =>
      ⟨acts, weaker content later.outline returns⟩)
    (fun _ _ abandons => abandons)

/-- One computation after the other acts as both of them do. -/
theorem bind (starts : Conducts first outline between)
    (goesOn :
      ∀ content later, between content later →
        Conducts (next content) later returned) :
    Conducts (first >>= next) outline returned := by
  intro session isOutline
  apply (starts session isOutline).bind
  rintro content later ⟨acts, ensured⟩
  exact (goesOn content _ ensured later rfl).weaken
    (fun _ _ ⟨others, returns⟩ => ⟨acts.trans others, returns⟩)
    (fun _ _ abandons => Outline.Acts.transAbandons acts abandons)

/-- To convert what is returned needs no act. -/
theorem map {convert : Next → Content} (starts : Conducts first outline between)
    (converts :
      ∀ content later, between content later →
        returned (convert content) later) :
    Conducts (convert <$> first) outline returned := by
  intro session isOutline
  rw [ensures_map]
  exact (starts session isOutline).weaken
    (fun content _ ⟨acts, ensured⟩ =>
      ⟨acts, converts content _ ensured⟩)
    (fun _ _ abandons => abandons)

end Conducts

end SessionM

namespace Session

open SessionM

variable {Client Content : Type} {outline : Outline} {stage : Stage}
  {number : Nat}

/-- A move is made by the acts that lead to it. -/
theorem conducts_moveTo {returned : PUnit → Outline → Prop} (next : Stage)
    (acts : outline.Acts (outline.moveTo next))
    (returns : returned ⟨⟩ (outline.moveTo next)) :
    Conducts (modify (·.setStage next) : SessionM Client PUnit) outline
      returned := by
  refine conducts_modify (outline.moveTo next) ?_ acts returns
  rintro session rfl
  exact session.outline_setStage next

/-! ## Writing -/

/-- The frame being written is flushed or kept for later. -/
theorem conducts_flush (busy : outline.isWriting = true) :
    Conducts (flush : SessionM Client Bool) outline
      (fun done later =>
        later = if done then outline.settle else outline) := by
  rintro session rfl
  obtain ⟨outgoing, isOutgoing⟩ := Option.isSome_iff_exists.mp busy
  have stillBusy (left : Outgoing) (transport : Transport) (ledger : Ledger) :
      { session with
        outgoing := some left
        transport := transport
        ledger := ledger }.outline = session.outline := by
    simp [Session.outline, isOutgoing]
  rw [ensures_flush_iff isOutgoing]
  rcases outgoing.writeTo session.transport with
    ⟨cause | count, left, transport⟩
  · dsimp only
    rw [stillBusy left transport session.ledger]
    exact Outline.Acts.abandons .refl
  · dsimp only
    split
    · rw [outline_settle, stillBusy]
      exact ⟨.single (.flushed busy), rfl⟩
    · have waits :=
        stillBusy left (transport.setWriteInterest true)
          (session.ledger.recordSent count)
      exact ⟨waits ▸ .refl, waits⟩

/--
A frame that is sent is made in the stage that it is due in.

The header of a request is outstanding by then, before its frame is made.
-/
theorem ensures_send_of_due (task : Task) {header : Option RequestHeader}
    {outgoing : Outgoing} {correlationId : Int32}
    (poised : outline.IsPoised stage number) (due : task.IsDue stage)
    (framed :
      task.Framed outline.config outline.terms correlationId
        (header, outgoing.remaining))
    {session : Session Client}
    (isOutline :
      session.outline =
        { outline with outstanding := header <|> outline.outstanding }) :
    (send header outgoing).Ensures session
      (fun _ later =>
        outline.Acts later.outline ∧
          later.outline.HasSpoken stage number)
      (fun _ later => outline.Abandons later.outline) := by
  let framing : Outline :=
    { outline.note (.framed header outgoing.remaining) with
      isWriting := true
      outstanding := header <|> outline.outstanding }
  have makes : outline.Acts framing :=
    .single (.framed poised.pending (poised.stage ▸ due) framed)
  have made : framing.made = number + 1 := by
    rw [← poised.made]
    exact Outline.made_framed header outgoing.remaining
  have isFraming :
      { session.note (.framed header outgoing.remaining) with
        outgoing := some outgoing }.outline = framing := by
    rw [show framing =
      { { outline with outstanding := header <|> outline.outstanding }.note
          (.framed header outgoing.remaining) with isWriting := true } from rfl,
      ← isOutline]
    rfl
  have flushes : Conducts (flush : SessionM Client Bool) framing _ :=
    conducts_flush rfl
  rw [send, ensures_bind, ensures_modify, ensures_discard]
  refine (flushes _ isFraming).weaken ?_ ?_
  · rintro done later ⟨acts, isLater⟩
    refine ⟨makes.trans acts, ?_⟩
    rw [isLater]
    cases done with
    | true =>
        refine ⟨?_, rfl, Or.inr (Outline.made_settle.trans made)⟩
        rw [← poised.stage]
        exact congrArg (·.getD outline.stage) poised.pending
    | false =>
        exact ⟨poised.stage, poised.pending, Or.inr made⟩
  · exact fun _ _ abandons => Outline.Acts.transAbandons makes abandons

/-- A request is made for the task that is due. -/
theorem conducts_sendRequest (task : Task) {request : Request}
    (poised : outline.IsPoised stage number) (due : task.IsDue stage)
    (asks : task.request? outline.config outline.terms = some request) :
    Conducts (sendRequest request : SessionM Client Unit) outline
      (fun _ later => later.HasSpoken stage number) := by
  rintro session rfl
  rw [sendRequest, ensures_bind, nextHeader, ensures_bind, ensures_get]
  simp only [ensures_bind, ensures_set, ensures_pure, ensures_get]
  split
  · exact ⟨session.outline, .refl, rfl⟩
  · next outgoing made =>
      rw [ensures_bind, ensures_modify]
      exact ensures_send_of_due task poised due
        (framed_of_toOutgoing asks made) rfl

/-- The mechanism may be asked, which changes nothing else. -/
theorem conducts_nextToken [Mechanism Client]
    (poised : outline.IsPoised stage number) (challenge : Bytes)
    (isInitial : Bool) :
    Conducts
      (nextToken challenge isInitial : SessionM Client (Option Bytes)) outline
      (fun _ later => later.IsPoised stage number) := by
  have evaluated (outcome : Except MechanismError (Option Bytes)) :
      (outline.note (.evaluated challenge outcome)).IsPoised stage number :=
    { poised with
      made := by simpa [Outline.made, Outline.note] using poised.made }
  rintro session rfl
  rw [ensures_nextToken_iff]
  split
  · exact ⟨.refl, poised⟩
  · rcases Mechanism.evaluate session.client challenge with
      ⟨cause | token, client⟩
    · exact Outline.Acts.abandons
        (.single (.evaluated challenge (.error cause)))
    · exact ⟨.single (.evaluated challenge (.ok token)), evaluated (.ok token)⟩

/-- A token that the mechanism has produced travels as it was agreed. -/
theorem conducts_sendProduced (poised : outline.IsPoised stage number)
    (due : stage = .initial ∨ stage = .intermediate)
    (produced : Option Bytes) :
    Conducts (sendProduced produced : SessionM Client Bool) outline
      (fun _ later => later.HasSpoken stage number) := by
  cases produced with
  | none =>
      exact conducts_pure poised.hasSpoken
  | some token =>
      refine conducts_get fun session isOutline => ?_
      have sameVersion :
          session.authenticateVersion = outline.terms.authenticateVersion := by
        rw [← isOutline]
        rfl
      split
      · next version isVersion =>
          have asks :
              (Task.token token).request? outline.config outline.terms =
                some { body := .saslAuthenticate token, version } := by
            rw [Task.request?, ← sameVersion, isVersion]
            rfl
          exact (conducts_sendRequest (.token token) poised due asks).bind
            fun _ _ spoken => conducts_pure spoken
      · next noVersion =>
          split
          · exact conducts_throw _
          · next outgoing made =>
              have framed :
                  Task.Framed outline.config outline.terms 0 (.token token)
                    (none, outgoing.remaining) :=
                .raw (sameVersion.symm.trans noVersion)
                  (Outgoing.encode_of_ofPayload made)
              have sends :
                  Conducts (send none outgoing : SessionM Client Unit) outline
                    (fun _ later => later.HasSpoken stage number) :=
                fun session isOutline =>
                  ensures_send_of_due (.token token) poised due framed isOutline
              exact sends.bind fun _ _ spoken => conducts_pure spoken

/-- The mechanism's turn makes one frame at most and stays in its stage. -/
theorem conducts_sendToken [Mechanism Client]
    (poised : outline.IsPoised stage number)
    (due : stage = .initial ∨ stage = .intermediate) (challenge : Bytes)
    (isInitial : Bool) :
    Conducts (sendToken challenge isInitial : SessionM Client Bool) outline
      (fun _ later => later.HasSpoken stage number) := by
  rw [sendToken_eq]
  refine conducts_get fun session _ => ?_
  split
  · exact conducts_pure poised.hasSpoken
  · exact (conducts_nextToken poised challenge isInitial).bind
      fun produced _ stillPoised =>
        conducts_sendProduced stillPoised due produced

/-! ## Reading -/

/-- A frame may be taken, and the session is still poised. -/
theorem conducts_receiveFrame (poised : outline.IsPoised stage number) :
    Conducts (receiveFrame : SessionM Client (Option Bytes)) outline
      (fun _ later => later.IsPoised stage number) := by
  have taken (payload : Bytes) :
      (outline.note (.taken payload)).IsPoised stage number :=
    { poised with
      made := by simpa [Outline.made, Outline.note] using poised.made }
  rintro session rfl
  rw [ensures_receiveFrame_iff rfl]
  rcases (session.incoming.getD
    (.start session.node session.config.maxReceiveSize)).readFrom
      session.transport with ⟨cause | count, left, transport⟩
  · exact Outline.Acts.abandons .refl
  · dsimp only
    cases left.payload with
    | none =>
        exact ⟨.refl, poised⟩
    | some payload =>
        exact ⟨.single (.taken payload), taken payload⟩

/-- A response that has just been decoded ends the journal. -/
theorem conducts_receiveResponse (poised : outline.IsPoised stage number)
    (receives : stage.isReceiving = true) :
    Conducts (receiveResponse : SessionM Client (Option Response)) outline
      (fun received later =>
        later.IsPoised stage number ∧
          ∀ response ∈ received, ∃ earlier header,
            later.journal = earlier ++ [.decoded header response]) := by
  refine (conducts_receiveFrame poised).bind ?_
  intro received between stillPoised
  cases received with
  | none =>
      exact conducts_pure ⟨stillPoised, nofun⟩
  | some payload =>
      rintro session rfl
      simp only [ensures_bind, ensures_get, ensures_set]
      have dropped :
          session.outline.Abandons
            { session with outstanding := none }.outline :=
        ⟨session.outline, .refl, rfl⟩
      split
      · exact dropped
      · next header awaited =>
          split
          · exact dropped
          · exact dropped
          · next response decoded =>
              have acts :=
                Outline.Act.decoded stillPoised.idle
                  (stillPoised.stage.symm ▸ receives) awaited decoded
              refine ⟨.single acts, ?_, ?_⟩
              · exact
                  { stillPoised with
                    made := by
                      simpa [Outline.made, Session.note, Session.outline]
                        using stillPoised.made }
              · rintro _ ⟨⟩
                exact ⟨session.journal, header, rfl⟩

/-- What is expected is found at the end of the journal, as it was decoded. -/
theorem conducts_receiveAs (poised : outline.IsPoised stage number)
    (receives : stage.isReceiving = true)
    (convert : Response → Except SessionError Content) :
    Conducts (receiveAs convert : SessionM Client (Option Content)) outline
      (fun received later =>
        later.IsPoised stage number ∧
          ∀ content ∈ received, ∃ earlier header response,
            convert response = .ok content ∧
              later.journal = earlier ++ [.decoded header response]) := by
  refine (conducts_receiveResponse poised receives).bind ?_
  rintro received later ⟨stillPoised, decoded⟩
  cases received with
  | none =>
      exact conducts_pure ⟨stillPoised, nofun⟩
  | some response =>
      obtain ⟨earlier, header, shape⟩ := decoded response rfl
      dsimp only
      split
      · next content converted =>
          refine conducts_pure ⟨stillPoised, ?_⟩
          rintro _ ⟨⟩
          exact ⟨earlier, header, response, converted, shape⟩
      · exact conducts_throw _

/-- The peer's token leaves a session poised in its stage. -/
theorem conducts_receiveToken (poised : outline.IsPoised stage number)
    (receives : stage.isReceiving = true) :
    Conducts (receiveToken : SessionM Client (Option Bytes)) outline
      (fun _ later => later.IsPoised stage number) := by
  refine conducts_get fun session _ => ?_
  split
  · exact conducts_receiveFrame poised
  · refine (conducts_receiveAs poised receives _).bind ?_
    rintro received later ⟨stillPoised, -⟩
    cases received with
    | none =>
        exact conducts_pure stillPoised
    | some response =>
        dsimp only
        split
        · exact conducts_pure stillPoised
        · exact conducts_throw _

/-! ## Stages -/

/-- A handler makes at most one frame, in the stage that it is due in. -/
def Speaks (speaker : Option Stage) (number : Nat) (later : Outline) : Prop :=
  later.made = number ∧ later.isWriting = false ∨
    ∃ stage ∈ speaker,
      later.made = number + 1 ∧
        Relation.ReflTransGen Stage.Precedes stage later.stage ∧
        (later.isWriting = true → later.stage = stage)

/-- A session that has made no further frame may have any speaker. -/
theorem speaks_of_isPoised {speaker : Option Stage}
    (poised : outline.IsPoised stage number) : Speaks speaker number outline :=
  Or.inl ⟨poised.made, poised.idle⟩

/-- A session that has spoken in a stage has this stage as its speaker. -/
theorem speaks_of_hasSpoken (spoken : outline.HasSpoken stage number) :
    Speaks (some stage) number outline := by
  obtain ⟨rfl, -, silent | made⟩ := spoken
  · exact Or.inl silent
  · exact Or.inr ⟨_, rfl, made, .refl, fun _ => rfl⟩

/-- Moving on, possibly after a frame that is still partly unsent. -/
theorem conducts_moveOn {next : Stage} (spoken : outline.HasSpoken stage number)
    (precedes : stage.Precedes next)
    (notAgreed : stage ≠ .receiveApiVersionsResponse)
    (notAdmitted : stage ≠ .receiveHandshakeResponse) :
    Conducts (modify (·.setStage next) : SessionM Client PUnit) outline
      (fun _ later => Speaks (some stage) number later) := by
  obtain ⟨rfl, settled, silent | made⟩ := spoken
  · refine conducts_moveTo next
      (.single (.moved settled precedes notAgreed notAdmitted)) (Or.inl ?_)
    simpa using silent
  · refine conducts_moveTo next
      (.single (.moved settled precedes notAgreed notAdmitted))
      (Or.inr ⟨outline.stage, rfl, ?_, ?_, ?_⟩)
    · rw [Outline.made_moveTo, made]
    · rcases outline.stage_moveTo next with same | moved
      · rw [same]
      · rw [moved]
        exact .single precedes
    · intro busy
      rw [Outline.isWriting_moveTo] at busy
      exact Outline.stage_moveTo_of_isWriting busy next

/-- The frame that asks for the versions belongs to the first stage. -/
theorem conducts_requestApiVersions
    (poised : outline.IsPoised .sendApiVersionsRequest number) :
    Conducts (requestApiVersions : SessionM Client Unit) outline
      (fun _ later => Speaks (some .sendApiVersionsRequest) number later) :=
  (conducts_sendRequest .versions poised rfl rfl).bind fun _ _ spoken =>
    conducts_moveOn spoken .askedVersions nofun nofun

/-- The peer's list leads to the proposal of the mechanism. -/
theorem conducts_acceptApiVersions
    (poised : outline.IsPoised .receiveApiVersionsResponse number) :
    Conducts (acceptApiVersions : SessionM Client Bool) outline
      (fun accepted later =>
        if accepted then later.IsPoised .sendHandshakeRequest number
        else later.IsPoised .receiveApiVersionsResponse number) := by
  refine (conducts_receiveAs poised rfl _).bind ?_
  rintro received between ⟨stillPoised, decoded⟩
  cases received with
  | none =>
      exact conducts_pure stillPoised
  | some content =>
      obtain ⟨earlier, header, response, converted, shape⟩ := decoded content rfl
      obtain rfl := Response.eq_of_toApiVersions converted
      dsimp only
      split
      · next succeeded =>
          rintro session rfl
          simp only [ensures_bind, ensures_modify, ensures_pure, if_true]
          rw [outline_setStage]
          refine ⟨.single
            (.agreed stillPoised.idle stillPoised.stage shape succeeded), ?_⟩
          apply Outline.IsPoised.moveTo
          exact { stillPoised with }
      · exact conducts_throw _

/-- The frame that proposes the mechanism belongs to its own stage. -/
theorem conducts_requestHandshake
    (poised : outline.IsPoised .sendHandshakeRequest number) :
    Conducts (requestHandshake : SessionM Client Unit) outline
      (fun _ later => Speaks (some .sendHandshakeRequest) number later) := by
  refine conducts_get fun session isOutline => ?_
  have asks :
      Task.handshake.request? outline.config outline.terms =
        some
          { body := .saslHandshake session.config.mechanism
            version := session.handshakeVersion } := by
    rw [← isOutline]
    rfl
  exact (conducts_sendRequest .handshake poised rfl asks).bind fun _ _ spoken =>
    conducts_moveOn spoken .askedHandshake nofun nofun

/-- The peer's consent leads to the mechanism's first token. -/
theorem conducts_acceptHandshake
    (poised : outline.IsPoised .receiveHandshakeResponse number) :
    Conducts (acceptHandshake : SessionM Client Bool) outline
      (fun accepted later =>
        if accepted then later.IsPoised .initial number
        else later.IsPoised .receiveHandshakeResponse number) := by
  refine (conducts_receiveAs poised rfl _).bind ?_
  rintro received between ⟨stillPoised, decoded⟩
  cases received with
  | none =>
      exact conducts_pure stillPoised
  | some content =>
      obtain ⟨earlier, header, response, converted, shape⟩ := decoded content rfl
      obtain rfl := Response.eq_of_toSaslHandshake converted
      refine conducts_get fun session _ => ?_
      split
      · exact conducts_throw _
      · next checked =>
          have succeeded := SaslHandshakeResponse.error_eq_none checked
          have admits : between.Act (between.moveTo .initial) :=
            .admitted stillPoised.idle stillPoised.stage shape succeeded
          exact (conducts_moveTo .initial (.single admits)
            (stillPoised.moveTo .initial)).bind
              fun _ _ moved => conducts_pure moved

variable [Mechanism Client]

/-- The first token's frame belongs to the initial stage. -/
theorem conducts_sendInitialToken
    (poised : outline.IsPoised .initial number) :
    Conducts (sendInitialToken : SessionM Client Unit) outline
      (fun _ later => Speaks (some .initial) number later) := by
  have sends :
      Conducts (discard (sendToken [] true) : SessionM Client PUnit) outline
        (fun _ later => later.HasSpoken .initial number) :=
    (conducts_sendToken poised (Or.inl rfl) [] true).map
      fun _ _ spoken => spoken
  exact sends.bind fun _ _ spoken => conducts_moveOn spoken .begun nofun nofun

/-- Once the mechanism is complete the tokens are over. -/
theorem conducts_afterExchange (spoken : outline.HasSpoken .intermediate number)
    (noResponsesPending : Bool) :
    Conducts
      (do
        if Mechanism.isComplete (← get).client then
          modify fun session => session.setStage
            (.afterClientComplete session.authenticateVersion.isSome
              noResponsesPending) :
        SessionM Client Unit)
      outline (fun _ later => Speaks (some .intermediate) number later) := by
  refine conducts_get fun session _ => ?_
  split
  · intro session isOutline
    have precedes :
        Stage.intermediate.Precedes
          (.afterClientComplete session.authenticateVersion.isSome
            noResponsesPending) := by
      rw [Stage.afterClientComplete]
      split
      · exact .finished
      · exact .satisfied
    exact conducts_moveOn spoken precedes nofun nofun session isOutline
  · exact conducts_pure (speaks_of_hasSpoken spoken)

/-- A round of tokens speaks in the stage of the rounds. -/
theorem conducts_exchangeTokens
    (poised : outline.IsPoised .intermediate number) :
    Conducts (exchangeTokens : SessionM Client Unit) outline
      (fun _ later => Speaks (some .intermediate) number later) := by
  refine (conducts_receiveToken poised rfl).bind ?_
  intro received between stillPoised
  cases received with
  | none =>
      exact conducts_afterExchange stillPoised.hasSpoken false
  | some token =>
      have sends :
          Conducts (sendToken token false : SessionM Client Bool) between
            (fun _ later => later.HasSpoken .intermediate number) :=
        conducts_sendToken stillPoised (Or.inr rfl) token false
      exact (sends.map fun _ _ spoken => spoken).bind fun noResponse _ spoken =>
        conducts_afterExchange spoken noResponse

omit [Mechanism Client] in
/-- Nobody speaks while the last response is awaited. -/
theorem conducts_receiveFinalResponse
    (poised : outline.IsPoised .clientComplete number) :
    Conducts (receiveFinalResponse : SessionM Client Unit) outline
      (fun _ later => Speaks none number later) := by
  refine (conducts_receiveToken poised rfl).bind ?_
  intro received between stillPoised
  split
  · refine conducts_moveTo .complete (.single ?_)
      (speaks_of_isPoised (stillPoised.moveTo .complete))
    exact .moved stillPoised.pending (stillPoised.stage ▸ .confirmed)
      (stillPoised.stage ▸ nofun) (stillPoised.stage ▸ nofun)
  · exact conducts_pure (speaks_of_isPoised stillPoised)

/-- A handler makes no frame but that of the stage for which it speaks. -/
theorem conducts_handle (poised : outline.IsPoised stage number) :
    Conducts (handle stage : SessionM Client Unit) outline
      (fun _ later => Speaks stage.speaking? number later) := by
  cases stage with
  | sendApiVersionsRequest =>
      exact conducts_requestApiVersions poised
  | receiveApiVersionsResponse =>
      refine (conducts_acceptApiVersions poised).bind ?_
      intro accepted between ensured
      cases accepted with
      | true =>
          exact conducts_requestHandshake ensured
      | false =>
          exact conducts_pure (speaks_of_isPoised ensured)
  | sendHandshakeRequest =>
      exact conducts_requestHandshake poised
  | receiveHandshakeResponse =>
      refine (conducts_acceptHandshake poised).bind ?_
      intro accepted between ensured
      cases accepted with
      | true =>
          exact conducts_sendInitialToken ensured
      | false =>
          exact conducts_pure (speaks_of_isPoised ensured)
  | initial =>
      exact conducts_sendInitialToken poised
  | intermediate =>
      exact conducts_exchangeTokens poised
  | clientComplete =>
      exact conducts_receiveFinalResponse poised
  | complete | failed =>
      exact conducts_pure (speaks_of_isPoised poised)

end Session

/-! ## Calls -/

namespace Session

open SessionM

variable {Client : Type} {outline : Outline}

/-- The frame being written goes first, then the handler of the stage. -/
theorem conducts_advance [Mechanism Client] (orderly : outline.IsOrderly) :
    Conducts (advance : SessionM Client Unit) outline
      (fun _ later =>
        later = outline ∧ outline.isWriting = true ∨
          Speaks (outline.pending.getD outline.stage).speaking? outline.made
            later) := by
  refine conducts_get fun session isOutline => ?_
  have sameFrame : outline.isWriting = session.outgoing.isSome := by
    rw [← isOutline]
    rfl
  rw [← sameFrame]
  split
  · next busy =>
      refine (conducts_flush busy).bind ?_
      rintro done _ rfl
      cases done with
      | true =>
          refine conducts_get fun settled isSettled => ?_
          have stage :
              settled.stage = outline.pending.getD outline.stage := by
            exact congrArg Outline.stage isSettled
          rw [stage]
          exact (conducts_handle Outline.isPoised_settle).weaken
            fun _ _ speaks => Or.inr speaks
      | false =>
          exact conducts_pure (Or.inl ⟨rfl, busy⟩)
  · next idle =>
      have notWriting : outline.isWriting = false := by
        simpa using idle
      have settled := orderly.pending_eq_none notWriting
      refine conducts_get fun same isSame => ?_
      have stage : same.stage = outline.stage :=
        congrArg Outline.stage isSame
      rw [stage, settled]
      exact (conducts_handle ⟨rfl, settled, notWriting, rfl⟩).weaken
        fun _ _ speaks => Or.inr speaks

/-- A call is made of acts, and one that fails gives the session up. -/
theorem authenticate_cases [Mechanism Client] (session : Session Client)
    (orderly : session.outline.IsOrderly) :
    session.stage = .failed ∧
        session.authenticate =
          (.error (.handshakeTerminated session.node), session) ∨
      (∃ later,
        session.authenticate = (.ok (), later) ∧
          session.outline.Acts later.outline ∧
          (later.outline = session.outline ∧ session.outgoing.isSome = true ∨
            Speaks (session.pending.getD session.stage).speaking?
              session.outline.made later.outline)) ∨
      ∃ cause later between,
        session.authenticate = (.error cause, later) ∧
          session.outline.Acts between ∧ later.outline = between.fail := by
  by_cases failed : session.stage = .failed
  · exact Or.inl ⟨failed, by rw [authenticate, if_pos failed]⟩
  · have ensured := conducts_advance orderly session.begin session.outline_begin
    rcases ensured.authenticate failed with
      ⟨later, same, conducts⟩ | ⟨cause, between, same, last, acts, ends⟩
    · exact Or.inr (Or.inl ⟨later, same, conducts⟩)
    · exact Or.inr (Or.inr ⟨cause, between.fail, last, same, acts, ends⟩)

/-- What an operation does to the outline of a session. -/
theorem outline_perform_cases [Mechanism Client] (session : Session Client)
    (orderly : session.outline.IsOrderly) (operation : Operation) :
    session.outline.Acts (session.perform operation).2.outline ∨
      (∃ between, session.outline.Acts between ∧
        (session.perform operation).2.outline = between.fail) ∨
      session.stage.isTerminal = true ∧
        (session.perform operation).2.outline = session.outline.release := by
  cases operation with
  | authenticate =>
      rw [perform]
      rcases session.authenticate_cases orderly with
        ⟨-, same⟩ | ⟨later, same, acts, -⟩ |
          ⟨cause, later, between, same, acts, failed⟩
      · rw [same]
        exact Or.inl .refl
      · rw [same]
        exact Or.inl acts
      · rw [same]
        exact Or.inr (Or.inl ⟨between, acts, failed⟩)
  | close =>
      rw [perform, close]
      split
      · next terminal =>
          exact Or.inr (Or.inr ⟨terminal, rfl⟩)
      · exact Or.inr (Or.inl ⟨session.outline, .refl, rfl⟩)
  | transport step =>
      exact Or.inl .refl

/-- What acts and endings preserve holds after every run. -/
theorem outline_run_induct [Mechanism Client] {holds : Outline → Prop}
    (preserves :
      ∀ before after : Outline, before.IsOrderly → holds before →
        before.Act after → holds after)
    (fails : ∀ before : Outline, holds before → holds before.fail)
    (releases :
      ∀ before : Outline, before.stage.isTerminal = true → holds before →
        holds before.release)
    {session : Session Client} (orderly : session.outline.IsOrderly)
    (starts : holds session.outline) (operations : List Operation) :
    (session.run operations).outline.IsOrderly ∧
      holds (session.run operations).outline := by
  induction operations generalizing session with
  | nil =>
      exact ⟨orderly, starts⟩
  | cons operation later inductionHypothesis =>
      have performed :
          (session.perform operation).2.outline.IsOrderly ∧
            holds (session.perform operation).2.outline := by
        rcases session.outline_perform_cases orderly operation with
          acts | ⟨between, acts, failed⟩ | ⟨terminal, released⟩
        · exact ⟨Outline.Acts.isOrderly acts orderly,
            Outline.Acts.induct acts orderly starts preserves⟩
        · rw [failed]
          exact ⟨Outline.isOrderly_of_settled rfl,
            fails between (Outline.Acts.induct acts orderly starts preserves)⟩
        · rw [released]
          exact ⟨orderly.release terminal, releases _ terminal starts⟩
      exact inductionHypothesis performed.1 performed.2

/-- A session stays orderly in every run. -/
theorem isOrderly_run [Mechanism Client] {session : Session Client}
    (orderly : session.outline.IsOrderly)
    (operations : List Operation) :
    (session.run operations).outline.IsOrderly := by
  have orderlyAndMore :
      (session.run operations).outline.IsOrderly ∧
        (fun _ : Outline => True) (session.run operations).outline :=
    outline_run_induct (fun _ _ _ _ _ => trivial) (fun _ _ => trivial)
      (fun _ _ _ => trivial) orderly trivial operations
  exact orderlyAndMore.1

/-- A run may be interrupted and taken up again. -/
theorem run_append [Mechanism Client] (session : Session Client)
    (operations later : List Operation) :
    session.run (operations ++ later) = (session.run operations).run later :=
  List.foldl_append

end Session

end BrokerSession
