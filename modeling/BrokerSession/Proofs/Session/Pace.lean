import BrokerSession.Proofs.Session.Ensures
import BrokerSession.Proofs.Session.Journal

namespace BrokerSession

/-!
# How much one call does

However many steps a call takes, it makes at most one frame and takes at most
one.  This holds with any mechanism, from any session, and whether or not the
call succeeds.
-/

open Journal

/-- A session that went on, with at most so many frames made and taken. -/
def Session.Extends {Client : Type} (made taken : Nat)
    (session later : Session Client) : Prop :=
  ∃ events,
    later.journal = session.journal ++ events ∧
      (frames events).length ≤ made ∧ (payloads events).length ≤ taken

/-- A computation that makes and takes at most so many frames. -/
def SessionM.Within {Client Content : Type} (made taken : Nat)
    (action : SessionM Client Content) : Prop :=
  ∀ session,
    action.Ensures session
      (fun _ later => session.Extends made taken later)
      (fun _ later => session.Extends made taken later)

variable {Client Content Next : Type}

namespace Session.Extends

variable {made taken laterMade laterTaken : Nat}
  {session between later : Session Client}

/-- As long as the journal stays as it is, no frame is made or taken. -/
theorem of_journal_eq (same : later.journal = session.journal) :
    session.Extends made taken later :=
  ⟨[], by rw [same, List.append_nil], Nat.zero_le _, Nat.zero_le _⟩

/-- One event makes and takes only the frames that it tells of. -/
theorem of_note {event : Event}
    (noted : later.journal = session.journal ++ [event])
    (makes : (frames [event]).length ≤ made)
    (takes : (payloads [event]).length ≤ taken) :
    session.Extends made taken later :=
  ⟨[event], noted, makes, takes⟩

/-- Whoever kept to a budget has kept to a larger one. -/
theorem mono (extended : session.Extends made taken later)
    (makesMore : made ≤ laterMade) (takesMore : taken ≤ laterTaken) :
    session.Extends laterMade laterTaken later := by
  obtain ⟨events, journal, makes, takes⟩ := extended
  exact ⟨events, journal, Nat.le_trans makes makesMore,
    Nat.le_trans takes takesMore⟩

/-- What is left of a budget may be used later. -/
theorem trans (first : session.Extends made taken between)
    (makesMore : made ≤ laterMade) (takesMore : taken ≤ laterTaken)
    (second :
      between.Extends (laterMade - made) (laterTaken - taken) later) :
    session.Extends laterMade laterTaken later := by
  obtain ⟨events, journal, makes, takes⟩ := first
  obtain ⟨laterEvents, laterJournal, laterMakes, laterTakes⟩ := second
  refine ⟨events ++ laterEvents, ?_, ?_, ?_⟩
  · rw [laterJournal, journal, List.append_assoc]
  · rw [frames_append, List.length_append]
    omega
  · rw [payloads_append, List.length_append]
    omega

end Session.Extends

namespace SessionM

open Session (Extends)

variable {made taken used usedTaken : Nat}

/-- To return something needs no frame. -/
theorem within_pure (content : Content) :
    Within made taken (pure content : SessionM Client Content) :=
  fun _ => Extends.of_journal_eq rfl

/-- To fail needs no frame. -/
theorem within_throw (cause : SessionError) :
    Within made taken (throw cause : SessionM Client Content) :=
  fun _ => Extends.of_journal_eq rfl

/-- To look at the session needs no frame. -/
theorem within_get : Within 0 0 (get : SessionM Client (Session Client)) :=
  fun _ => Extends.of_journal_eq rfl

/-- A change that notes nothing needs no frame. -/
theorem within_modify {change : Session Client → Session Client}
    (same : ∀ session, (change session).journal = session.journal) :
    Within 0 0 (modify change : SessionM Client PUnit) :=
  fun session => Extends.of_journal_eq (same session)

namespace Within

variable {first : SessionM Client Next} {next : Next → SessionM Client Content}

/-- A computation leaves to the next one what it does not use itself. -/
theorem bind (starts : Within used usedTaken first) (makesMore : used ≤ made)
    (takesMore : usedTaken ≤ taken)
    (goesOn :
      ∀ content, Within (made - used) (taken - usedTaken) (next content)) :
    Within made taken (first >>= next) := by
  intro session
  rw [ensures_bind]
  apply (starts session).weaken
  · intro content between extended
    exact (goesOn content between).weaken
      (fun _ _ => extended.trans makesMore takesMore)
      (fun _ _ => extended.trans makesMore takesMore)
  · intro cause between extended
    exact extended.mono makesMore takesMore

/-- A computation without frames leaves everything to the next one. -/
theorem andThen (starts : Within 0 0 first)
    (goesOn : ∀ content, Within made taken (next content)) :
    Within made taken (first >>= next) :=
  starts.bind (Nat.zero_le made) (Nat.zero_le taken) goesOn

/-- To convert what is returned needs no further frame. -/
theorem map {convert : Next → Content} (starts : Within made taken first) :
    Within made taken (convert <$> first) := by
  intro session
  rw [ensures_map]
  exact starts session

/-- A computation within a budget is within a larger one. -/
theorem mono (within : Within used usedTaken first) (makesMore : used ≤ made)
    (takesMore : usedTaken ≤ taken) : Within made taken first := by
  intro session
  exact (within session).weaken
    (fun _ _ extended => extended.mono makesMore takesMore)
    (fun _ _ extended => extended.mono makesMore takesMore)

end Within

end SessionM

namespace Session

open SessionM

/-- A move to another stage is not noted. -/
theorem journal_setStage (session : Session Client) (stage : Stage) :
    (session.setStage stage).journal = session.journal := by
  unfold setStage
  split
  · rfl
  · dsimp only
    split <;> rfl

/-- All that settling notes is that the frame was flushed. -/
theorem journal_settle (session : Session Client) :
    session.settle.journal = session.journal ++ [.flushed] := by
  unfold settle
  cases session.pending with
  | none =>
      rfl
  | some stage =>
      exact journal_setStage _ stage

/-- To move to another stage needs no frame. -/
theorem within_setStage (stage : Stage) :
    Within 0 0 (modify (·.setStage stage) : SessionM Client PUnit) :=
  within_modify fun session => session.journal_setStage stage

/-! ## Writing -/

/-- To write the rest of a frame needs no other frame. -/
theorem within_flush : Within 0 0 (flush : SessionM Client Bool) := by
  intro session
  cases isOutgoing : session.outgoing with
  | none =>
      rw [flush, ensures_bind, ensures_get]
      simp only [isOutgoing]
      exact .of_note session.journal_settle (Nat.le_refl 0) (Nat.le_refl 0)
  | some outgoing =>
      rw [ensures_flush_iff isOutgoing]
      rcases outgoing.writeTo session.transport with
        ⟨cause | count, left, transport⟩
      · exact .of_journal_eq rfl
      · dsimp only
        split
        · exact .of_note (journal_settle _) (Nat.le_refl 0) (Nat.le_refl 0)
        · exact .of_journal_eq rfl

/-- To send a payload makes its frame and takes none. -/
theorem within_send (header : Option RequestHeader) (outgoing : Outgoing) :
    Within 1 0 (send header outgoing : SessionM Client Unit) := by
  have notes :
      Within 1 0
        (modify fun session =>
          { session.note (.framed header outgoing.remaining) with
            outgoing := some outgoing } :
          SessionM Client PUnit) :=
    fun session => .of_note rfl (Nat.le_refl 1) (Nat.le_refl 0)
  exact notes.bind (Nat.le_refl 1) (Nat.le_refl 0) fun _ => within_flush.map

/-- A request is sent in a single frame. -/
theorem within_sendRequest (request : Request) :
    Within 1 0 (sendRequest request : SessionM Client Unit) := by
  have draws :
      Within 0 0
        (nextHeader request.api request.version :
          SessionM Client RequestHeader) :=
    fun session => .of_journal_eq rfl
  apply draws.andThen
  intro header
  apply within_get.andThen
  intro session
  split
  · exact within_throw _
  · next outgoing made =>
      have counts :
          Within 0 0
            (modify fun session =>
              { session with ledger := session.ledger.recordRequest } :
              SessionM Client PUnit) :=
        within_modify fun _ => rfl
      exact counts.andThen fun _ => within_send _ outgoing

variable [Mechanism Client]

/-- The mechanism evaluates a challenge without any frame. -/
theorem within_nextToken (challenge : Bytes) (isInitial : Bool) :
    Within 0 0
      (nextToken challenge isInitial : SessionM Client (Option Bytes)) := by
  intro session
  rw [ensures_nextToken_iff]
  split
  · exact .of_journal_eq rfl
  · rcases Mechanism.evaluate session.client challenge with
      ⟨cause | token, client⟩
    · exact .of_note rfl (Nat.le_refl 0) (Nat.le_refl 0)
    · exact .of_note rfl (Nat.le_refl 0) (Nat.le_refl 0)

/-- Send a token that the mechanism has produced, if it has. -/
def sendProduced : Option Bytes → SessionM Client Bool
  | none => return false
  | some token => do
      let session ← get
      match session.authenticateVersion with
      | some version =>
          sendRequest { body := .saslAuthenticate token, version }
      | none =>
          match Outgoing.ofPayload session.node token with
          | .error cause => throw (.io cause)
          | .ok outgoing => send none outgoing
      return true

/-- Unless the mechanism is complete, its next token is produced and sent. -/
theorem sendToken_eq (challenge : Bytes) (isInitial : Bool) :
    (sendToken challenge isInitial : SessionM Client Bool) =
      (do
        if Mechanism.isComplete (← get).client then return false
        else sendProduced (← nextToken challenge isInitial)) := by
  refine bind_congr fun session => ?_
  split
  · rfl
  · refine bind_congr fun produced => ?_
    cases produced <;> rfl

omit [Mechanism Client] in
/-- A token is sent in a single frame, inside of a request or alone. -/
theorem within_sendProduced (produced : Option Bytes) :
    Within 1 0 (sendProduced produced : SessionM Client Bool) := by
  cases produced with
  | none =>
      exact within_pure false
  | some token =>
      apply within_get.andThen
      intro session
      split
      · exact (within_sendRequest _).bind (Nat.le_refl 1) (Nat.le_refl 0)
          fun _ => within_pure true
      · split
        · intro session
          exact .of_journal_eq rfl
        · exact (within_send none _).bind (Nat.le_refl 1) (Nat.le_refl 0)
            fun _ => within_pure true

/-- The mechanism's turn makes a single frame at most. -/
theorem within_sendToken (challenge : Bytes) (isInitial : Bool) :
    Within 1 0 (sendToken challenge isInitial : SessionM Client Bool) := by
  rw [sendToken_eq]
  apply within_get.andThen
  intro session
  split
  · exact within_pure false
  · exact (within_nextToken challenge isInitial).andThen within_sendProduced

/-! ## Reading -/

omit [Mechanism Client] in
/-- To read from the transport takes a single frame at most. -/
theorem within_receiveFrame :
    Within 0 1 (receiveFrame : SessionM Client (Option Bytes)) := by
  intro session
  rw [ensures_receiveFrame_iff rfl]
  rcases (session.incoming.getD
    (.start session.node session.config.maxReceiveSize)).readFrom
      session.transport with ⟨cause | count, left, transport⟩
  · exact .of_journal_eq rfl
  · dsimp only
    cases left.payload with
    | none =>
        exact .of_journal_eq rfl
    | some payload =>
        exact .of_note rfl (Nat.le_refl 0) (Nat.le_refl 1)

omit [Mechanism Client] in
/-- A response is decoded from a single frame. -/
theorem within_receiveResponse :
    Within 0 1 (receiveResponse : SessionM Client (Option Response)) := by
  apply within_receiveFrame.bind (Nat.zero_le _) (Nat.le_refl 1)
  intro received
  cases received with
  | none =>
      exact within_pure none
  | some payload =>
      intro session
      simp only [ensures_bind, ensures_get, ensures_set]
      split
      · exact .of_journal_eq rfl
      · split
        · exact .of_journal_eq rfl
        · exact .of_journal_eq rfl
        · exact .of_note rfl (Nat.le_refl 0) (Nat.le_refl 0)

omit [Mechanism Client] in
/-- To expect a certain response takes no further frame. -/
theorem within_receiveAs (convert : Response → Except SessionError Content) :
    Within 0 1 (receiveAs convert : SessionM Client (Option Content)) := by
  apply within_receiveResponse.bind (Nat.zero_le _) (Nat.le_refl 1)
  intro received
  cases received with
  | none =>
      exact within_pure none
  | some response =>
      dsimp only
      split
      · exact within_pure _
      · exact within_throw _

omit [Mechanism Client] in
/-- The peer's token is found in a single frame. -/
theorem within_receiveToken :
    Within 0 1 (receiveToken : SessionM Client (Option Bytes)) := by
  apply within_get.andThen
  intro session
  split
  · exact within_receiveFrame
  · apply (within_receiveAs _).bind (Nat.zero_le _) (Nat.le_refl 1)
    intro received
    cases received with
    | none =>
        exact within_pure none
    | some response =>
        dsimp only
        split
        · exact within_pure _
        · exact within_throw _

/-! ## Stages -/

omit [Mechanism Client] in
/-- The versions are asked for in a single frame. -/
theorem within_requestApiVersions :
    Within 1 0 (requestApiVersions : SessionM Client Unit) :=
  (within_sendRequest _).bind (Nat.le_refl 1) (Nat.le_refl 0) fun _ =>
    within_setStage _

omit [Mechanism Client] in
/-- The versions are accepted from a single frame. -/
theorem within_acceptApiVersions :
    Within 0 1 (acceptApiVersions : SessionM Client Bool) := by
  apply (within_receiveAs _).bind (Nat.zero_le _) (Nat.le_refl 1)
  intro received
  cases received with
  | none =>
      exact within_pure false
  | some response =>
      dsimp only
      split
      · have agrees :
            Within 0 0
              (modify fun session =>
                { session with
                  handshakeVersion :=
                    ((response.apiVersion? .saslHandshake).map
                      (·.usableVersion ApiKey.saslHandshake.latestVersion)).getD
                      0
                  authenticateVersion :=
                    (response.apiVersion? .saslAuthenticate).map
                      (·.usableVersion ApiKey.saslAuthenticate.latestVersion) } :
                SessionM Client PUnit) :=
          within_modify fun _ => rfl
        exact agrees.andThen fun _ => (within_setStage _).andThen fun _ =>
          within_pure true
      · exact within_throw _

omit [Mechanism Client] in
/-- The mechanism is proposed in a single frame. -/
theorem within_requestHandshake :
    Within 1 0 (requestHandshake : SessionM Client Unit) :=
  within_get.andThen fun _ =>
    (within_sendRequest _).bind (Nat.le_refl 1) (Nat.le_refl 0) fun _ =>
      within_setStage _

omit [Mechanism Client] in
/-- The peer takes the mechanism in a single frame. -/
theorem within_acceptHandshake :
    Within 0 1 (acceptHandshake : SessionM Client Bool) := by
  apply (within_receiveAs _).bind (Nat.zero_le _) (Nat.le_refl 1)
  intro received
  cases received with
  | none =>
      exact within_pure false
  | some response =>
      apply within_get.andThen
      intro session
      split
      · exact within_throw _
      · exact (within_setStage _).andThen fun _ => within_pure true

/-- The mechanism begins with a single frame. -/
theorem within_sendInitialToken :
    Within 1 0 (sendInitialToken : SessionM Client Unit) :=
  (within_sendToken [] true).map.bind (Nat.le_refl 1) (Nat.le_refl 0) fun _ =>
    within_setStage _

/-- Moving on once the mechanism is complete makes and takes nothing. -/
theorem within_afterExchange (noResponsesPending : Bool) :
    Within 0 0
      (do
        if Mechanism.isComplete (← get).client then
          modify fun session => session.setStage
            (.afterClientComplete session.authenticateVersion.isSome
              noResponsesPending) :
        SessionM Client Unit) := by
  apply within_get.andThen
  intro session
  split
  · exact within_modify fun session => session.journal_setStage _
  · exact within_pure ()

/-- In a round of tokens one frame is taken and one is made, at most. -/
theorem within_exchangeTokens :
    Within 1 1 (exchangeTokens : SessionM Client Unit) := by
  apply within_receiveToken.bind (Nat.zero_le _) (Nat.le_refl 1)
  intro received
  cases received with
  | none =>
      exact (within_afterExchange false).mono (Nat.zero_le 1) (Nat.le_refl 0)
  | some token =>
      exact (within_sendToken token false).map.bind (Nat.le_refl 1)
        (Nat.le_refl 0) within_afterExchange

omit [Mechanism Client] in
/-- The peer's last word is found in a single frame. -/
theorem within_receiveFinalResponse :
    Within 0 1 (receiveFinalResponse : SessionM Client Unit) := by
  apply within_receiveToken.bind (Nat.zero_le _) (Nat.le_refl 1)
  intro received
  split
  · exact within_setStage .complete
  · exact within_pure ()

/-- No handler makes more than one frame or takes more than one. -/
theorem within_handle (stage : Stage) :
    Within 1 1 (handle stage : SessionM Client Unit) := by
  cases stage with
  | sendApiVersionsRequest =>
      exact within_requestApiVersions.mono (Nat.le_refl 1) (Nat.zero_le 1)
  | receiveApiVersionsResponse =>
      apply within_acceptApiVersions.bind (Nat.zero_le 1) (Nat.le_refl 1)
      intro accepted
      split
      · exact within_requestHandshake
      · exact within_pure ()
  | sendHandshakeRequest =>
      exact within_requestHandshake.mono (Nat.le_refl 1) (Nat.zero_le 1)
  | receiveHandshakeResponse =>
      apply within_acceptHandshake.bind (Nat.zero_le 1) (Nat.le_refl 1)
      intro accepted
      split
      · exact within_sendInitialToken
      · exact within_pure ()
  | initial =>
      exact within_sendInitialToken.mono (Nat.le_refl 1) (Nat.zero_le 1)
  | intermediate =>
      exact within_exchangeTokens
  | clientComplete =>
      exact within_receiveFinalResponse.mono (Nat.zero_le 1) (Nat.le_refl 1)
  | complete | failed =>
      exact within_pure ()

/-- With or without a frame to be written first, the bound is the same. -/
theorem within_advance : Within 1 1 (advance : SessionM Client Unit) := by
  apply within_get.andThen
  intro session
  split
  · apply within_flush.andThen
    intro done
    split
    · exact within_get.andThen fun _ => within_handle _
    · exact within_pure ()
  · exact within_get.andThen fun _ => within_handle _

/-- A call makes at most one frame and takes at most one. -/
theorem extends_authenticate (session : Session Client) :
    session.Extends 1 1 session.authenticate.2 := by
  by_cases failed : session.stage = .failed
  · rw [authenticate, if_pos failed]
    exact .of_journal_eq rfl
  · have begins : session.begin.journal = session.journal := by
      rw [begin]
      split <;> rfl
    have counted : session.Extends 0 0 session.begin := .of_journal_eq begins
    rcases Ensures.authenticate (within_advance session.begin) failed with
      ⟨later, same, within⟩ | ⟨cause, later, same, within⟩
    · rw [same]
      exact counted.trans (Nat.zero_le 1) (Nat.zero_le 1) within
    · rw [same]
      exact counted.trans (Nat.zero_le 1) (Nat.zero_le 1) within

/-- The other operations make and take no frame. -/
theorem journal_perform_of_ne {operation : Operation}
    (other : operation ≠ .authenticate) (session : Session Client) :
    (session.perform operation).2.journal = session.journal := by
  cases operation with
  | authenticate =>
      exact (other rfl).elim
  | close =>
      simp only [perform, close]
      split <;> rfl
  | transport step =>
      rfl

end Session

end BrokerSession
