import BrokerSession.Proofs.Session.Pace
import BrokerSession.Proofs.Session.Runs

namespace BrokerSession.Session

/-!
# Sessions that stand still

Over a transport that only delays and has no budgets, a call on a session notes
something in the journal, uses up a forced outcome, or has read everything that
arrived.  A session that a call leaves as it is therefore waits for the peer,
and nothing is left to read.
-/

open SessionM

variable {origin : Origin} {session between later : Session SaslClient}
  {point : Point} {Content : Type}

/-- Whether something was noted since. -/
def Notes (session later : Session SaslClient) : Prop :=
  session.journal.length < later.journal.length

/-- Whether nothing was done but to read all that there was. -/
structure Waits (session later : Session SaslClient) : Prop where
  stage : later.stage = session.stage
  outgoing : later.outgoing = session.outgoing
  client : later.client = session.client
  drained : session.transport.Drained later.transport

/-- A computation that reads on either notes something or waits. -/
def Listens (action : SessionM SaslClient (Option Content))
    (session : Session SaslClient) : Prop :=
  action.Ensures session
    (fun received later =>
      match received with
      | none => session.Waits later
      | some _ => session.Notes later)
    (fun _ _ => True)

/-- What was noted stays in the journal. -/
theorem Notes.within {action : SessionM SaslClient Content}
    {made taken : Nat} (notes : session.Notes between)
    (within : Within made taken action) :
    action.Ensures between (fun _ later => session.Notes later)
      (fun _ _ => True) := by
  refine (within between).weaken ?_ fun _ _ _ => trivial
  rintro _ later ⟨events, journal, -, -⟩
  rw [Notes, journal, List.length_append]
  exact Nat.lt_add_right _ notes

/-- What was noted stays so, whatever else might hold. -/
theorem Notes.within_or {action : SessionM SaslClient Content}
    {made taken : Nat} {otherwise : Session SaslClient → Prop}
    (notes : session.Notes between) (within : Within made taken action) :
    action.Ensures between
      (fun _ later => session.Notes later ∨ otherwise later)
      (fun _ _ => True) :=
  (notes.within within).weaken (fun _ _ => Or.inl) fun _ _ _ => trivial

/-- To note one event is to have noted something. -/
theorem notes_of_note {event : Event}
    (noted : later.journal = session.journal ++ [event]) :
    session.Notes later := by
  simp [Notes, noted]

/-- Another event does not take back that something was noted. -/
theorem Notes.note {event : Event} (notes : session.Notes between)
    (noted : later.journal = between.journal ++ [event]) :
    session.Notes later :=
  Nat.lt_trans notes (notes_of_note noted)

/-- A change of stage neither notes nor reads anything. -/
theorem drained_setStage {before : Transport}
    (drained : before.Drained session.transport) (stage : Stage) :
    before.Drained (session.setStage stage).transport := by
  unfold setStage
  split
  · exact drained
  · dsimp only
    split <;> exact drained

/-! ## Writing -/

/-- Without a budget a frame is flushed or meets a forced outcome. -/
theorem ensures_flush_of_unlimited (busy : session.outgoing.isSome = true)
    (patient : session.transport.IsPatient)
    (unlimited : session.transport.writeBudget = none) :
    flush.Ensures session
      (fun done later =>
        if done then session.Notes later
        else
          later.transport.writeOutcomes.length <
            session.transport.writeOutcomes.length)
      (fun _ _ => True) := by
  obtain ⟨outgoing, isOutgoing⟩ := Option.isSome_iff_exists.mp busy
  have progress :=
    outgoing.writeAfter_of_unlimited 0 session.transport patient unlimited
  rw [ensures_flush_iff isOutgoing]
  rw [← Outgoing.writeTo] at progress
  generalize outgoing.writeTo session.transport = result at progress
  rcases result with ⟨cause | count, left, transport⟩
  · trivial
  · dsimp only
    split
    · rw [if_pos rfl]
      exact notes_of_note (journal_settle _)
    · next incomplete =>
        rw [if_neg Bool.false_ne_true]
        rcases progress with flushed | fewer
        · exact (incomplete (List.isEmpty_iff.mpr flushed)).elim
        · exact fewer

/-- Whatever is sent is noted first. -/
theorem notes_send (header : Option RequestHeader) (outgoing : Outgoing) :
    (send header outgoing).Ensures session
      (fun _ later => session.Notes later)
      (fun _ _ => True) := by
  rw [send, ensures_bind, ensures_modify]
  have notes :
      session.Notes
        { session.note (.framed header outgoing.remaining) with
          outgoing := some outgoing } :=
    notes_of_note rfl
  exact notes.within within_flush.map

/-- To send a request is noted. -/
theorem notes_sendRequest (request : Request) :
    (sendRequest request).Ensures session
      (fun _ later => session.Notes later)
      (fun _ _ => True) := by
  rw [sendRequest, ensures_bind, nextHeader, ensures_bind, ensures_get]
  simp only [ensures_bind, ensures_set, ensures_pure, ensures_get]
  split
  · trivial
  · rw [ensures_bind, ensures_modify]
    exact notes_send _ _

/-- To ask for the versions is noted. -/
theorem notes_requestApiVersions :
    requestApiVersions.Ensures session
      (fun _ later => session.Notes later)
      (fun _ _ => True) :=
  (notes_sendRequest _).bind fun _ _ notes =>
    notes.within (within_setStage _)

/-- A mechanism that is asked leaves its answer in the journal. -/
theorem notes_sendInitialToken
    (incomplete : Mechanism.isComplete session.client = false) :
    sendInitialToken.Ensures session
      (fun _ later => session.Notes later)
      (fun _ _ => True) := by
  have asks :
      (nextToken [] true).Ensures session
        (fun _ later => session.Notes later)
        (fun _ _ => True) := by
    rw [ensures_nextToken_iff]
    simp only [SaslClient.hasInitialResponse, Bool.not_true, Bool.and_false]
    rw [if_neg Bool.false_ne_true]
    rcases Mechanism.evaluate session.client [] with ⟨cause | token, client⟩
    · trivial
    · exact notes_of_note rfl
  have sends :
      (sendToken [] true).Ensures session
        (fun _ later => session.Notes later)
        (fun _ _ => True) := by
    rw [sendToken_eq, ensures_bind, ensures_get, incomplete,
      if_neg Bool.false_ne_true]
    exact asks.bind fun token _ notes =>
      notes.within (within_sendProduced token)
  rw [sendInitialToken, ensures_bind, ensures_discard]
  exact sends.weaken
    (fun _ _ notes => notes.within (within_setStage _)) fun _ _ _ => trivial

/-! ## Reading -/

/-- Without a budget a frame is taken, or all that arrived was read. -/
theorem Tracks.listens_receiveFrame (tracks : Tracks origin session point)
    (patient : session.transport.IsPatient)
    (unlimited : session.transport.readBudget = none) :
    Listens receiveFrame session := by
  obtain ⟨incoming, isIncoming, -, isPartial⟩ := tracks.exists_incoming
  have drained {count : Nat} :=
    @incoming.drained_readAfter 0 session.transport _ isPartial patient
      unlimited count
  rw [Listens, ensures_receiveFrame_iff isIncoming]
  rw [← Incoming.readFrom] at drained
  generalize incoming.readFrom session.transport = result at drained
  rcases result with ⟨cause | count, left, transport⟩
  · trivial
  · dsimp only
    cases incomplete : left.payload with
    | none =>
        exact ⟨rfl, rfl, rfl, drained rfl incomplete⟩
    | some payload =>
        exact notes_of_note rfl

/-- A response is noted, or the session waits for it. -/
theorem Listens.receiveResponse (listens : Listens receiveFrame session) :
    Listens receiveResponse session := by
  rw [Listens, Session.receiveResponse]
  apply Ensures.bind listens
  intro received between heard
  cases received with
  | none =>
      exact heard
  | some payload =>
      simp only [ensures_bind, ensures_get, ensures_set]
      split
      · trivial
      · split
        · trivial
        · trivial
        · exact Notes.note heard rfl

/-- A response of a certain kind is noted, or the session waits for it. -/
theorem Listens.receiveAs
    (listens : Listens receiveFrame session)
    (convert : Response → Except SessionError Content) :
    Listens (receiveAs convert) session := by
  rw [Listens, Session.receiveAs]
  apply Ensures.bind listens.receiveResponse
  intro received between heard
  cases received with
  | none =>
      exact heard
  | some response =>
      dsimp only
      split
      · exact heard
      · trivial

/-- The peer's token is noted, or the session waits for it. -/
theorem Listens.receiveToken (listens : Listens receiveFrame session) :
    Listens receiveToken session := by
  rw [Listens, Session.receiveToken, ensures_bind, ensures_get]
  split
  · exact listens
  · apply Ensures.bind (listens.receiveAs _)
    intro received between heard
    cases received with
    | none =>
        exact heard
    | some response =>
        dsimp only
        split
        · exact heard
        · trivial

/-! ## Stages -/

/-- The peer's list is noted, or the session waits for it. -/
theorem Listens.acceptApiVersions (listens : Listens receiveFrame session) :
    acceptApiVersions.Ensures session
      (fun accepted later =>
        if accepted then session.Notes later else session.Waits later)
      (fun _ _ => True) := by
  rw [Session.acceptApiVersions]
  apply Ensures.bind (listens.receiveAs _)
  intro received between heard
  cases received with
  | none =>
      exact heard
  | some response =>
      dsimp only
      split
      · rw [ensures_bind, ensures_modify, ensures_bind, ensures_modify,
          ensures_pure, if_pos rfl, Notes, journal_setStage]
        exact heard
      · trivial

/-- The peer's answer to the mechanism is noted, or the session waits for it. -/
theorem Listens.acceptHandshake (listens : Listens receiveFrame session) :
    acceptHandshake.Ensures session
      (fun accepted later =>
        if accepted then session.Notes later else session.Waits later)
      (fun _ _ => True) := by
  rw [Session.acceptHandshake]
  apply Ensures.bind (listens.receiveAs _)
  intro received between heard
  cases received with
  | none =>
      exact heard
  | some response =>
      dsimp only
      rw [ensures_bind, ensures_get]
      split
      · trivial
      · rw [ensures_bind, ensures_modify, ensures_pure, if_pos rfl, Notes,
          journal_setStage]
        exact heard

/-- Whether a session waits, and not as one that has to move on. -/
structure StandsStill (session later : Session SaslClient) : Prop where
  drained : session.transport.Drained later.transport
  /-- A mechanism that is complete does not exchange any more tokens. -/
  moves :
    session.stage = .intermediate →
      Mechanism.isComplete session.client = true →
        later.stage ≠ .intermediate

/-- Outside of the rounds of tokens a session that waits stands still. -/
theorem Waits.standsStill (waits : session.Waits later)
    (other : session.stage ≠ .intermediate) : session.StandsStill later where
  drained := waits.drained
  moves := fun stage => (other stage).elim

/-- Completing moves the stage on, unless something is still to be written. -/
theorem stage_afterClientComplete (idle : session.outgoing = none)
    (authenticateEnabled noResponsesPending : Bool) :
    (session.setStage
        (.afterClientComplete authenticateEnabled noResponsesPending)).stage ≠
      .intermediate := by
  rw [(stage_setStage idle _).1, Stage.afterClientComplete]
  split <;> exact Stage.noConfusion

/-- A round of tokens is noted, or the session stands still. -/
theorem Listens.exchangeTokens (listens : Listens receiveFrame session)
    (idle : session.outgoing = none) :
    exchangeTokens.Ensures session
      (fun _ later => session.Notes later ∨ session.StandsStill later)
      (fun _ _ => True) := by
  rw [Session.exchangeTokens]
  apply Ensures.bind listens.receiveToken
  intro received between heard
  cases received with
  | none =>
      have waits : session.Waits between := heard
      simp only [pure_bind, ensures_bind, ensures_get]
      by_cases complete : Mechanism.isComplete between.client = true
      · rw [if_pos complete, ensures_modify]
        refine Or.inr ⟨drained_setStage waits.drained _, fun _ _ => ?_⟩
        exact stage_afterClientComplete (waits.outgoing.trans idle) _ _
      · rw [if_neg complete, ensures_pure]
        refine Or.inr ⟨waits.drained, fun _ completeBefore => ?_⟩
        rw [waits.client] at complete
        exact (complete completeBefore).elim
  | some token =>
      have notes : session.Notes between := heard
      exact notes.within_or
        ((within_sendToken token false).map.bind (Nat.le_refl 1)
          (Nat.le_refl 0) within_afterExchange)

/-- The last response is noted, or the session stands still. -/
theorem Listens.receiveFinalResponse (listens : Listens receiveFrame session)
    (other : session.stage ≠ .intermediate) :
    receiveFinalResponse.Ensures session
      (fun _ later => session.Notes later ∨ session.StandsStill later)
      (fun _ _ => True) := by
  rw [Session.receiveFinalResponse]
  apply Ensures.bind listens.receiveToken
  intro received between heard
  cases received with
  | none =>
      have waits : session.Waits between := heard
      exact Or.inr (waits.standsStill other)
  | some token =>
      have notes : session.Notes between := heard
      exact notes.within_or (within_setStage .complete)

/-! ## Calls -/

/-- A handler notes something, or stands still where an answer is awaited. -/
theorem Tracks.ensures_handle_of_unlimited
    (tracks : Tracks origin session point)
    (rests : Rests session.stage session.pending point)
    (idle : session.outgoing = none) (patient : session.transport.IsPatient)
    (unlimited : session.transport.readBudget = none) :
    (handle session.stage).Ensures session
      (fun _ later =>
        session.Notes later ∨
          point.activity.isAwaiting = true ∧ session.StandsStill later)
      (fun _ _ => True) := by
  have listens := tracks.listens_receiveFrame patient unlimited
  cases rests with
  | asking stage pending fresh ready =>
      rw [stage]
      exact notes_requestApiVersions.weaken (fun _ _ => Or.inl)
        fun _ _ _ => trivial
  | starting stage pending fresh challenged =>
      rw [stage]
      have incomplete : Mechanism.isComplete session.client = false := by
        rw [tracks.client]
        exact SaslClient.not_isComplete_of_isFresh fresh
      exact (notes_sendInitialToken incomplete).weaken (fun _ _ => Or.inl)
        fun _ _ _ => trivial
  | writing task header stage pending suits writing
  | writingNext token header stage pending begun incomplete writing =>
      have isWriting := tracks.outgoing
      rw [idle, writing] at isWriting
      cases isWriting
  | awaitingFinal token header stage pending complete awaiting =>
      have other : session.stage ≠ .intermediate := by
        rw [stage]
        exact Stage.noConfusion
      rw [stage]
      refine (listens.receiveFinalResponse other).weaken ?_ fun _ _ _ => trivial
      intro _ later
      exact Or.imp_right fun still => ⟨by rw [awaiting]; rfl, still⟩
  | awaiting task header stage pending suits awaiting =>
      have isAwaiting : point.activity.isAwaiting = true := by
        rw [awaiting]
        rfl
      rw [stage]
      cases task with
      | versions =>
          have other : session.stage ≠ .intermediate := by
            rw [stage]
            exact Stage.noConfusion
          apply Ensures.bind listens.acceptApiVersions
          intro accepted between heard
          cases accepted with
          | true =>
              have notes : session.Notes between := heard
              exact notes.within_or within_requestHandshake
          | false =>
              have waits : session.Waits between := heard
              exact Or.inr ⟨isAwaiting, waits.standsStill other⟩
      | handshake =>
          have other : session.stage ≠ .intermediate := by
            rw [stage]
            exact Stage.noConfusion
          apply Ensures.bind listens.acceptHandshake
          intro accepted between heard
          cases accepted with
          | true =>
              have notes : session.Notes between := heard
              exact notes.within_or within_sendInitialToken
          | false =>
              have waits : session.Waits between := heard
              exact Or.inr ⟨isAwaiting, waits.standsStill other⟩
      | token content =>
          refine (listens.exchangeTokens idle).weaken ?_ fun _ _ _ => trivial
          intro _ later
          exact Or.imp_right fun still => ⟨isAwaiting, still⟩

/-- A call notes something, meets a forced outcome, or stands still. -/
inductive Advanced (point : Point) (session later : Session SaslClient) :
    Prop where
  | notes (notes : session.Notes later)
  | forced
      (fewer :
        later.transport.writeOutcomes.length <
          session.transport.writeOutcomes.length)
  | standsStill (isAwaiting : point.activity.isAwaiting = true)
      (standsStill : session.StandsStill later)

/--
With an unlimited transport, to advance gets something done or stands still.
-/
theorem Tracks.ensures_advance_of_unlimited
    (tracks : Tracks origin session point)
    (rests : Rests session.stage session.pending point)
    (patient : session.transport.IsPatient)
    (readUnlimited : session.transport.readBudget = none)
    (writeUnlimited : session.transport.writeBudget = none) :
    advance.Ensures session
      (fun _ later => Advanced point session later)
      (fun _ _ => True) := by
  rw [advance, ensures_bind, ensures_get]
  by_cases busy : session.outgoing.isSome = true
  · rw [if_pos busy]
    apply (ensures_flush_of_unlimited busy patient writeUnlimited).bind
    intro done between flushed
    cases done with
    | true =>
        have notes : session.Notes between := flushed
        rw [if_pos rfl, ensures_bind, ensures_get]
        exact (notes.within (within_handle _)).weaken
          (fun _ _ => .notes) fun _ _ _ => trivial
    | false =>
        exact .forced flushed
  · have idle : session.outgoing = none := by
      simpa using busy
    rw [if_neg busy, ensures_bind, ensures_get]
    refine (tracks.ensures_handle_of_unlimited rests idle patient
      readUnlimited).weaken ?_ fun _ _ _ => trivial
    rintro _ later (notes | ⟨isAwaiting, still⟩)
    · exact .notes notes
    · exact .standsStill isAwaiting still

/-! ## Quiet sessions -/

/-- Whether nothing holds a session back, and yet a call does not change it. -/
structure IsQuiet (session : Session SaslClient) : Prop where
  readUnlimited : session.transport.readBudget = none
  writeUnlimited : session.transport.writeBudget = none
  unchanged : session.authenticate.2 = session

/-- A call after which a session has not failed has returned. -/
theorem returned_of_authenticate {returned : Session SaslClient → Prop}
    (notFailed : session.authenticate.2.stage ≠ .failed)
    (ensures :
      advance.Ensures session.begin (fun _ later => returned later)
        (fun _ _ => True)) :
    returned session.authenticate.2 := by
  have unfailed : session.stage ≠ .failed := by
    intro isFailed
    rw [authenticate_of_failed isFailed] at notFailed
    exact notFailed isFailed
  rcases ensures.authenticate unfailed with
    ⟨later, same, returned⟩ | ⟨cause, later, same, -⟩
  · rw [same]
    exact returned
  · rw [same] at notFailed
    exact (notFailed rfl).elim

/-- A call that does not fail has got further, or it stands still. -/
theorem Tracks.advanced (tracks : Tracks origin session point)
    (rests : Rests session.stage session.pending point)
    (patient : session.transport.IsPatient)
    (readUnlimited : session.transport.readBudget = none)
    (writeUnlimited : session.transport.writeBudget = none)
    (notFailed : session.authenticate.2.stage ≠ .failed) :
    Advanced point session session.authenticate.2 := by
  obtain ⟨ledger, isBegun⟩ := session.exists_begin
  have begun :
      Tracks origin { session with started := true, ledger := ledger } point :=
    { tracks with }
  have advances :=
    begun.ensures_advance_of_unlimited rests patient readUnlimited
      writeUnlimited
  rw [← isBegun] at advances
  have advanced := returned_of_authenticate notFailed advances
  rw [isBegun] at advanced
  cases advanced with
  | notes notes =>
      exact .notes notes
  | forced fewer =>
      exact .forced fewer
  | standsStill isAwaiting still =>
      exact .standsStill isAwaiting ⟨still.drained, still.moves⟩

/-- A call that leaves a session as it is finds nothing left to read. -/
theorem Tracks.standsStill (tracks : Tracks origin session point)
    (rests : Rests session.stage session.pending point)
    (patient : session.transport.IsPatient) (quiet : session.IsQuiet) :
    point.activity.isAwaiting = true ∧ session.transport.inbound = [] ∧
      (session.stage = .intermediate →
        Mechanism.isComplete point.client = false) := by
  have notFailed : session.authenticate.2.stage ≠ .failed := by
    rw [quiet.unchanged]
    intro isFailed
    have notTerminal := rests.isTerminal_eq
    rw [isFailed] at notTerminal
    cases notTerminal
  have advanced :=
    tracks.advanced rests patient quiet.readUnlimited quiet.writeUnlimited
      notFailed
  rw [quiet.unchanged] at advanced
  cases advanced with
  | notes notes =>
      exact (Nat.lt_irrefl _ notes).elim
  | forced fewer =>
      exact (Nat.lt_irrefl _ fewer).elim
  | standsStill isAwaiting still =>
      refine ⟨isAwaiting, ?_, fun stage => ?_⟩
      · rcases still.drained with nothing | fewer
        · exact nothing
        · exact (Nat.lt_irrefl _ fewer).elim
      · have moves := still.moves stage
        rw [← tracks.client]
        by_contra notIncomplete
        exact moves (by simpa using notIncomplete) stage

end BrokerSession.Session
