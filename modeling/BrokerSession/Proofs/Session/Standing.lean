import BrokerSession.Proofs.Channel.Steps
import BrokerSession.Proofs.Session.Deeds

namespace BrokerSession.Session

/-!
# How a session stands

Between two operations a session goes on, is complete or has failed.  Its
attempt was counted when it began, its success when it became complete, and its
failure when a call of its own gave it up; being closed is neither.
-/

open SessionM

variable {Client : Type} {session later : Session Client}

/-! ## Inside a handler -/

/-- A session that is not over, with no pending move that ends it. -/
structure IsOpen (session : Session Client) : Prop where
  stage : session.stage.isTerminal = false
  pending :
    ∀ next ∈ session.pending,
      session.outgoing.isSome = true ∧ next.isTerminal = false

/-- The attempt of a session as its ledger counts it. -/
structure Counts (session : Session Client) (succeeded failed : UInt64) :
    Prop where
  started : session.ledger.started = if session.started then 1 else 0
  succeeded : session.ledger.succeeded = succeeded
  failed : session.ledger.failed = failed

/-- A session in the middle of its attempt, which has not ended. -/
structure Attempts (session : Session Client) : Prop where
  isOpen : session.IsOpen
  begun : session.started = true
  counts : session.Counts 0 0

/-- A move to a stage that goes on does not end the attempt. -/
theorem Attempts.setStage (attempts : session.Attempts) {stage : Stage}
    (goesOn : stage.isTerminal = false) :
    (session.setStage stage).Attempts := by
  obtain ⟨isOpen, begun, counts⟩ := attempts
  have notComplete : stage ≠ .complete := by
    rintro rfl
    cases goesOn
  rw [Session.setStage]
  split
  · next busy =>
      refine ⟨⟨isOpen.stage, ?_⟩, begun, { counts with }⟩
      rintro _ ⟨⟩
      exact ⟨busy, goesOn⟩
  · exact ⟨⟨goesOn, nofun⟩, begun, { counts with }⟩

/-- A frame that is flushed does not end the attempt. -/
theorem Attempts.settle (attempts : session.Attempts) :
    session.settle.Attempts := by
  obtain ⟨isOpen, begun, counts⟩ := attempts
  have settled :
      Attempts
        { (session.note .flushed).setWriteInterest false with
          outgoing := none, pending := none } :=
    ⟨⟨isOpen.stage, nofun⟩, begun, { counts with }⟩
  rw [Session.settle]
  cases pending : session.pending with
  | none =>
      exact settled
  | some next =>
      exact settled.setStage (isOpen.pending next pending).2

/-- No deed ends an attempt. -/
theorem Deed.attempts (deed : session.Deed later)
    (attempts : session.Attempts) : later.Attempts := by
  obtain ⟨isOpen, begun, counts⟩ := attempts
  cases deed with
  | waits | drew | evaluated | read | taken | dropped | decoded | agreed =>
      exact ⟨{ isOpen with }, begun, { counts with }⟩
  | wrote =>
      refine ⟨⟨isOpen.stage, ?_⟩, begun, { counts with }⟩
      exact fun next isPending => ⟨rfl, (isOpen.pending next isPending).2⟩
  | framed header =>
      refine ⟨⟨isOpen.stage, ?_⟩, begun, ?_⟩
      · exact fun next isPending => ⟨rfl, (isOpen.pending next isPending).2⟩
      · cases header with
        | none | some =>
            exact { counts with }
  | settled =>
      exact Attempts.settle ⟨isOpen, begun, counts⟩
  | moved goesOn =>
      exact Attempts.setStage ⟨isOpen, begun, counts⟩ goesOn

/-- A row of deeds does not end the attempt. -/
theorem Deeds.attempts (deeds : session.Deeds later)
    (attempts : session.Attempts) : later.Attempts := by
  induction deeds with
  | refl =>
      exact attempts
  | tail _ deed inductionHypothesis =>
      exact deed.attempts inductionHypothesis

/-- A handler that fails has not ended the attempt before. -/
theorem Breaks.attempts {mayRead : Bool} {cause : SessionError}
    (breaks : session.Breaks mayRead cause later)
    (attempts : session.Attempts) :
    later.started = true ∧ later.Counts 0 0 := by
  cases breaks with
  | refused deeds =>
      have ends := Deeds.attempts deeds attempts
      exact ⟨ends.begun, ends.counts⟩
  | writing deeds =>
      have ends := Deeds.attempts deeds attempts
      exact ⟨ends.begun, { ends.counts with }⟩
  | reading =>
      exact ⟨attempts.begun, { attempts.counts with }⟩

/-- A handler does not fail because the session is over. -/
theorem Breaks.not_isTermination {mayRead : Bool} {cause : SessionError}
    (breaks : session.Breaks mayRead cause later) : ¬ cause.IsTermination := by
  cases breaks with
  | refused _ notOver =>
      exact notOver
  | writing =>
      exact SessionError.not_isTermination_ofIo _ _
  | reading =>
      split
      · exact id
      · exact SessionError.not_isTermination_ofIo _ _

/-! ## Between two operations -/

/--
Where a session has got to, and what it counted on the way.

Whether it has reported a failure of its own is what tells a session that was
given up from one that was closed.
-/
inductive HasStanding (reported : Prop) (session : Session Client) : Prop where
  | going (stage : session.stage.isTerminal = false)
      (pending :
        ∀ next ∈ session.pending,
          session.outgoing.isSome = true ∧ next ≠ .failed)
      (counts : session.Counts 0 0) (silent : ¬ reported)
  | complete (stage : session.stage = .complete)
      (idle : session.outgoing = none)
      (interest : session.transport.writeInterest = false)
      (begun : session.started = true) (counts : session.Counts 1 0)
      (silent : ¬ reported)
  | failed (stage : session.stage = .failed)
      (interest : session.transport.writeInterest = false)
      (counts :
        session.Counts 0 1 ∧ session.started = true ∧ reported ∨
          session.Counts 0 0 ∧ ¬ reported)

/-- In an attempt nothing has been reported yet. -/
theorem Attempts.standing (attempts : session.Attempts) :
    session.HasStanding False := by
  obtain ⟨isOpen, -, counts⟩ := attempts
  refine .going isOpen.stage (fun next isPending => ?_) counts id
  obtain ⟨busy, goesOn⟩ := isOpen.pending next isPending
  refine ⟨busy, ?_⟩
  rintro rfl
  cases goesOn

/-- An attempt succeeds when its session becomes complete. -/
theorem Attempts.hasStanding_complete (attempts : session.Attempts) :
    (session.setStage .complete).HasStanding False := by
  obtain ⟨isOpen, begun, counts⟩ := attempts
  rw [Session.setStage]
  split
  · next busy =>
      refine .going isOpen.stage ?_ { counts with } id
      rintro _ ⟨⟩
      exact ⟨busy, nofun⟩
  · next notBusy =>
      have idle : session.outgoing = none := by simpa using notBusy
      refine .complete rfl idle rfl begun ?_ id
      refine ⟨counts.started, ?_, counts.failed⟩
      exact congrArg (· + 1) counts.succeeded

/-- After a handler returned, no failure has been reported. -/
theorem Finishes.standing (finishes : session.Finishes later)
    (attempts : session.Attempts) : later.HasStanding False := by
  cases finishes with
  | goesOn deeds =>
      exact (Deeds.attempts deeds attempts).standing
  | completes deeds =>
      exact (Deeds.attempts deeds attempts).hasStanding_complete

/-! ## Calls -/

/-- A session in its attempt, which the frame being written may complete. -/
structure Underway (session : Session Client) : Prop where
  stage : session.stage.isTerminal = false
  pending :
    ∀ next ∈ session.pending,
      session.outgoing.isSome = true ∧ next ≠ .failed
  begun : session.started = true
  counts : session.Counts 0 0

/-- The first call begins the attempt. -/
theorem underway_begin {reported : Prop}
    (stage : session.stage.isTerminal = false)
    (standing : session.HasStanding reported) : session.begin.Underway := by
  cases standing with
  | going _ pending counts =>
      rw [begin]
      split
      · next begun =>
          exact ⟨stage, pending, begun, counts⟩
      · next notBegun =>
          have nothing := counts.started
          rw [if_neg notBegun] at nothing
          exact ⟨stage, pending, rfl,
            ⟨congrArg (· + 1) nothing, counts.succeeded, counts.failed⟩⟩
  | complete other | failed other =>
      rw [other] at stage
      cases stage

/-- A session underway without a pending move is in its attempt. -/
theorem Underway.attempts (underway : session.Underway)
    (settled : session.pending = none) : session.Attempts where
  isOpen := ⟨underway.stage, by rw [settled]; exact nofun⟩
  begun := underway.begun
  counts := underway.counts

/-- The pending move is made, and may be to complete. -/
theorem Underway.settle (underway : session.Underway) :
    session.settle.HasStanding False ∧
      (session.settle.stage.isTerminal = false → session.settle.Attempts) := by
  obtain ⟨stage, pending, begun, counts⟩ := underway
  have settled :
      Attempts
        { (session.note .flushed).setWriteInterest false with
          outgoing := none, pending := none } :=
    ⟨⟨stage, nofun⟩, begun, { counts with }⟩
  rw [Session.settle]
  cases isPending : session.pending with
  | none =>
      exact ⟨settled.standing, fun _ => settled⟩
  | some next =>
      have notFailed := (pending next isPending).2
      cases next with
      | failed =>
          exact (notFailed rfl).elim
      | complete =>
          exact ⟨settled.hasStanding_complete, nofun⟩
      | sendApiVersionsRequest | receiveApiVersionsResponse
      | sendHandshakeRequest | receiveHandshakeResponse | initial
      | intermediate | clientComplete =>
          exact ⟨(settled.setStage rfl).standing, fun _ => settled.setStage rfl⟩

/-- After the rest of a frame was written, no failure has been reported. -/
theorem Resumes.standing (resumes : session.Resumes later)
    (underway : session.Underway) :
    later.HasStanding False ∧
      (later.stage.isTerminal = false → later.Attempts) := by
  cases resumes with
  | idle idle =>
      have settled : session.pending = none := by
        cases isPending : session.pending with
        | none =>
            rfl
        | some next =>
            have busy := (underway.pending next isPending).1
            rw [idle] at busy
            cases busy
      have attempts := underway.attempts settled
      exact ⟨attempts.standing, fun _ => attempts⟩
  | flushed =>
      refine Underway.settle ⟨underway.stage, ?_, underway.begun,
        { underway.counts with }⟩
      exact fun next isPending => ⟨rfl, (underway.pending next isPending).2⟩

/-- After a call that succeeds, no failure has been reported. -/
theorem Leads.standing (leads : session.Leads later)
    (underway : session.Underway) : later.HasStanding False := by
  cases leads with
  | waits =>
      refine .going underway.stage ?_ { underway.counts with } id
      exact fun next isPending => ⟨rfl, (underway.pending next isPending).2⟩
  | ended resumes =>
      exact (resumes.standing underway).1
  | handled resumes goesOn finishes =>
      exact finishes.standing ((resumes.standing underway).2 goesOn)

/-- A call does not fail because the session is over. -/
theorem Fails.not_isTermination {cause : SessionError}
    (fails : session.Fails cause later) : ¬ cause.IsTermination := by
  cases fails with
  | unsent =>
      exact SessionError.not_isTermination_ofIo _ _
  | handled _ _ breaks =>
      exact breaks.not_isTermination

/-- A session that is given up counts a failure. -/
theorem Fails.standing {cause : SessionError}
    (fails : session.Fails cause later) (underway : session.Underway) :
    later.fail.HasStanding True := by
  have ends : later.started = true ∧ later.Counts 0 0 := by
    cases fails with
    | unsent =>
        exact ⟨underway.begun, { underway.counts with }⟩
    | handled resumes goesOn breaks =>
        exact breaks.attempts ((resumes.standing underway).2 goesOn)
  obtain ⟨begun, counts⟩ := ends
  refine .failed rfl rfl (Or.inl ⟨⟨counts.started, counts.succeeded, ?_⟩,
    begun, trivial⟩)
  exact congrArg (· + 1) counts.failed

/-! ## Operations -/

section Operations

variable [Mechanism Client] {reported : Prop}

/-- A complete session has nothing to do. -/
theorem authenticate_of_complete (stage : session.stage = .complete)
    (idle : session.outgoing = none) (begun : session.started = true) :
    session.authenticate = (.ok (), session) := by
  have notFailed : session.stage ≠ .failed := by
    rw [stage]
    exact nofun
  have begins : session.begin = session := if_pos begun
  have rests : advance.run session = .ok () session := by
    simp [advance, handle, idle, stage]
  rw [authenticate, if_neg notFailed, begins, rests]

/-- Whether a call of the session's own has just given it up. -/
def GivesUp (session : Session Client) : Prop :=
  ∃ cause, session.authenticate.1 = .error cause ∧ ¬ cause.IsTermination

omit [Mechanism Client] in
/-- The standing depends on whether a failure was reported alone. -/
theorem HasStanding.congr {other : Prop}
    (standing : session.HasStanding reported) (same : reported ↔ other) :
    session.HasStanding other :=
  propext same ▸ standing

/-- A call reports a failure exactly if it gives the session up. -/
theorem HasStanding.authenticate (standing : session.HasStanding reported) :
    session.authenticate.2.HasStanding (reported ∨ session.GivesUp) := by
  have quietly (returned : session.authenticate.1 = .ok ()) :
      ¬ session.GivesUp := by
    rintro ⟨cause, threw, -⟩
    rw [returned] at threw
    cases threw
  -- Only a session that goes on can be given up by its call.
  cases terminal : session.stage.isTerminal with
  | true =>
      cases standing with
      | going stage =>
          rw [stage] at terminal
          cases terminal
      | complete stage idle interest begun counts silent =>
          have same := authenticate_of_complete stage idle begun
          have quiet := quietly (by rw [same])
          rw [same]
          exact .complete stage idle interest begun counts
            (not_or_intro silent quiet)
      | failed stage interest counts =>
          have same :
              session.authenticate =
                (.error (.handshakeTerminated session.node), session) :=
            if_pos stage
          have quiet : ¬ session.GivesUp := by
            rintro ⟨cause, threw, notOver⟩
            rw [same] at threw
            cases threw
            exact notOver trivial
          rw [same]
          exact HasStanding.congr (.failed stage interest counts)
            (or_iff_left quiet).symm
  | false =>
      have underway := underway_begin terminal standing
      have silent : ¬ reported := by
        cases standing with
        | going _ _ _ silent | complete _ _ _ _ _ silent =>
            exact silent
        | failed stage =>
            rw [stage] at terminal
            cases terminal
      cases session.call with
      | terminated failed =>
          rw [failed] at terminal
          cases terminal
      | returned _ same leads =>
          have quiet := quietly (by rw [same])
          rw [same]
          exact (leads.standing underway).congr
            (iff_of_false id (not_or_intro silent quiet))
      | threw _ same fails =>
          have gaveUp : session.GivesUp :=
            ⟨_, by rw [same], fails.not_isTermination⟩
          rw [same]
          exact (fails.standing underway).congr
            (iff_of_true trivial (Or.inr gaveUp))

/-- Closing a session that is over only releases what it holds. -/
theorem close_of_isTerminal (terminal : session.stage.isTerminal = true) :
    session.close =
      { session with
        client := Mechanism.dispose session.client
        incoming := none
        outgoing := none
        outstanding := none } :=
  if_pos terminal

/-- A session that is closed on its way has failed. -/
theorem close_of_not_isTerminal
    (goesOn : ¬ session.stage.isTerminal = true) :
    session.close =
      { session.setWriteInterest false with
        client := Mechanism.dispose session.client
        incoming := none
        outgoing := none
        outstanding := none
        stage := .failed
        pending := none } :=
  if_neg goesOn

/-- Closing counts neither outcome. -/
theorem HasStanding.close (standing : session.HasStanding reported) :
    session.close.HasStanding reported := by
  cases standing with
  | going stage _ counts silent =>
      rw [close_of_not_isTerminal (by simp [stage])]
      exact .failed rfl rfl (Or.inr ⟨{ counts with }, silent⟩)
  | complete stage _ interest begun counts silent =>
      rw [close_of_isTerminal (by rw [stage]; rfl)]
      exact .complete stage rfl interest begun { counts with } silent
  | failed stage interest counts =>
      rw [close_of_isTerminal (by rw [stage]; rfl)]
      refine .failed stage interest ?_
      exact counts.imp (And.imp_left fun counts => { counts with })
        (And.imp_left fun counts => { counts with })

omit [Mechanism Client] in
/-- A step of the transport does not change the standing. -/
theorem HasStanding.move (standing : session.HasStanding reported)
    (step : Transport.Step) :
    HasStanding reported
      { session with transport := (session.transport.perform step).2 } := by
  have sameInterest := session.transport.writeInterest_perform step
  cases standing with
  | going stage pending counts silent =>
      exact .going stage pending { counts with } silent
  | complete stage idle interest begun counts silent =>
      exact .complete stage idle (sameInterest.trans interest) begun
        { counts with } silent
  | failed stage interest counts =>
      refine .failed stage (sameInterest.trans interest) ?_
      exact counts.imp (And.imp_left fun counts => { counts with })
        (And.imp_left fun counts => { counts with })

/-- Whether a call gives the session up in a row of operations. -/
def Reports (session : Session Client) (operations : List Operation) : Prop :=
  ∃ earlier later,
    operations = earlier ++ .authenticate :: later ∧
      (session.run earlier).GivesUp

/-- Without operations no failure is reported. -/
theorem not_reports_nil : ¬ session.Reports [] := by
  rintro ⟨earlier, later, split, -⟩
  cases earlier <;> cases split

/-- It is the first operation that gives a session up, or a later one. -/
theorem reports_cons_iff {operation : Operation} {later : List Operation} :
    session.Reports (operation :: later) ↔
      operation = .authenticate ∧ session.GivesUp ∨
        (session.perform operation).2.Reports later := by
  constructor
  · rintro ⟨earlier, rest, split, givesUp⟩
    cases earlier with
    | nil =>
        cases split
        exact Or.inl ⟨rfl, givesUp⟩
    | cons first others =>
        cases split
        exact Or.inr ⟨others, rest, rfl, givesUp⟩
  · rintro (⟨rfl, givesUp⟩ | ⟨earlier, rest, rfl, givesUp⟩)
    · exact ⟨[], later, rfl, givesUp⟩
    · exact ⟨operation :: earlier, rest, rfl, givesUp⟩

/-- An operation reports a failure if it is a call that gives up. -/
theorem HasStanding.perform (standing : session.HasStanding reported)
    (operation : Operation) :
    (session.perform operation).2.HasStanding
      (reported ∨ operation = .authenticate ∧ session.GivesUp) := by
  cases operation with
  | authenticate =>
      exact standing.authenticate.congr (by simp)
  | close =>
      exact standing.close.congr (by simp)
  | transport step =>
      exact (standing.move step).congr (by simp)

/-- A run reports a failure exactly if one of its calls gives up. -/
theorem HasStanding.run (standing : session.HasStanding reported)
    (operations : List Operation) :
    (session.run operations).HasStanding
      (reported ∨ session.Reports operations) := by
  induction operations generalizing session reported with
  | nil =>
      exact standing.congr (or_iff_left not_reports_nil).symm
  | cons operation later inductionHypothesis =>
      have stood := inductionHypothesis (standing.perform operation)
      exact stood.congr (by rw [reports_cons_iff, or_assoc])

omit [Mechanism Client] in
/-- A fresh session has reported nothing. -/
theorem hasStanding_start (config : Config) (node host : String)
    (subject : Subject) (transport : Transport) (client : Client) :
    (start config node host subject transport client).HasStanding False := by
  refine .going ?_ nofun ⟨rfl, rfl, rfl⟩ id
  change (Stage.first config.handshakeRequestEnable).isTerminal = false
  cases config.handshakeRequestEnable <;> rfl

/-- Where a session stands after any run. -/
theorem hasStanding_run (config : Config) (node host : String)
    (subject : Subject) (transport : Transport) (client : Client)
    (operations : List Operation) :
    HasStanding
      ((start config node host subject transport client).Reports operations)
      ((start config node host subject transport client).run operations) :=
  ((hasStanding_start config node host subject transport client).run
    operations).congr (or_iff_right id)

end Operations

end BrokerSession.Session
