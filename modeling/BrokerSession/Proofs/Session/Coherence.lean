import BrokerSession.Proofs.Session.Receiving
import BrokerSession.Proofs.Session.Sending

namespace BrokerSession

/-!
# Sessions between operations

Between two operations a session rests at a stage that fits the point of its
exchange, or it is complete, or it has failed.  Every operation keeps it so,
and therefore every run.
-/

namespace Task

/-- The stage in which a task is sent. -/
def sending : Task → Stage
  | .versions => .sendApiVersionsRequest
  | .handshake => .sendHandshakeRequest
  | .token _ => .initial

/-- The stage in which the answer to a task is awaited. -/
def receiving : Task → Stage
  | .versions => .receiveApiVersionsResponse
  | .handshake => .receiveHandshakeResponse
  | .token _ => .intermediate

/-- How far the mechanism is once a task is sent. -/
def Suits (client : SaslClient) : Task → Prop
  | .token _ => client.HasBegun
  | _ => client.IsFresh

end Task

namespace Session

open Journal SessionM

/-- The stage, with the pending one, that an unfinished session has at a point. -/
inductive Rests (stage : Stage) (pending : Option Stage) (point : Point) :
    Prop where
  | asking
      (isStage : stage = .sendApiVersionsRequest)
      (isPending : pending = none)
      (fresh : point.client.IsFresh)
      (ready : point.activity = .ready .versions)
  | starting
      (isStage : stage = .initial)
      (isPending : pending = none)
      (fresh : point.client.IsFresh)
      (challenged : point.activity = .challenged [])
      (unasked : point.nextId = -1)
      (unsettled : point.terms = {})
  | writing (task : Task) (header : Option RequestHeader)
      (isStage : stage = task.sending)
      (isPending : pending = some task.receiving)
      (suits : task.Suits point.client)
      (writing : point.activity = .writing task header)
  | awaiting (task : Task) (header : Option RequestHeader)
      (isStage : stage = task.receiving)
      (isPending : pending = none)
      (suits : task.Suits point.client)
      (awaiting : point.activity = .awaiting task header)
  | writingNext (token : Bytes) (header : Option RequestHeader)
      (isStage : stage = .intermediate)
      (isPending : pending = none)
      (begun : point.client.HasBegun)
      (incomplete : Mechanism.isComplete point.client = false)
      (writing : point.activity = .writing (.token token) header)
  | awaitingFinal (token : Bytes) (header : RequestHeader)
      (isStage : stage = .clientComplete)
      (isPending : pending = none)
      (complete : Mechanism.isComplete point.client = true)
      (awaiting : point.activity = .awaiting (.token token) (some header))

/-- Unless a frame is being written, no move is pending. -/
theorem Rests.pending_eq_none {point : Point} {stage : Stage} {pending : Option Stage}
    (rests : Rests stage pending point)
    (notWriting : point.activity.isWriting = false) : pending = none := by
  cases rests with
  | asking _ isPending | starting _ isPending
  | awaiting _ _ _ isPending | awaitingFinal _ _ _ isPending
  | writingNext _ _ _ isPending =>
      exact isPending
  | writing _ _ _ _ _ current =>
      rw [current] at notWriting
      cases notWriting

/--
An activity that is the last one of a complete session.

The mechanism was satisfied by its last challenge, or was complete before it,
or a raw token was sent that needs no answer.
-/
inductive IsFinal : Activity → Prop where
  | silent : IsFinal .silent
  | challenged (challenge : Bytes) : IsFinal (.challenged challenge)
  | awaiting (token : Bytes) : IsFinal (.awaiting (.token token) none)

/-- An exchange that is over writes nothing. -/
theorem IsFinal.isWriting_eq {activity : Activity} (final : IsFinal activity) :
    activity.isWriting = false := by
  cases final <;> rfl

/-- An exchange that is over waits for no response. -/
theorem IsFinal.header_eq {activity : Activity} (final : IsFinal activity) :
    activity.header? = none := by
  cases final <;> rfl

/-- What was read of a frame that a complete session did not wait for. -/
structure Abandons (config : Config) (incoming : Option Incoming)
    (activity : Activity) (held : Bytes) : Prop where
  nothing : activity.isAwaiting = false → held = [] ∧ incoming = none
  undecided : FrameCodec.decode ⟨config.maxReceiveSize⟩ held = .ok none

/-- A complete session. -/
structure Finished (origin : Origin) (session : Session SaslClient) :
    Prop where
  stage : session.stage = .complete
  pending : session.pending = none
  outgoing : session.outgoing = none
  outstanding : session.outstanding = none
  interest : session.transport.writeInterest = false
  complete : Mechanism.isComplete session.client = true
  /-- Only a raw answer that is not owed may have been read in part. -/
  ending :
    ∃ point held,
      Script origin.exchange point session.journal ∧
        session.terms = point.terms ∧
        Mechanism.isComplete point.client = true ∧
        IsFinal point.activity ∧
        Conserves origin session.transport.outbound session.transport.inbound
          session.journal [] held ∧
        Abandons origin.exchange.config session.incoming point.activity held

/-- A finished session has followed a script to its end. -/
theorem Finished.script {origin : Origin} {session : Session SaslClient}
    (finished : Finished origin session) :
    ∃ point,
      Script origin.exchange point session.journal ∧
        session.terms = point.terms ∧
        Mechanism.isComplete point.client = true ∧ IsFinal point.activity := by
  obtain ⟨point, -, script, terms, complete, final, -, -⟩ := finished.ending
  exact ⟨point, script, terms, complete, final⟩

/-- A finished session leaves no part of a frame unsent. -/
theorem Finished.conserves {origin : Origin} {session : Session SaslClient}
    (finished : Finished origin session) :
    ∃ held,
      Conserves origin session.transport.outbound session.transport.inbound
        session.journal [] held := by
  obtain ⟨-, held, -, -, -, -, conserves, -⟩ := finished.ending
  exact ⟨held, conserves⟩

/-- A session that has failed or was closed before its end. -/
structure Failed (origin : Origin) (session : Session SaslClient) :
    Prop where
  stage : session.stage = .failed
  pending : session.pending = none
  outgoing : session.outgoing = none
  outstanding : session.outstanding = none
  interest : session.transport.writeInterest = false
  leaves : Leaves origin session

/-- A session that waits for a further call, or is complete. -/
def Advances (origin : Origin) (session : Session SaslClient) : Prop :=
  (∃ point,
      Tracks origin session point ∧ Attends session ∧
        Rests session.stage session.pending point) ∨
    Finished origin session

/-- What holds of a session between two operations. -/
inductive Sound (origin : Origin) (session : Session SaslClient) : Prop where
  | advances (advances : Advances origin session)
  | failed (failed : Failed origin session)

variable {origin : Origin} {session : Session SaslClient} {point : Point}

/-! ## Handlers -/

/-- Once the frame of a task is sent, its answer is awaited next. -/
theorem Posted.advances {client : SaslClient} {task : Task}
    (posted : Posted origin session client task task.sending)
    (suits : task.Suits client) :
    Advances origin (session.setStage task.receiving) := by
  obtain ⟨point, header, rfl, activity, tracks, attends, stage, pending⟩ :=
    posted
  refine Or.inl ⟨point, tracks.setStage _, attends.setStage _, ?_⟩
  rcases activity with writing | awaiting
  · have busy : session.outgoing.isSome = true := by
      rw [tracks.outgoing, writing]
      rfl
    obtain ⟨sameStage, nowPending⟩ :=
      stage_setStage_of_writing busy task.receiving
    exact .writing task header (sameStage.trans stage) nowPending suits writing
  · have idle : session.outgoing = none :=
      tracks.outgoing_eq_none (by rw [awaiting]; rfl)
    obtain ⟨nextStage, noPending⟩ := stage_setStage idle task.receiving
    exact .awaiting task header nextStage noPending suits awaiting

/-- A frame that is being read is abandoned before its end. -/
theorem Tracks.abandons (tracks : Tracks origin session point) :
    Abandons origin.exchange.config session.incoming point.activity
      session.held where
  nothing := fun notAwaiting =>
    ⟨tracks.held_eq_nil notAwaiting, tracks.incoming_eq_none notAwaiting⟩
  undecided := by
    cases reading : session.incoming with
    | none =>
        rw [held, reading]
        rfl
    | some incoming =>
        have isPartial := (tracks.reading incoming reading).1
        rw [held, reading, Option.elim_some, isPartial.consumed_eq]
        exact isPartial.undecided

/-- A session whose mechanism and server are satisfied is complete. -/
theorem Tracks.finish (tracks : Tracks origin session point)
    (complete : Mechanism.isComplete point.client = true)
    (final : IsFinal point.activity) :
    Advances origin (session.setStage .complete) := by
  have idle := tracks.outgoing_eq_none final.isWriting_eq
  have moved := tracks.setStage .complete
  have stillIdle := moved.outgoing_eq_none final.isWriting_eq
  obtain ⟨stage, pending⟩ := stage_setStage idle .complete
  have conserves := moved.conserves
  rw [moved.unsent_eq_nil final.isWriting_eq] at conserves
  refine Or.inr
    { stage := stage
      pending := pending
      outgoing := stillIdle
      outstanding := moved.outstanding.trans final.header_eq
      interest := writeInterest_setStage_complete idle
      complete := ?_
      ending := ⟨point, _, moved.script, moved.terms, complete, final,
        conserves, moved.abandons⟩ }
  rw [moved.client]
  exact complete

/--
A session that asks for the versions goes on, or fails for a cause of the
exchange.
-/
theorem ensures_requestApiVersions (tracks : Tracks origin session point)
    (stage : session.stage = .sendApiVersionsRequest)
    (pending : session.pending = none) (fresh : point.client.IsFresh)
    (ready : point.activity = .ready .versions) :
    requestApiVersions.Ensures session
      (fun _ later => Advances origin later)
      (Throws origin) := by
  rw [requestApiVersions]
  apply (ensures_sendRequest tracks ready rfl pending).bind
  intro _ between posted
  rw [stage] at posted
  rw [ensures_modify]
  exact posted.advances fresh

/-- A session that proposes its mechanism goes on or fails likewise. -/
theorem ensures_requestHandshake (tracks : Tracks origin session point)
    (stage : session.stage = .sendHandshakeRequest)
    (pending : session.pending = none) (fresh : point.client.IsFresh)
    (ready : point.activity = .ready .handshake) :
    requestHandshake.Ensures session
      (fun _ later => Advances origin later)
      (Throws origin) := by
  have asked :
      Task.handshake.request? origin.exchange.config point.terms =
        some
          { body := .saslHandshake session.config.mechanism
            version := session.handshakeVersion } := by
    rw [Task.request?, ← tracks.config, ← tracks.terms]
    rfl
  rw [requestHandshake, ensures_bind, ensures_get]
  apply (ensures_sendRequest tracks ready asked pending).bind
  intro _ between posted
  rw [stage] at posted
  rw [ensures_modify]
  exact posted.advances fresh

/-- The answer to an opening request is awaited under its header. -/
theorem Tracks.exists_header {task : Task} {header : Option RequestHeader}
    (tracks : Tracks origin session point)
    (awaiting : point.activity = .awaiting task header)
    (wrapped : task.isWrapped point.terms = true) :
    ∃ request, header = some request := by
  have fits := tracks.script.headerFits
  rw [awaiting] at fits
  exact Option.isSome_iff_exists.mp (fits.1.trans wrapped)

/-- A session that accepts the versions is ready for its proposal. -/
theorem ensures_acceptApiVersions {header : Option RequestHeader}
    (tracks : Tracks origin session point)
    (awaiting : point.activity = .awaiting .versions header) :
    acceptApiVersions.Ensures session
      (fun accepted later =>
        if accepted then
          ∃ next,
            Tracks origin later next ∧ next.client = point.client ∧
              next.activity = .ready .handshake ∧
              later.stage = .sendHandshakeRequest ∧ later.pending = none
        else Stays session later ∧ Tracks origin later point)
      (Throws origin) := by
  obtain ⟨request, rfl⟩ := tracks.exists_header awaiting rfl
  rw [acceptApiVersions]
  apply (ensures_receiveAs tracks awaiting Response.exists_toApiVersions).bind
  rintro received between ⟨stays, moved⟩
  cases received with
  | none =>
      rw [ensures_pure, if_neg Bool.false_ne_true]
      exact ⟨stays, moved⟩
  | some content =>
      obtain ⟨response, converted, answered⟩ := moved
      obtain rfl := Response.eq_of_toApiVersions converted
      dsimp only
      split
      · next succeeded =>
          simp only [ensures_bind, ensures_modify, ensures_pure, if_true]
          have agreed :
              Tracks origin
                { between with
                  handshakeVersion :=
                    (Terms.ofResponse content).handshakeVersion
                  authenticateVersion :=
                    (Terms.ofResponse content).authenticateVersion }
                { point with
                  terms := .ofResponse content
                  activity := .ready .handshake } :=
            { answered with
              script := answered.script.moveSilently (.settled rfl succeeded)
              terms := rfl
              reading := answered.reads rfl _ }
          obtain ⟨stage, pending⟩ :=
            stage_setStage (agreed.outgoing_eq_none rfl) .sendHandshakeRequest
          exact ⟨_, agreed.setStage .sendHandshakeRequest, rfl, rfl, stage,
            pending⟩
      · next failed =>
          exact answered.throws rfl rfl
            (.rejected rfl (Response.rejection_apiVersions failed))

/-- A session whose mechanism is taken begins with an empty challenge. -/
theorem ensures_acceptHandshake {header : Option RequestHeader}
    (tracks : Tracks origin session point)
    (awaiting : point.activity = .awaiting .handshake header) :
    acceptHandshake.Ensures session
      (fun accepted later =>
        if accepted then
          Tracks origin later { point with activity := .challenged [] } ∧
            later.stage = .initial ∧ later.pending = none
        else Stays session later ∧ Tracks origin later point)
      (Throws origin) := by
  obtain ⟨request, rfl⟩ := tracks.exists_header awaiting rfl
  rw [acceptHandshake]
  apply (ensures_receiveAs tracks awaiting
    Response.exists_toSaslHandshake).bind
  rintro received between ⟨stays, moved⟩
  cases received with
  | none =>
      rw [ensures_pure, if_neg Bool.false_ne_true]
      exact ⟨stays, moved⟩
  | some content =>
      obtain ⟨response, converted, answered⟩ := moved
      obtain rfl := Response.eq_of_toSaslHandshake converted
      simp only [ensures_bind, ensures_get]
      split
      · next cause failed =>
          rw [answered.config] at failed
          refine answered.throws rfl rfl (.rejected rfl ?_)
          rw [Response.rejection_saslHandshake, failed]
      · next checked =>
          have succeeded := SaslHandshakeResponse.error_eq_none checked
          have admitted :
              Tracks origin between { point with activity := .challenged [] } :=
            { answered with
              script := answered.script.moveSilently (.admitted rfl succeeded)
              reading := answered.reads rfl _ }
          simp only [ensures_bind, ensures_modify, ensures_pure, if_true]
          exact ⟨admitted.setStage .initial,
            stage_setStage (admitted.outgoing_eq_none rfl) .initial⟩

/-- A fresh mechanism always has a first token to send. -/
theorem ensures_sendInitialToken (tracks : Tracks origin session point)
    (stage : session.stage = .initial) (pending : session.pending = none)
    (fresh : point.client.IsFresh)
    (challenged : point.activity = .challenged []) :
    sendInitialToken.Ensures session
      (fun _ later => Advances origin later)
      (Throws origin) := by
  rw [sendInitialToken, ensures_bind, ensures_discard]
  refine (ensures_sendToken true tracks challenged pending).weaken ?_
    fun _ _ throws => throws
  intro sent between ensured
  obtain ⟨token, next, evaluated, begun⟩ := SaslClient.evaluate_of_isFresh fresh
  cases sent with
  | true =>
      obtain ⟨other, after, -, sameEvaluated, posted⟩ := ensured
      rw [evaluated] at sameEvaluated
      cases sameEvaluated
      rw [stage] at posted
      rw [ensures_modify]
      exact posted.advances begun
  | false =>
      obtain ⟨-, ⟨complete, -⟩ | ⟨after, -, sameEvaluated, -⟩⟩ := ensured
      · rw [SaslClient.not_isComplete_of_isFresh fresh] at complete
        cases complete
      · rw [evaluated] at sameEvaluated
        cases sameEvaluated

/-- A token that was sent in answer to another one does not move the stage. -/
theorem Posted.advances_next {client : SaslClient} {token : Bytes}
    (posted : Posted origin session client (.token token) .intermediate)
    (begun : client.HasBegun)
    (incomplete : Mechanism.isComplete client = false) :
    Advances origin session := by
  obtain ⟨point, header, rfl, activity, tracks, attends, stage, pending⟩ :=
    posted
  refine Or.inl ⟨point, tracks, attends, ?_⟩
  rcases activity with writing | awaiting
  · exact .writingNext token header stage pending begun incomplete writing
  · exact .awaiting (.token token) header stage pending begun awaiting

/-- The last part of an exchange of tokens: going on once complete. -/
theorem ensures_afterExchange (noResponsesPending : Bool)
    (goesOn :
      Mechanism.isComplete session.client = false → Advances origin session)
    (completes :
      Mechanism.isComplete session.client = true →
        Advances origin
          (session.setStage
            (.afterClientComplete session.authenticateVersion.isSome
              noResponsesPending))) :
    SessionM.Ensures
      (do
        if Mechanism.isComplete (← get).client then
          modify fun session => session.setStage
            (.afterClientComplete session.authenticateVersion.isSome
              noResponsesPending))
      session
      (fun _ later => Advances origin later)
      (Throws origin) := by
  rw [ensures_bind, ensures_get]
  by_cases complete : Mechanism.isComplete session.client = true
  · rw [if_pos complete, ensures_modify]
    exact completes complete
  · rw [if_neg complete, ensures_pure]
    exact goesOn (by simpa using complete)

/-- A mechanism that is complete while an answer to its token is awaited. -/
theorem advances_of_complete {token : Bytes} {header : Option RequestHeader}
    (tracks : Tracks origin session point)
    (awaiting : point.activity = .awaiting (.token token) header)
    (complete : Mechanism.isComplete point.client = true) :
    Advances origin
      (session.setStage
        (.afterClientComplete session.authenticateVersion.isSome false)) := by
  have fits := tracks.script.headerFits
  rw [awaiting] at fits
  have wrapped : header.isSome = session.authenticateVersion.isSome := by
    rw [fits.1, Task.isWrapped, ← tracks.terms]
    rfl
  rw [← wrapped]
  cases header with
  | none =>
      exact tracks.finish complete (by rw [awaiting]; exact .awaiting token)
  | some request =>
      have idle : session.outgoing = none :=
        tracks.outgoing_eq_none (by rw [awaiting]; rfl)
      obtain ⟨stage, pending⟩ := stage_setStage idle .clientComplete
      exact Or.inl ⟨point, tracks.setStage .clientComplete,
        (attends_of_idle idle).setStage .clientComplete,
        .awaitingFinal token request stage pending complete awaiting⟩

/-- A session that exchanges tokens goes on or fails likewise. -/
theorem ensures_exchangeTokens {token : Bytes} {header : Option RequestHeader}
    (tracks : Tracks origin session point)
    (stage : session.stage = .intermediate) (pending : session.pending = none)
    (begun : point.client.HasBegun)
    (awaiting : point.activity = .awaiting (.token token) header) :
    exchangeTokens.Ensures session
      (fun _ later => Advances origin later)
      (Throws origin) := by
  rw [exchangeTokens]
  apply (ensures_receiveToken tracks awaiting).bind
  rintro received between ⟨⟨sameStage, samePending⟩, moved⟩
  cases received with
  | none =>
      simp only [pure_bind]
      apply ensures_afterExchange false
      · intro _
        exact Or.inl ⟨point, moved, moved.attends (by rw [awaiting]; rfl),
          .awaiting (.token token) header (sameStage.trans stage)
            (samePending.trans pending) begun awaiting⟩
      · intro complete
        rw [moved.client] at complete
        exact advances_of_complete moved awaiting complete
  | some challenge =>
      have settled : between.pending = none := samePending.trans pending
      simp only [ensures_bind, ensures_map]
      refine (ensures_sendToken false moved rfl settled).weaken ?_
        fun _ _ throws => throws
      intro sent later ensured
      cases sent with
      | true =>
          obtain ⟨reply, next, incomplete, evaluated, posted⟩ := ensured
          obtain ⟨nextBegun, nextIncomplete⟩ :=
            SaslClient.hasBegun_of_evaluate begun incomplete evaluated
          rw [sameStage, stage] at posted
          have advances := posted.advances_next nextBegun nextIncomplete
          obtain ⟨after, _, sameClient, -, tracksAfter, -, -, -⟩ := posted
          refine ensures_afterExchange (!true) (fun _ => advances) ?_
          intro complete
          rw [tracksAfter.client, sameClient, nextIncomplete] at complete
          cases complete
      | false =>
          obtain ⟨-, satisfied⟩ := ensured
          have completes :
              Advances origin (later.setStage .complete) ∧
                Mechanism.isComplete later.client = true := by
            rcases satisfied with
              ⟨complete, answered⟩ | ⟨next, incomplete, evaluated, answered⟩
            · exact ⟨answered.finish complete (.challenged challenge),
                answered.client ▸ complete⟩
            · have complete :=
                (SaslClient.hasBegun_of_evaluate begun incomplete evaluated).2
              exact ⟨answered.finish complete .silent,
                answered.client ▸ complete⟩
          apply ensures_afterExchange (!false)
          · intro incomplete
            rw [completes.2] at incomplete
            cases incomplete
          · intro _
            have stageIs :
                Stage.afterClientComplete later.authenticateVersion.isSome
                  (!false) = .complete := by
              simp [Stage.afterClientComplete]
            rw [stageIs]
            exact completes.1

/-- A session that awaits the last response goes on or fails likewise. -/
theorem ensures_receiveFinalResponse {token : Bytes} {header : RequestHeader}
    (tracks : Tracks origin session point)
    (stage : session.stage = .clientComplete)
    (pending : session.pending = none)
    (complete : Mechanism.isComplete point.client = true)
    (awaiting : point.activity = .awaiting (.token token) (some header)) :
    receiveFinalResponse.Ensures session
      (fun _ later => Advances origin later)
      (Throws origin) := by
  rw [receiveFinalResponse]
  apply (ensures_receiveToken tracks awaiting).bind
  rintro received between ⟨⟨sameStage, samePending⟩, moved⟩
  cases received with
  | none =>
      rw [if_neg (by simp), ensures_pure]
      exact Or.inl ⟨point, moved, moved.attends (by rw [awaiting]; rfl),
        .awaitingFinal token header (sameStage.trans stage)
          (samePending.trans pending) complete awaiting⟩
  | some challenge =>
      rw [if_pos Option.isSome_some, ensures_modify]
      exact moved.finish complete (.challenged challenge)

/-- The handler of a resting session that is not writing. -/
theorem ensures_handle (tracks : Tracks origin session point)
    (rests : Rests session.stage session.pending point)
    (idle : session.outgoing = none) :
    (handle session.stage).Ensures session
      (fun _ later => Advances origin later)
      (Throws origin) := by
  have notWriting : point.activity.isWriting = false := by
    rw [← tracks.outgoing, idle]
    rfl
  cases rests with
  | asking stage pending fresh ready =>
      rw [stage]
      exact ensures_requestApiVersions tracks stage pending fresh ready
  | starting stage pending fresh challenged =>
      rw [stage]
      exact ensures_sendInitialToken tracks stage pending fresh challenged
  | writing task header stage pending suits writing =>
      rw [writing] at notWriting
      cases notWriting
  | writingNext token header stage pending begun incomplete writing =>
      rw [writing] at notWriting
      cases notWriting
  | awaitingFinal token header stage pending complete awaiting =>
      rw [stage]
      exact ensures_receiveFinalResponse tracks stage pending complete awaiting
  | awaiting task header stage pending suits awaiting =>
      rw [stage]
      cases task with
      | versions =>
          apply (ensures_acceptApiVersions tracks awaiting).bind
          intro accepted between ensured
          cases accepted with
          | true =>
              obtain ⟨next, moved, sameClient, ready, nextStage, noPending⟩ :=
                ensured
              have stillFresh : next.client.IsFresh := sameClient ▸ suits
              exact ensures_requestHandshake moved nextStage noPending
                stillFresh ready
          | false =>
              obtain ⟨⟨sameStage, samePending⟩, moved⟩ := ensured
              exact Or.inl ⟨point, moved, moved.attends (by rw [awaiting]; rfl),
                .awaiting .versions header (sameStage.trans stage)
                  (samePending.trans pending) suits awaiting⟩
      | handshake =>
          apply (ensures_acceptHandshake tracks awaiting).bind
          intro accepted between ensured
          cases accepted with
          | true =>
              obtain ⟨moved, nextStage, noPending⟩ := ensured
              exact ensures_sendInitialToken moved nextStage noPending suits rfl
          | false =>
              obtain ⟨⟨sameStage, samePending⟩, moved⟩ := ensured
              exact Or.inl ⟨point, moved, moved.attends (by rw [awaiting]; rfl),
                .awaiting .handshake header (sameStage.trans stage)
                  (samePending.trans pending) suits awaiting⟩
      | token content =>
          exact ensures_exchangeTokens tracks stage pending suits awaiting

end Session

end BrokerSession
