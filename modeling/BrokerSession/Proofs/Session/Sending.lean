import BrokerSession.Proofs.Session.Tracking

namespace BrokerSession.Session

/-!
# Sending on the script

Every step of a handler that writes has one lemma.  It says to which point of
the exchange the step leads, and why the step throws if it does.
-/

open Journal SessionM

variable {origin : Origin} {session : Session SaslClient} {point : Point}

/-- Part of a frame being written moves to the transport. -/
theorem Conserves.send {outbound inbound held : Bytes} {journal : List Event}
    {outgoing left : Outgoing} {part : Bytes}
    (conserves :
      Conserves origin outbound inbound journal outgoing.remaining held)
    (remaining : outgoing.remaining = part ++ left.remaining) :
    Conserves origin (outbound ++ part) inbound journal left.remaining held where
  sent := by
    rw [← conserves.sent, remaining]
    simp only [List.append_assoc]
  partly := by
    rcases conserves.partly with flushed |
      ⟨earlier, header, frame, shape, suffix⟩
    · rw [remaining] at flushed
      exact Or.inl (List.append_eq_nil_iff.mp flushed).2
    · rw [remaining] at suffix
      exact Or.inr ⟨earlier, header, frame, shape,
        (List.suffix_append part left.remaining).trans suffix⟩
  received := conserves.received
  takes := conserves.takes

/-- A session whose frame is flushed waits for an answer to it. -/
theorem Tracks.settle {task : Task} {header : Option RequestHeader}
    (tracks : Tracks origin session point)
    (writing : point.activity = .writing task header)
    (flushed : session.unsent = []) :
    Tracks origin session.settle
      { point with activity := .awaiting task header } := by
  have outstanding := tracks.outstanding
  rw [writing] at outstanding
  have conserves := tracks.conserves
  rw [flushed] at conserves
  have settled :
      Tracks origin
        { (session.note .flushed).setWriteInterest false with
          outgoing := none, pending := none }
        { point with activity := .awaiting task header } :=
    { tracks with
      script := tracks.script.move (.flushed writing)
      outstanding := outstanding
      outgoing := rfl
      reading := tracks.reads (by rw [writing]; rfl) _
      patient := fun patient => { tracks.patient patient with }
      interest := fun _ _ => rfl
      conserves := conserves.append rfl rfl rfl }
  unfold Session.settle
  cases session.pending with
  | none =>
      exact settled
  | some stage =>
      exact settled.setStage stage

/-- A flushed frame makes the pending change of stage. -/
theorem stage_settle {Client : Type} (session : Session Client) :
    session.settle.stage = session.pending.getD session.stage ∧
      session.settle.pending = none := by
  unfold Session.settle
  cases session.pending with
  | none =>
      exact ⟨rfl, rfl⟩
  | some stage =>
      exact stage_setStage rfl stage

/-- A frame that is kept is partly unsent, and the session asks to write. -/
def Attends (session : Session SaslClient) : Prop :=
  ∀ outgoing ∈ session.outgoing,
    outgoing.remaining ≠ [] ∧ session.transport.writeInterest = true

theorem attends_of_idle (idle : session.outgoing = none) : Attends session := by
  intro outgoing isOutgoing
  cases idle.symm.trans isOutgoing

theorem Tracks.attends (tracks : Tracks origin session point)
    (notWriting : point.activity.isWriting = false) : Attends session :=
  attends_of_idle (tracks.outgoing_eq_none notWriting)

theorem Attends.setStage (attends : Attends session) (stage : Stage) :
    Attends (session.setStage stage) := by
  unfold Session.setStage
  split
  · exact attends
  · next idle =>
      have noFrame : session.outgoing = none := by
        simpa using idle
      dsimp only
      split
      · exact attends_of_idle noFrame
      · exact attends_of_idle noFrame

/-- Flushing gets a frame out, or leaves the rest of it for later. -/
theorem ensures_flush {task : Task} {header : Option RequestHeader}
    (tracks : Tracks origin session point)
    (writing : point.activity = .writing task header) :
    flush.Ensures session
      (fun done later =>
        if done then
          Tracks origin later
              { point with activity := .awaiting task header } ∧
            later.stage = session.pending.getD session.stage ∧
            later.pending = none
        else
          Tracks origin later point ∧ Attends later ∧
            later.stage = session.stage ∧ later.pending = session.pending)
      (Throws origin) := by
  have busy := tracks.outgoing
  rw [writing] at busy
  obtain ⟨outgoing, isOutgoing⟩ := Option.isSome_iff_exists.mp busy
  obtain ⟨part, sent, -⟩ := outgoing.sent_writeTo session.transport
  have patiently := outgoing.writeAfter_of_isPatient 0 session.transport
  rw [ensures_flush_iff isOutgoing]
  rw [← Outgoing.writeTo] at patiently
  generalize outgoing.writeTo session.transport = result at sent patiently
  rcases result with ⟨outcome, left, transport⟩
  have conserves := tracks.conserves
  rw [show session.unsent = outgoing.remaining by rw [unsent, isOutgoing]; rfl]
    at conserves
  have written :
      Tracks origin
        { session with outgoing := some left, transport := transport } point :=
    { tracks with
      outgoing := by rw [writing]; rfl
      patient := fun patient => (patiently (tracks.patient patient)).2
      interest := by rintro _ ⟨⟩
      conserves := by
        have moved := conserves.send sent.remaining
        rw [← sent.accepted.outbound, ← sent.accepted.inbound] at moved
        exact moved }
  cases outcome with
  | error cause =>
      have impatient : ¬ origin.patient := by
        intro patient
        obtain ⟨⟨count, succeeded⟩, -⟩ := patiently (tracks.patient patient)
        cases succeeded
      refine ⟨point, _, _, written.script, written.conserves,
        .broken impatient (Or.inl (by rw [writing]; rfl)) ⟨cause, Or.inl ?_⟩⟩
      rw [tracks.node]
  | ok count =>
      have recorded :
          Tracks origin
            { session with
              outgoing := some left
              transport := transport
              ledger := session.ledger.recordSent count }
            point :=
        { written with }
      dsimp only
      split
      · next complete =>
          have flushed : left.remaining = [] := List.isEmpty_iff.mp complete
          rw [if_pos rfl]
          exact ⟨recorded.settle writing flushed, stage_settle _⟩
      · next incomplete =>
          have unfinished : left.remaining ≠ [] := by
            simpa [Outgoing.isComplete] using incomplete
          rw [if_neg Bool.false_ne_true]
          refine ⟨{ recorded with
            patient := fun patient => { recorded.patient patient with }
            interest := by rintro _ ⟨⟩ }, ?_, rfl, rfl⟩
          rintro _ ⟨⟩
          exact ⟨unfinished, rfl⟩

/-- A frame that was just made is unsent as a whole. -/
theorem Conserves.frame {outbound inbound held : Bytes} {journal : List Event}
    (conserves : Conserves origin outbound inbound journal [] held)
    (header : Option RequestHeader) (frame : Bytes) :
    Conserves origin outbound inbound (journal ++ [.framed header frame]) frame
      held where
  sent := by
    have before := conserves.sent
    rw [List.append_nil] at before
    simp [before]
  partly := Or.inr ⟨journal, header, frame, rfl, List.suffix_rfl⟩
  received := by
    simpa using conserves.received
  takes := by
    simpa using conserves.takes

/-- A session that has begun to send the frame of a task. -/
def Posted (origin : Origin) (later : Session SaslClient) (client : SaslClient)
    (task : Task) (stage : Stage) : Prop :=
  ∃ point header,
    point.client = client ∧
      (point.activity = .writing task header ∨
        point.activity = .awaiting task header) ∧
      Tracks origin later point ∧ Attends later ∧ later.stage = stage ∧
      later.pending = none

/-- A frame that is sent is flushed or at least partly written. -/
theorem ensures_send (point : Point) {task : Task} {header : Option RequestHeader}
    {outgoing : Outgoing}
    (tracks :
      Tracks origin
        { session.note (.framed header outgoing.remaining) with
          outgoing := some outgoing }
        point)
    (writing : point.activity = .writing task header)
    (settled : session.pending = none) :
    (send header outgoing).Ensures session
      (fun _ later => Posted origin later point.client task session.stage)
      (Throws origin) := by
  rw [send, ensures_bind, ensures_modify, ensures_discard]
  refine (ensures_flush tracks writing).weaken ?_ fun _ _ throws => throws
  intro done later ensured
  cases done with
  | true =>
      obtain ⟨awaits, stage, pending⟩ := ensured
      refine ⟨{ point with activity := .awaiting task header }, header, rfl,
        Or.inr rfl, awaits, attends_of_idle (awaits.outgoing_eq_none rfl), ?_,
        pending⟩
      rw [stage]
      simp [Session.note, settled]
  | false =>
      obtain ⟨writes, attends, stage, pending⟩ := ensured
      exact ⟨point, header, rfl, Or.inl writing, writes, attends, stage,
        pending.trans settled⟩

/-- The frame of a request holds its header and its body. -/
theorem framed_of_toOutgoing {task : Task} {request : Request}
    {destination : String} {outgoing : Outgoing} {config : Config}
    {terms : Terms} {correlationId : Int32}
    (asked : task.request? config terms = some request)
    (made :
      request.toOutgoing destination
          (Task.headerOf config correlationId request) =
        .ok outgoing) :
    task.Framed config terms correlationId
      (some (Task.headerOf config correlationId request),
        outgoing.remaining) := by
  obtain ⟨payload, serialized, framed⟩ := except_bind_eq_ok_iff.mp made
  exact .request asked (except_mapError_eq_ok_iff.mp serialized)
    (Outgoing.encode_of_ofPayload (except_mapError_eq_ok_iff.mp framed))

/-- A request is sent under the next header. -/
theorem ensures_sendRequest {task : Task} {request : Request}
    (tracks : Tracks origin session point)
    (ready : point.activity = .ready task)
    (asked :
      task.request? origin.exchange.config point.terms = some request)
    (settled : session.pending = none) :
    (sendRequest request).Ensures session
      (fun _ later => Posted origin later point.client task session.stage)
      (Throws origin) := by
  have notWriting : point.activity.isWriting = false := by
    rw [ready]
    rfl
  have notAwaiting : point.activity.isAwaiting = false := by
    rw [ready]
    rfl
  have conserves := tracks.conserves
  rw [tracks.unsent_eq_nil notWriting] at conserves
  have isHeader :
      ({ api := request.api, version := request.version
         correlationId := session.correlationId
         clientId := session.config.clientId } : RequestHeader) =
        Task.headerOf origin.exchange.config point.nextId request := by
    rw [tracks.correlationId, tracks.config]
    rfl
  rw [sendRequest, ensures_bind, nextHeader, ensures_bind, ensures_get]
  simp only [ensures_bind, ensures_set, ensures_pure, ensures_get]
  rw [isHeader]
  split
  · next cause refused =>
      rw [tracks.node] at refused
      exact tracks.throws notWriting notAwaiting
        (.unsendable ready asked refused)
  · next outgoing made =>
      have framed := framed_of_toOutgoing asked made
      rw [ensures_bind, ensures_modify]
      refine ensures_send
        { point with
          nextId := point.nextId + 1
          activity := .writing task
            (some
              (Task.headerOf origin.exchange.config point.nextId request)) }
        ?_ rfl settled
      exact
        { tracks with
          script := tracks.script.move (.framed ready framed)
          correlationId := congrArg (· + 1) tracks.correlationId
          outstanding := rfl
          outgoing := rfl
          reading := tracks.reads notAwaiting _
          interest := fun _ => nofun
          conserves := conserves.frame _ _ }

/-- A raw token is sent without a header. -/
theorem ensures_send_raw {token : Bytes} {outgoing : Outgoing}
    (tracks : Tracks origin session point)
    (ready : point.activity = .ready (.token token))
    (unwrapped : session.authenticateVersion = none)
    (made : Outgoing.ofPayload session.node token = .ok outgoing)
    (settled : session.pending = none) :
    (send none outgoing).Ensures session
      (fun _ later =>
        Posted origin later point.client (.token token) session.stage)
      (Throws origin) := by
  have outstanding := tracks.outstanding
  rw [ready] at outstanding
  have conserves := tracks.conserves
  rw [tracks.unsent_eq_nil (by rw [ready]; rfl)] at conserves
  have noVersion : point.terms.authenticateVersion = none := by
    rw [← tracks.terms]
    exact unwrapped
  have framed :
      Task.Framed origin.exchange.config point.terms point.nextId
        (.token token) (none, outgoing.remaining) :=
    .raw noVersion (Outgoing.encode_of_ofPayload made)
  refine ensures_send
    { point with activity := .writing (.token token) none } ?_ rfl settled
  exact
    { tracks with
      script := tracks.script.move (.framed ready framed)
      outstanding := outstanding
      outgoing := rfl
      reading := tracks.reads (by rw [ready]; rfl) _
      interest := fun _ => nofun
      conserves := conserves.frame _ _ }

/-- The mechanism's next token is evaluated from the challenge. -/
theorem ensures_nextToken {challenge : Bytes} (isInitial : Bool)
    (tracks : Tracks origin session point)
    (challenged : point.activity = .challenged challenge)
    (incomplete : Mechanism.isComplete point.client = false) :
    (nextToken challenge isInitial).Ensures session
      (fun token later =>
        Stays session later ∧
          ∃ next,
            Mechanism.evaluate point.client challenge = (.ok token, next) ∧
              Tracks origin later
                { point with
                  client := next
                  activity := .afterEvaluation (.ok token) })
      (Throws origin) := by
  rw [ensures_nextToken_iff]
  simp only [SaslClient.hasInitialResponse, Bool.not_true, Bool.and_false]
  rw [if_neg Bool.false_ne_true, tracks.client]
  generalize evaluated :
    Mechanism.evaluate point.client challenge = result
  rcases result with ⟨outcome, next⟩
  have outstanding := tracks.outstanding
  have outgoing := tracks.outgoing
  rw [challenged] at outstanding outgoing
  have moved :
      Tracks origin
        { session.note (.evaluated challenge outcome) with client := next }
        { point with
          client := next
          activity := .afterEvaluation outcome } :=
    { tracks with
      script :=
        tracks.script.move (.evaluated challenged incomplete evaluated)
      client := rfl
      outstanding := by
        rcases outcome with _ | _ | _ <;> exact outstanding
      outgoing := by
        rcases outcome with _ | _ | _ <;> exact outgoing
      reading := tracks.reads (by rw [challenged]; rfl) _
      conserves :=
        tracks.conserves.append rfl rfl
          (tracks.unsent_eq_nil (by rw [challenged]; rfl)) }
  cases outcome with
  | error cause =>
      rw [tracks.config, tracks.host]
      exact moved.throws rfl rfl (.mechanism rfl rfl)
  | ok token =>
      exact ⟨⟨rfl, rfl⟩, next, rfl, moved⟩

/-- What a session sends in answer to a challenge, if anything. -/
theorem ensures_sendToken {challenge : Bytes} (isInitial : Bool)
    (tracks : Tracks origin session point)
    (challenged : point.activity = .challenged challenge)
    (settled : session.pending = none) :
    (sendToken challenge isInitial).Ensures session
      (fun sent later =>
        if sent then
          ∃ token next,
            Mechanism.isComplete point.client = false ∧
              Mechanism.evaluate point.client challenge =
                (.ok (some token), next) ∧
              Posted origin later next (.token token) session.stage
        else
          Stays session later ∧
            (Mechanism.isComplete point.client = true ∧
                Tracks origin later point ∨
              ∃ next,
                Mechanism.isComplete point.client = false ∧
                  Mechanism.evaluate point.client challenge =
                    (.ok none, next) ∧
                  Tracks origin later
                    { point with client := next, activity := .silent }))
      (Throws origin) := by
  rw [sendToken, ensures_bind, ensures_get, tracks.client]
  by_cases complete : Mechanism.isComplete point.client = true
  · rw [if_pos complete, ensures_pure, if_neg Bool.false_ne_true]
    exact ⟨⟨rfl, rfl⟩, Or.inl ⟨complete, tracks⟩⟩
  · have incomplete : Mechanism.isComplete point.client = false := by
      simpa using complete
    rw [if_neg complete]
    apply (ensures_nextToken isInitial tracks challenged incomplete).bind
    rintro token between ⟨⟨stage, pending⟩, next, evaluated, moved⟩
    cases token with
    | none =>
        rw [ensures_pure, if_neg Bool.false_ne_true]
        exact ⟨⟨stage, pending⟩, Or.inr ⟨next, incomplete, evaluated, moved⟩⟩
    | some token =>
        have settledStill : between.pending = none := pending.trans settled
        have sent :
            ∀ later,
              Posted origin later next (.token token) between.stage →
                ∃ token next,
                  Mechanism.isComplete point.client = false ∧
                    Mechanism.evaluate point.client challenge =
                      (.ok (some token), next) ∧
                    Posted origin later next (.token token) session.stage := by
          intro later posted
          rw [stage] at posted
          exact ⟨token, next, incomplete, evaluated, posted⟩
        simp only [ensures_bind, ensures_get]
        split
        · next version isVersion =>
            have asked :
                (Task.token token).request? origin.exchange.config
                    point.terms =
                  some { body := .saslAuthenticate token, version } := by
              have sameTerms : between.terms = point.terms := moved.terms
              rw [Task.request?, ← sameTerms, terms, isVersion]
              rfl
            apply (ensures_sendRequest moved rfl asked settledStill).bind
            intro _ later posted
            rw [ensures_pure, if_pos rfl]
            exact sent later posted
        · next noVersion =>
            have sameTerms := congrArg Terms.authenticateVersion moved.terms
            split
            · next cause refused =>
                rw [moved.node] at refused
                exact moved.throws rfl rfl
                  (.unsendableToken rfl (sameTerms.symm.trans noVersion) refused)
            · next outgoing made =>
                refine
                  (ensures_send_raw moved rfl noVersion made settledStill).bind
                    ?_
                intro _ later posted
                rw [ensures_pure, if_pos rfl]
                exact sent later posted

end BrokerSession.Session
