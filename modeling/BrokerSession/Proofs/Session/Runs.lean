import BrokerSession.Proofs.Channel.Steps
import BrokerSession.Proofs.Session.Coherence

namespace BrokerSession

/-!
# Runs of a session

One step lemma says what an operation preserves, whatever the state of the
transport; the run lemma follows by induction.  An operation may also take
bytes away from the transport, let bytes arrive or make a later call fail,
which the origin of the session records.
-/

namespace Session

open SessionM

/-- The bytes that an operation lets arrive. -/
def Operation.arriving : Operation → Bytes
  | .transport step => step.arriving
  | _ => []

/-- Whether calls on the transport are at most delayed by an operation. -/
def Operation.isPatient : Operation → Bool
  | .transport step => step.isPatient
  | _ => true

/-- The accepted bytes that an operation hands over. -/
def handed (session : Session SaslClient) (operation : Operation) : Bytes :=
  match (session.perform operation).1 with
  | .ok taken => taken.getD []
  | .error _ => []

/-- The accepted bytes that operations hand over, one after the other. -/
def takenAway (session : Session SaslClient) : List Operation → Bytes
  | [] => []
  | operation :: later =>
      session.handed operation ++
        takenAway (session.perform operation).2 later

/-- The origin once operations were done and bytes were taken away. -/
def Origin.after (origin : Origin) (taken : Bytes)
    (operations : List Operation) : Origin :=
  { origin with
    lead := origin.lead ++ taken
    arrived := origin.arrived ++ operations.flatMap Operation.arriving
    patient :=
      origin.patient ∧ ∀ operation ∈ operations, operation.isPatient = true }

/-- Without operations the origin stays as it is. -/
theorem Origin.after_nil (origin : Origin) : origin.after [] [] = origin := by
  simp [after]

/-- An operation of the session itself does not concern its origin. -/
theorem Origin.after_own (origin : Origin) {operation : Operation}
    (arrives : operation.arriving = []) (patient : operation.isPatient = true) :
    origin.after [] [operation] = origin := by
  simp [after, arrives, patient]

/-- What is taken and what arrives add up over a run. -/
theorem Origin.after_append (origin : Origin) (taken laterTaken : Bytes)
    (operation : Operation) (later : List Operation) :
    (origin.after taken [operation]).after laterTaken later =
      origin.after (taken ++ laterTaken) (operation :: later) := by
  simp [after, and_assoc]

variable {origin : Origin} {session : Session SaslClient} {point : Point}

/-! ## Advancing -/

/-- A flushed session makes its pending move and awaits the answer. -/
theorem Rests.flushed {stage : Stage} {pending : Option Stage} {task : Task}
    {header : Option RequestHeader} (rests : Rests stage pending point)
    (writing : point.activity = .writing task header) :
    Rests (pending.getD stage) none
      { point with activity := .awaiting task header } := by
  cases rests with
  | asking _ _ _ other
  | starting _ _ _ other
  | awaiting _ _ _ _ _ other
  | awaitingFinal _ _ _ _ _ other =>
      rw [other] at writing
      cases writing
  | writing _ _ _ isPending suits other =>
      rw [other] at writing
      cases writing
      rw [isPending]
      exact .awaiting task header rfl rfl suits rfl
  | writingNext token _ isStage isPending begun _ other =>
      rw [other] at writing
      cases writing
      rw [isPending]
      exact .awaiting (.token token) header isStage rfl begun rfl

/-- A frame is being written for a task of the exchange. -/
theorem exists_writing (tracks : Tracks origin session point)
    (busy : session.outgoing.isSome = true) :
    ∃ task header, point.activity = .writing task header := by
  have isWriting := tracks.outgoing.symm.trans busy
  cases activity : point.activity with
  | writing task header =>
      exact ⟨task, header, rfl⟩
  | ready | awaiting | received | answered | challenged | silent | refused =>
      rw [activity] at isWriting
      cases isWriting

/-- The frame being written goes first, then the handler of the stage. -/
theorem ensures_advance (advances : Advances origin session) :
    advance.Ensures session
      (fun _ later => Advances origin later)
      (Throws origin) := by
  rw [advance, ensures_bind, ensures_get]
  rcases advances with ⟨point, tracks, attends, rests⟩ | finished
  · by_cases busy : session.outgoing.isSome = true
    · obtain ⟨task, header, writing⟩ := exists_writing tracks busy
      rw [if_pos busy]
      apply (ensures_flush tracks writing).bind
      intro done between ensured
      cases done with
      | true =>
          obtain ⟨awaits, stage, pending⟩ := ensured
          rw [if_pos rfl, ensures_bind, ensures_get]
          have restsAwaiting := rests.flushed writing
          rw [← stage, ← pending] at restsAwaiting
          exact ensures_handle awaits restsAwaiting
            (awaits.outgoing_eq_none rfl)
      | false =>
          obtain ⟨writes, stillAttends, stage, pending⟩ := ensured
          rw [if_neg Bool.false_ne_true, ensures_pure]
          rw [← stage, ← pending] at rests
          exact Or.inl ⟨point, writes, stillAttends, rests⟩
    · rw [if_neg busy, ensures_bind, ensures_get]
      have idle : session.outgoing = none := by
        simpa using busy
      exact ensures_handle tracks rests idle
  · rw [if_neg (by rw [finished.outgoing]; exact Bool.false_ne_true),
      ensures_bind, ensures_get, finished.stage]
    exact Or.inr finished

/-! ## Operations -/

/-- A session that rests at a point is neither complete nor failed. -/
theorem Rests.isTerminal_eq {stage : Stage} {pending : Option Stage}
    (rests : Rests stage pending point) : stage.isTerminal = false := by
  cases rests with
  | asking isStage | starting isStage | writingNext _ _ isStage
  | awaitingFinal _ _ isStage =>
      rw [isStage]
      rfl
  | writing task _ isStage | awaiting task _ isStage =>
      rw [isStage]
      cases task <;> rfl

/-- A session that goes on has not failed. -/
theorem Advances.stage_ne_failed (advances : Advances origin session) :
    session.stage ≠ .failed := by
  intro isFailed
  rcases advances with ⟨point, -, -, rests⟩ | finished
  · have notTerminal := rests.isTerminal_eq
    rw [isFailed] at notTerminal
    cases notTerminal
  · cases finished.stage.symm.trans isFailed

/-- Counting an attempt concerns the ledger alone. -/
theorem exists_begin (session : Session SaslClient) :
    ∃ ledger,
      session.begin = { session with started := true, ledger := ledger } := by
  rw [begin]
  split
  · next started =>
      exact ⟨session.ledger, by rw [← started]⟩
  · exact ⟨_, rfl⟩

/-- The beginning of a call lets a session go on. -/
theorem Advances.begin (advances : Advances origin session) :
    Advances origin session.begin := by
  obtain ⟨ledger, isBegun⟩ := session.exists_begin
  rw [isBegun]
  rcases advances with ⟨point, tracks, attends, rests⟩ | finished
  · exact Or.inl ⟨point, { tracks with }, attends, rests⟩
  · exact Or.inr { finished with }

/-- A session that is given up has failed. -/
theorem Leaves.fail (leaves : Leaves origin session) :
    Failed origin session.fail :=
  ⟨rfl, rfl, rfl, rfl, rfl, leaves.script, leaves.conserves⟩

/-- A sound session has followed a script and lost no byte. -/
theorem Sound.leaves (sound : Sound origin session) : Leaves origin session := by
  cases sound with
  | advances advances =>
      rcases advances with ⟨point, tracks, -⟩ | finished
      · exact tracks.leaves
      · obtain ⟨point, script, -⟩ := finished.script
        exact ⟨⟨point, script⟩, [], finished.conserves⟩
  | failed failed =>
      exact failed.leaves

/-- A sound session whose stage is complete is a complete one. -/
theorem Sound.finished (sound : Sound origin session)
    (complete : session.stage = .complete) : Finished origin session := by
  cases sound with
  | advances advances =>
      rcases advances with ⟨point, -, -, rests⟩ | finished
      · have notTerminal := rests.isTerminal_eq
        rw [complete] at notTerminal
        cases notTerminal
      · exact finished
  | failed failed =>
      cases failed.stage.symm.trans complete

/-- A call goes on, or it reports why the session has failed for good. -/
theorem Advances.authenticate (advances : Advances origin session) :
    session.authenticate.1 = .ok () ∧
        Advances origin session.authenticate.2 ∨
      ∃ cause,
        session.authenticate.1 = .error cause ∧
          Throws origin cause session.authenticate.2 ∧
          Failed origin session.authenticate.2 := by
  rcases (ensures_advance advances.begin).authenticate
      advances.stage_ne_failed with
    ⟨later, same, goesOn⟩ | ⟨cause, later, same, throws⟩
  · rw [same]
    exact Or.inl ⟨rfl, goesOn⟩
  · rw [same]
    exact Or.inr ⟨cause, rfl, throws, throws.leaves.fail⟩

/-- A session that has failed is left as it is. -/
theorem authenticate_of_failed (failed : session.stage = .failed) :
    session.authenticate =
      (.error (.handshakeTerminated session.node), session) := by
  rw [Session.authenticate, if_pos failed]

/-- A call on a complete session does nothing but count. -/
theorem Finished.authenticate (finished : Finished origin session) :
    session.authenticate = (.ok (), session.begin) := by
  obtain ⟨ledger, isBegun⟩ := session.exists_begin
  have stage : session.begin.stage = .complete := by
    rw [isBegun]
    exact finished.stage
  have idle : session.begin.outgoing.isSome = false := by
    rw [isBegun, finished.outgoing]
    rfl
  have ensured :
      advance.Ensures session.begin (fun _ later => later = session.begin)
        (fun _ _ => False) := by
    rw [advance, ensures_bind, ensures_get, idle, if_neg Bool.false_ne_true,
      ensures_bind, ensures_get, stage]
    exact rfl
  have unfailed : session.stage ≠ .failed := by
    rw [finished.stage]
    exact Stage.noConfusion
  rcases ensured.authenticate unfailed with
    ⟨later, same, rfl⟩ | ⟨cause, later, -, impossible⟩
  · exact same
  · exact impossible.elim

/-- A call keeps a session sound. -/
theorem Sound.authenticate (sound : Sound origin session) :
    Sound origin session.authenticate.2 := by
  cases sound with
  | advances advances =>
      rcases advances.authenticate with ⟨-, later⟩ | ⟨cause, -, -, failed⟩
      · exact .advances later
      · exact .failed failed
  | failed failed =>
      rw [authenticate_of_failed failed.stage]
      exact .failed failed

/-- A session that is closed stays sound. -/
theorem Sound.close (sound : Sound origin session) :
    Sound origin session.close := by
  have leaves := sound.leaves
  rw [Session.close]
  by_cases terminal : session.stage.isTerminal = true
  · rw [if_pos terminal]
    cases sound with
    | failed failed =>
        exact .failed
          { failed with
            outgoing := rfl
            outstanding := rfl
            leaves := ⟨leaves.script, leaves.conserves⟩ }
    | advances advances =>
        rcases advances with ⟨point, -, -, rests⟩ | finished
        · rw [rests.isTerminal_eq] at terminal
          cases terminal
        · obtain ⟨point, held, script, terms, complete, final, conserves,
            abandons⟩ := finished.ending
          refine .advances (Or.inr
            { finished with
              outgoing := rfl
              outstanding := rfl
              complete := ?_
              ending := ⟨point, held, script, terms, complete, final,
                conserves, ?_, abandons.undecided⟩ })
          · rw [SaslClient.isComplete_dispose]
            exact finished.complete
          · exact fun notAwaiting =>
              ⟨(abandons.nothing notAwaiting).1, rfl⟩
  · rw [if_neg terminal]
    exact .failed ⟨rfl, rfl, rfl, rfl, rfl, leaves.script, leaves.conserves⟩

/-! ## The owner of the transport -/

/-- Bytes taken away and bytes that arrived are accounted for. -/
theorem Conserves.move {before : Transport} (step : Transport.Step)
    {journal : List Event} {unsent held : Bytes}
    (conserves :
      Conserves origin before.outbound before.inbound journal unsent held) :
    Conserves
      (origin.after ((before.perform step).1.getD []) [.transport step])
      (before.perform step).2.outbound (before.perform step).2.inbound journal
      unsent held where
  sent := by
    have sent := conserves.sent
    rw [← before.outbound_perform step] at sent
    rw [Origin.after, ← sent]
    simp only [List.append_assoc]
  partly := conserves.partly
  received := by
    rw [before.inbound_perform step, Origin.after, List.flatMap_singleton,
      conserves.received]
    simp only [List.append_assoc]
    rfl
  takes := conserves.takes

/-- A session that goes no further loses no byte to a step of its transport. -/
theorem Leaves.move (leaves : Leaves origin session) (step : Transport.Step) :
    Leaves
      (origin.after ((session.transport.perform step).1.getD [])
        [.transport step])
      { session with transport := (session.transport.perform step).2 } := by
  obtain ⟨unsent, held, conserves⟩ := leaves.conserves
  exact ⟨leaves.script, unsent, held, conserves.move step⟩

/-- A step of the transport does not change the point of the exchange. -/
theorem Tracks.move (tracks : Tracks origin session point)
    (step : Transport.Step) :
    Tracks
      (origin.after ((session.transport.perform step).1.getD [])
        [.transport step])
      { session with transport := (session.transport.perform step).2 }
      point :=
  { tracks with
    patient := fun patient =>
      (tracks.patient patient.1).perform (patient.2 _ List.mem_cons_self)
    interest := fun unasked idle =>
      (session.transport.writeInterest_perform step).trans
        (tracks.interest unasked idle)
    conserves := tracks.conserves.move step }

/-- A step of the transport lets a session go on. -/
theorem Advances.move (advances : Advances origin session)
    (step : Transport.Step) :
    Advances
      (origin.after ((session.transport.perform step).1.getD [])
        [.transport step])
      { session with transport := (session.transport.perform step).2 } := by
  have sameInterest := session.transport.writeInterest_perform step
  rcases advances with ⟨point, tracks, attends, rests⟩ | finished
  · refine Or.inl ⟨point, tracks.move step, ?_, rests⟩
    intro outgoing isOutgoing
    obtain ⟨unfinished, interest⟩ := attends outgoing isOutgoing
    exact ⟨unfinished, sameInterest.trans interest⟩
  · obtain ⟨point, held, script, terms, complete, final, conserves,
      abandons⟩ := finished.ending
    exact Or.inr
      { finished with
        interest := sameInterest.trans finished.interest
        ending := ⟨point, held, script, terms, complete, final,
          conserves.move step, abandons⟩ }

/-- A step of the transport keeps a session sound. -/
theorem Sound.move (sound : Sound origin session) (step : Transport.Step) :
    Sound
      (origin.after ((session.transport.perform step).1.getD [])
        [.transport step])
      { session with transport := (session.transport.perform step).2 } := by
  cases sound with
  | failed failed =>
      exact .failed
        { failed with
          interest :=
            (session.transport.writeInterest_perform step).trans
              failed.interest
          leaves := failed.leaves.move step }
  | advances advances =>
      exact .advances (advances.move step)

/-! ## Runs -/

/-- A call hands nothing over. -/
theorem handed_authenticate (session : Session SaslClient) :
    session.handed .authenticate = [] := by
  simp only [handed, Session.perform]
  cases session.authenticate.1 <;> rfl

/-- Every operation keeps a session sound. -/
theorem Sound.perform (sound : Sound origin session) (operation : Operation) :
    Sound (origin.after (session.handed operation) [operation])
      (session.perform operation).2 := by
  cases operation with
  | authenticate =>
      rw [handed_authenticate, origin.after_own rfl rfl]
      exact sound.authenticate
  | close =>
      rw [show session.handed .close = [] from rfl, origin.after_own rfl rfl]
      exact sound.close
  | transport step =>
      exact sound.move step

/-- A run of any length keeps a session sound. -/
theorem Sound.run (sound : Sound origin session)
    (operations : List Operation) :
    Sound (origin.after (session.takenAway operations) operations)
      (session.run operations) := by
  induction operations generalizing origin session with
  | nil =>
      rw [takenAway, Origin.after_nil]
      exact sound
  | cons operation later inductionHypothesis =>
      have moved := inductionHypothesis (sound.perform operation)
      rw [Origin.after_append] at moved
      rw [takenAway]
      exact moved

/-- What a session starts from: nothing has gone through its transport. -/
def Origin.start (config : Config) (node host : String) (client : SaslClient)
    (transport : Transport) : Origin where
  exchange := { config, node, host, client }
  base := transport.outbound
  lead := []
  arrived := transport.inbound
  patient := transport.IsPatient
  unasked := transport.writeInterest = false

/-- A session with a fresh mechanism starts at the beginning of its script. -/
theorem sound_start (config : Config) (node host : String) (subject : Subject)
    (transport : Transport) {client : SaslClient} (fresh : client.IsFresh) :
    Sound (.start config node host client transport)
      (start config node host subject transport client) := by
  have notWriting :
      (Activity.first config).header? = none ∧
        (Activity.first config).isWriting = false := by
    rw [Activity.first]
    split <;> exact ⟨rfl, rfl⟩
  have conserves :
      Conserves (.start config node host client transport) transport.outbound
        transport.inbound [] [] [] :=
    { sent := rfl
      partly := Or.inl rfl
      received := rfl
      takes := by rintro _ ⟨⟩ }
  have tracks :
      Tracks (.start config node host client transport)
        (start config node host subject transport client)
        { client := client, activity := .first config } :=
    { script := .start
      config := rfl
      node := rfl
      host := rfl
      client := rfl
      terms := rfl
      correlationId := rfl
      outstanding := notWriting.1.symm
      outgoing := notWriting.2.symm
      reading := reads_none
      patient := id
      interest := fun unasked _ => unasked
      conserves := conserves }
  refine .advances (Or.inl ⟨_, tracks, tracks.attends notWriting.2, ?_⟩)
  by_cases enabled : config.handshakeRequestEnable = true
  · refine .asking ?_ rfl fresh ?_
    · rw [start, Stage.first, if_pos enabled]
    · rw [Activity.first, if_pos enabled]
  · refine .starting ?_ rfl fresh ?_ rfl rfl
    · rw [start, Stage.first, if_neg enabled]
    · rw [Activity.first, if_neg enabled]

end Session

end BrokerSession
