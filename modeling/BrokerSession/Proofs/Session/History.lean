import BrokerSession.Proofs.Session.Exchange

namespace BrokerSession.Script

/-!
# What a script guarantees

Each fact here is an induction on the script.  The invariant behind it names,
for each activity, what the end of the journal looks like.
-/

open Journal

variable {exchange : Exchange} {point : Point} {journal : List Event}

/-! ## Requests and answers -/

/-- The requests are those answered so far and the outstanding one. -/
theorem requests_eq (script : Script exchange point journal) :
    requests journal =
      (answers journal).map Prod.fst ++ point.activity.header?.toList := by
  induction script with
  | start =>
      rw [Exchange.activity_start, Activity.first]
      split <;> rfl
  | framed script ready framed inductionHypothesis =>
      rw [ready] at inductionHypothesis
      simp [inductionHypothesis, Activity.header?]
  | flushed script writing inductionHypothesis =>
      rw [writing] at inductionHypothesis
      simp [inductionHypothesis, Activity.header?]
  | taken script awaiting payload inductionHypothesis =>
      rw [awaiting] at inductionHypothesis
      simp [inductionHypothesis, Activity.header?]
  | takenRaw script awaiting payload inductionHypothesis =>
      rw [awaiting] at inductionHypothesis
      simp [inductionHypothesis, Activity.header?]
  | decoded script received decoded inductionHypothesis =>
      rw [received] at inductionHypothesis
      simp [inductionHypothesis, Activity.header?]
  | settled script answered succeeded inductionHypothesis =>
      rw [answered] at inductionHypothesis
      exact inductionHypothesis
  | admitted script answered succeeded inductionHypothesis =>
      rw [answered] at inductionHypothesis
      exact inductionHypothesis
  | unwrapped script answered succeeded inductionHypothesis =>
      rw [answered] at inductionHypothesis
      exact inductionHypothesis
  | @evaluated point journal challenge outcome next script challenged
      incomplete evaluated inductionHypothesis =>
      rw [challenged] at inductionHypothesis
      rcases outcome with _ | _ | _ <;>
        simp [inductionHypothesis, Activity.header?, Activity.afterEvaluation]

/-- The correlation id of the request with a number, counting from zero. -/
def idAt (number : Nat) : Int32 :=
  .ofInt (number - 1)

theorem idAt_succ (number : Nat) : idAt (number + 1) = idAt number + 1 := by
  have next : ((number + 1 : Nat) : Int) - 1 = ((number : Int) - 1) + 1 := by
    omega
  rw [idAt, idAt, next, Int32.ofInt_add]
  rfl

/-- Requests carry consecutive correlation ids. -/
theorem correlationIds_eq (script : Script exchange point journal) :
    (requests journal).map RequestHeader.correlationId =
        (List.range (requests journal).length).map idAt ∧
      point.nextId = idAt (requests journal).length := by
  induction script with
  | start =>
      exact ⟨rfl, rfl⟩
  | @framed point journal task header frame script ready framed
      inductionHypothesis =>
      obtain ⟨carried, nextId⟩ := inductionHypothesis
      cases header with
      | none =>
          simpa using ⟨carried, nextId⟩
      | some header =>
          have own := framed.correlationId_eq header rfl
          simp [carried, own, nextId, idAt_succ, List.range_succ]
  | flushed _ _ inductionHypothesis
  | taken _ _ _ inductionHypothesis
  | takenRaw _ _ _ inductionHypothesis
  | decoded _ _ _ inductionHypothesis
  | evaluated _ _ _ _ inductionHypothesis =>
      simpa using inductionHypothesis
  | settled _ _ _ inductionHypothesis
  | admitted _ _ _ inductionHypothesis
  | unwrapped _ _ _ inductionHypothesis =>
      exact inductionHypothesis

/-- Every frame is a payload behind its size. -/
theorem exists_payload_of_mem_frames (script : Script exchange point journal) :
    ∀ frame ∈ frames journal,
      ∃ payload : Bytes,
        payload.length ≤ maxFrameSize ∧ frame = FrameCodec.frame payload := by
  induction script with
  | start =>
      intro frame member
      cases member
  | @framed point journal task header frame script ready framed
      inductionHypothesis =>
      intro other member
      rw [frames_append] at member
      rcases List.mem_append.mp member with earlier | isNew
      · exact inductionHypothesis other earlier
      · obtain rfl := List.mem_singleton.mp isNew
        exact framed.exists_payload
  | flushed _ _ inductionHypothesis
  | taken _ _ _ inductionHypothesis
  | takenRaw _ _ _ inductionHypothesis
  | decoded _ _ _ inductionHypothesis
  | evaluated _ _ _ _ inductionHypothesis =>
      simpa using inductionHypothesis
  | settled _ _ _ inductionHypothesis
  | admitted _ _ _ inductionHypothesis
  | unwrapped _ _ _ inductionHypothesis =>
      exact inductionHypothesis

/-- Every frame but an open one has been answered. -/
theorem length_frames_eq (script : Script exchange point journal) :
    (frames journal).length =
      (payloads journal).length +
        if point.activity.isWriting || point.activity.isAwaiting then 1
        else 0 := by
  induction script with
  | start =>
      rw [exchange.activity_start, Activity.first]
      split <;> rfl
  | framed _ current _ inductionHypothesis
  | flushed _ current inductionHypothesis
  | taken _ current _ inductionHypothesis
  | takenRaw _ current _ inductionHypothesis
  | decoded _ current _ inductionHypothesis
  | settled _ current _ inductionHypothesis
  | admitted _ current _ inductionHypothesis
  | unwrapped _ current _ inductionHypothesis =>
      simpa [current, Activity.isWriting, Activity.isAwaiting]
        using inductionHypothesis
  | @evaluated _ _ _ outcome _ _ current _ _ inductionHypothesis =>
      rcases outcome with cause | _ | token <;>
        simpa [current, Activity.afterEvaluation, Activity.isWriting,
          Activity.isAwaiting] using inductionHypothesis

/-! ## The order of events -/

/-- Where an event stands in a journal that was extended by another one. -/
theorem eq_or_split_of_append_singleton {last event : Event}
    {before after : List Event}
    (split : journal ++ [last] = before ++ event :: after) :
    (before = journal ∧ event = last) ∨
      ∃ middle, after = middle ++ [last] ∧
        journal = before ++ event :: middle := by
  rcases List.eq_nil_or_concat after with rfl | ⟨middle, other, rfl⟩
  · obtain ⟨same, ends⟩ := List.append_inj' split rfl
    cases ends
    exact Or.inl ⟨same.symm, rfl⟩
  · rw [List.concat_eq_append, ← List.cons_append, ← List.append_assoc]
      at split
    obtain ⟨same, ends⟩ := List.append_inj' split rfl
    cases ends
    exact Or.inr ⟨middle, List.concat_eq_append .., same⟩

/--
Whether no frame is waiting for its answer.

Either none was sent, or the last one was flushed, a frame was taken after it,
and, if it was a request, that frame was decoded as the response to it.
-/
def IsSettled (journal : List Event) : Prop :=
  frames journal = [] ∨
    ∃ earlier header frame payload middle,
      journal =
          earlier ++
            .framed header frame :: .flushed :: .taken payload :: middle ∧
        frames middle = [] ∧
        ∀ request ∈ header, ∃ response,
          .decoded request response ∈ middle ∧
            Response.ofPayload request payload = .ok response

/-- More events that frame nothing leave a journal settled. -/
theorem IsSettled.append (settled : IsSettled journal) {later : List Event}
    (noFrames : frames later = []) : IsSettled (journal ++ later) := by
  rcases settled with none |
    ⟨earlier, header, frame, payload, middle, rfl, quiet, decoded⟩
  · exact Or.inl (by rw [frames_append, none, noFrames]; rfl)
  · refine Or.inr ⟨earlier, header, frame, payload, middle ++ later, ?_, ?_, ?_⟩
    · simp
    · rw [frames_append, quiet, noFrames]
      rfl
    · intro request isRequest
      obtain ⟨response, member, parsed⟩ := decoded request isRequest
      exact ⟨response, List.mem_append_left later member, parsed⟩

/-- What the end of a journal looks like during an activity. -/
def Ends (journal : List Event) : Activity → Prop
  | .writing _ header =>
      ∃ earlier frame, journal = earlier ++ [.framed header frame]
  | .awaiting _ header =>
      ∃ earlier frame, journal = earlier ++ [.framed header frame, .flushed]
  | .received _ header payload =>
      ∃ earlier frame,
        journal =
          earlier ++ [.framed (some header) frame, .flushed, .taken payload]
  | .answered _ response =>
      IsSettled journal ∧
        ∃ earlier header, journal = earlier ++ [.decoded header response]
  | _ => IsSettled journal

/-- The activity at a point follows from what the journal ends with. -/
theorem ends (script : Script exchange point journal) :
    Ends journal point.activity := by
  induction script with
  | start =>
      rw [Exchange.activity_start, Activity.first]
      split <;> exact Or.inl rfl
  | framed script ready framed inductionHypothesis =>
      exact ⟨_, _, rfl⟩
  | flushed script writing inductionHypothesis =>
      rw [writing] at inductionHypothesis
      obtain ⟨earlier, frame, rfl⟩ := inductionHypothesis
      exact ⟨earlier, frame, by simp⟩
  | taken script awaiting payload inductionHypothesis =>
      rw [awaiting] at inductionHypothesis
      obtain ⟨earlier, frame, rfl⟩ := inductionHypothesis
      exact ⟨earlier, frame, by simp⟩
  | takenRaw script awaiting payload inductionHypothesis =>
      rw [awaiting] at inductionHypothesis
      obtain ⟨earlier, frame, rfl⟩ := inductionHypothesis
      refine Or.inr ⟨earlier, none, frame, payload, [], by simp, rfl, ?_⟩
      rintro _ ⟨⟩
  | @decoded point journal task header payload response script received decoded
      inductionHypothesis =>
      rw [received] at inductionHypothesis
      obtain ⟨earlier, frame, rfl⟩ := inductionHypothesis
      refine ⟨Or.inr ⟨earlier, some header, frame, payload,
        [.decoded header response], by simp, rfl, ?_⟩, _, header, rfl⟩
      rintro _ ⟨⟩
      exact ⟨response, List.mem_singleton_self _, decoded⟩
  | settled script answered succeeded inductionHypothesis
  | admitted script answered succeeded inductionHypothesis
  | unwrapped script answered succeeded inductionHypothesis =>
      rw [answered] at inductionHypothesis
      exact inductionHypothesis.1
  | @evaluated point journal challenge outcome next script challenged
      incomplete evaluated inductionHypothesis =>
      rw [challenged] at inductionHypothesis
      have settled : IsSettled (journal ++ [.evaluated challenge outcome]) :=
        inductionHypothesis.append rfl
      rcases outcome with _ | _ | _ <;> exact settled

/-- A frame is made only when none is waiting for its answer. -/
theorem isSettled_before_framed (script : Script exchange point journal) :
    ∀ before header frame after,
      journal = before ++ .framed header frame :: after →
        IsSettled before := by
  induction script with
  | start =>
      intro before header frame after split
      cases before <;> cases split
  | framed script ready framed inductionHypothesis =>
      intro before header frame after split
      rcases eq_or_split_of_append_singleton split with
        ⟨rfl, -⟩ | ⟨middle, -, earlier⟩
      · have atReady := script.ends
        rw [ready] at atReady
        exact atReady
      · exact inductionHypothesis before header frame middle earlier
  | flushed _ _ inductionHypothesis
  | taken _ _ _ inductionHypothesis
  | takenRaw _ _ _ inductionHypothesis
  | decoded _ _ _ inductionHypothesis
  | evaluated _ _ _ _ inductionHypothesis =>
      intro before header frame after split
      rcases eq_or_split_of_append_singleton split with
        ⟨-, ⟨⟩⟩ | ⟨middle, -, earlier⟩
      exact inductionHypothesis before header frame middle earlier
  | settled _ _ _ inductionHypothesis
  | admitted _ _ _ inductionHypothesis
  | unwrapped _ _ _ inductionHypothesis =>
      exact inductionHypothesis

/--
Whether a response was decoded right after the frame that holds it was taken,
and this right after its request had been written to the last byte.
-/
def IsAnswer (journal : List Event) (header : RequestHeader)
    (response : Response) : Prop :=
  ∃ earlier frame payload later,
    journal =
        earlier ++ .framed (some header) frame :: .flushed ::
          .taken payload :: .decoded header response :: later ∧
      Response.ofPayload header payload = .ok response

theorem IsAnswer.append {header : RequestHeader} {response : Response}
    (isAnswer : IsAnswer journal header response) (event : Event) :
    IsAnswer (journal ++ [event]) header response := by
  obtain ⟨earlier, frame, payload, later, rfl, parsed⟩ := isAnswer
  exact ⟨earlier, frame, payload, later ++ [event], by simp, parsed⟩

/-- A response is decoded from the frame that answers its request. -/
theorem isAnswer_of_mem_answers (script : Script exchange point journal)
    {header : RequestHeader} {response : Response}
    (member : (header, response) ∈ answers journal) :
    IsAnswer journal header response := by
  induction script with
  | start =>
      cases member
  | @decoded point journal task other payload found script received decoded
      inductionHypothesis =>
      rw [answers_append] at member
      rcases List.mem_append.mp member with earlier | isNew
      · exact (inductionHypothesis earlier).append _
      · cases List.mem_singleton.mp isNew
        have atReceived := script.ends
        rw [received] at atReceived
        obtain ⟨earlier, frame, rfl⟩ := atReceived
        exact ⟨earlier, frame, payload, [], by simp, decoded⟩
  | framed _ _ _ inductionHypothesis
  | flushed _ _ inductionHypothesis
  | taken _ _ _ inductionHypothesis
  | takenRaw _ _ _ inductionHypothesis
  | evaluated _ _ _ _ inductionHypothesis =>
      rw [answers_append] at member
      rcases List.mem_append.mp member with earlier | isNew
      · exact (inductionHypothesis earlier).append _
      · cases isNew
  | settled _ _ _ inductionHypothesis
  | admitted _ _ _ inductionHypothesis
  | unwrapped _ _ _ inductionHypothesis =>
      exact inductionHypothesis member

/-! ## Accepted answers -/

/-- Whether a response belongs to the API that was asked and reports success. -/
def Succeeds (answer : RequestHeader × Response) : Prop :=
  answer.2.api = answer.1.api ∧ answer.2.error = .none

/-- The header under which a task was sent fits the task. -/
def HeaderFits (terms : Terms) : Activity → Prop
  | .writing task header =>
      header.isSome = task.isWrapped terms ∧
        ∀ request ∈ header, request.api = task.api
  | .awaiting task header =>
      header.isSome = task.isWrapped terms ∧
        ∀ request ∈ header, request.api = task.api
  | .received task header _ => header.api = task.api
  | _ => True

theorem headerFits (script : Script exchange point journal) :
    HeaderFits point.terms point.activity := by
  induction script with
  | start =>
      rw [Exchange.activity_start, Activity.first]
      split <;> trivial
  | framed script ready framed inductionHypothesis =>
      exact ⟨framed.isSome_eq, framed.api_eq⟩
  | flushed script writing inductionHypothesis =>
      rw [writing] at inductionHypothesis
      exact inductionHypothesis
  | taken script awaiting payload inductionHypothesis =>
      rw [awaiting] at inductionHypothesis
      exact inductionHypothesis.2 _ rfl
  | takenRaw | decoded | settled | admitted | unwrapped =>
      trivial
  | @evaluated point journal challenge outcome next script challenged
      incomplete evaluated inductionHypothesis =>
      rcases outcome with _ | _ | _ <;> trivial

/-- While a response is not acted upon yet, the ones before it succeeded. -/
def AnswersFit (journal : List Event) : Activity → Prop
  | .answered task response =>
      ∃ earlier header,
        answers journal = earlier ++ [(header, response)] ∧
          header.api = task.api ∧ ∀ answer ∈ earlier, Succeeds answer
  | _ => ∀ answer ∈ answers journal, Succeeds answer

theorem answersFit (script : Script exchange point journal) :
    AnswersFit journal point.activity := by
  induction script with
  | start =>
      rw [Exchange.activity_start, Activity.first]
      split <;> (intro answer member; cases member)
  | framed script ready framed inductionHypothesis =>
      rw [ready] at inductionHypothesis
      simpa [AnswersFit] using inductionHypothesis
  | flushed script writing inductionHypothesis =>
      rw [writing] at inductionHypothesis
      simpa [AnswersFit] using inductionHypothesis
  | taken script awaiting payload inductionHypothesis
  | takenRaw script awaiting payload inductionHypothesis =>
      rw [awaiting] at inductionHypothesis
      simpa [AnswersFit] using inductionHypothesis
  | decoded script received decoded inductionHypothesis =>
      have fits := script.headerFits
      rw [received] at inductionHypothesis fits
      exact ⟨_, _, by simp, fits, inductionHypothesis⟩
  | settled script answered succeeded inductionHypothesis
  | admitted script answered succeeded inductionHypothesis
  | unwrapped script answered succeeded inductionHypothesis =>
      rw [answered] at inductionHypothesis
      obtain ⟨earlier, header, shape, fits, others⟩ := inductionHypothesis
      intro answer member
      rw [shape] at member
      rcases List.mem_append.mp member with before | isLast
      · exact others answer before
      · obtain rfl := List.mem_singleton.mp isLast
        exact ⟨fits.symm, succeeded⟩
  | @evaluated point journal challenge outcome next script challenged
      incomplete evaluated inductionHypothesis =>
      rw [challenged] at inductionHypothesis
      rcases outcome with _ | _ | _ <;>
        simpa [AnswersFit, Activity.afterEvaluation] using inductionHypothesis

end BrokerSession.Script
