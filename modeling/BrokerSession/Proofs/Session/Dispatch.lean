import BrokerSession.Proofs.Session.History

namespace BrokerSession

/-!
# What the frames are sent for

The frames of a session are those of its opening requests and of the tokens
that its mechanism produced, in this order.  The mechanism in turn is asked
only about tokens that the server has sent, apart from its first evaluation.
-/

namespace Activity

/-- The task that an activity belongs to. -/
def task? : Activity → Option Task
  | .ready task => some task
  | .writing task _ => some task
  | .awaiting task _ => some task
  | .received task _ _ => some task
  | .answered task _ => some task
  | _ => none

/-- The task that is not framed yet. -/
def ready? : Activity → Option Task
  | .ready task => some task
  | _ => none

end Activity

/-- The requests that come before the first token. -/
def openingTasks (config : Config) : List Task :=
  if config.handshakeRequestEnable then [.versions, .handshake] else []

/-- The frames of a journal with the tasks that they were made for. -/
structure Dispatched (config : Config) (terms : Terms) (journal : List Event)
    (sent : List (Task × Framing)) : Prop where
  framings : sent.map Prod.snd = Journal.framings journal
  framed :
    ∀ dispatch ∈ sent, ∃ correlationId,
      dispatch.1.Framed config terms correlationId dispatch.2

/-- The requests are those of the tasks that are sent as requests. -/
theorem Dispatched.apis_eq {config : Config} {terms : Terms}
    {journal : List Event} {sent : List (Task × Framing)}
    (dispatched : Dispatched config terms journal sent) :
    (Journal.requests journal).map RequestHeader.api =
      ((sent.map Prod.fst).filter (Task.isWrapped terms)).map Task.api := by
  obtain ⟨framings, framed⟩ := dispatched
  rw [Journal.requests, ← framings]
  clear framings
  induction sent with
  | nil =>
      rfl
  | cons dispatch rest inductionHypothesis =>
      obtain ⟨correlationId, own⟩ := framed dispatch List.mem_cons_self
      have others := inductionHypothesis fun other member =>
        framed other (List.mem_cons_of_mem dispatch member)
      rcases dispatch with ⟨task, header, frame⟩
      have wrapped : header.isSome = task.isWrapped terms := own.isSome_eq
      cases header with
      | none =>
          simpa [← wrapped] using others
      | some request =>
          have sameApi : request.api = task.api := own.api_eq request rfl
          simpa [← wrapped, sameApi] using others

/-- Opening requests are always asked, tokens only if they are wrapped. -/
theorem apis_of_plan (config : Config) (terms : Terms)
    (produced : List Bytes) :
    ((openingTasks config ++ produced.map Task.token).filter
          (Task.isWrapped terms)).map Task.api =
      (if config.handshakeRequestEnable then [.apiVersions, .saslHandshake]
        else []) ++
        List.replicate
          (if terms.authenticateVersion.isSome then produced.length else 0)
          .saslAuthenticate := by
  have opening :
      ((openingTasks config).filter (Task.isWrapped terms)).map Task.api =
        if config.handshakeRequestEnable then [.apiVersions, .saslHandshake]
        else [] := by
    rw [openingTasks]
    split <;> rfl
  rw [List.filter_append, List.map_append, opening]
  congr 1
  induction produced with
  | nil =>
      simp
  | cons token rest inductionHypothesis =>
      by_cases wrapped : terms.authenticateVersion.isSome = true
      · rw [if_pos wrapped] at inductionHypothesis ⊢
        simpa [Task.isWrapped, wrapped, List.replicate_succ, Task.api]
          using inductionHypothesis
      · rw [if_neg wrapped]
        simp [Task.isWrapped, wrapped]

namespace Script

open Journal

variable {exchange : Exchange} {point : Point} {journal : List Event}

/-- Whether tasks are all those up to an activity, given the tokens so far. -/
def IsPlan (config : Config) (activity : Activity) (produced : List Bytes)
    (tasks : List Task) : Prop :=
  match activity.task? with
  | some .versions =>
      config.handshakeRequestEnable = true ∧ produced = [] ∧
        tasks = [.versions]
  | some .handshake =>
      config.handshakeRequestEnable = true ∧ produced = [] ∧
        tasks = [.versions, .handshake]
  | _ => tasks = openingTasks config ++ produced.map .token

/-- Frames are made for the opening requests and for the tokens produced. -/
theorem exists_dispatched (script : Script exchange point journal) :
    ∃ sent,
      Dispatched exchange.config point.terms journal sent ∧
        IsPlan exchange.config point.activity (tokens journal)
          (sent.map Prod.fst ++ point.activity.ready?.toList) := by
  induction script with
  | start =>
      refine ⟨[], ⟨rfl, by simp⟩, ?_⟩
      by_cases enabled : exchange.config.handshakeRequestEnable = true <;>
        simp [Exchange.start, Activity.first, enabled, IsPlan, Activity.task?, Activity.ready?,
          openingTasks, tokens]
  | @framed point journal task header frame script ready framed
      inductionHypothesis =>
      obtain ⟨sent, dispatched, plan⟩ := inductionHypothesis
      rw [ready] at plan
      refine ⟨sent ++ [(task, (header, frame))], ⟨?_, ?_⟩, ?_⟩
      · simp [dispatched.framings]
      · intro dispatch member
        rcases List.mem_append.mp member with earlier | isNew
        · exact dispatched.framed dispatch earlier
        · obtain rfl := List.mem_singleton.mp isNew
          exact ⟨point.nextId, framed⟩
      · simpa [IsPlan, Activity.task?, Activity.ready?] using plan
  | flushed script writing inductionHypothesis =>
      obtain ⟨sent, dispatched, plan⟩ := inductionHypothesis
      rw [writing] at plan
      refine ⟨sent, ⟨?_, dispatched.framed⟩, ?_⟩
      · simpa using dispatched.framings
      · simpa [IsPlan, Activity.task?, Activity.ready?] using plan
  | taken script awaiting payload inductionHypothesis =>
      obtain ⟨sent, dispatched, plan⟩ := inductionHypothesis
      rw [awaiting] at plan
      refine ⟨sent, ⟨?_, dispatched.framed⟩, ?_⟩
      · simpa using dispatched.framings
      · simpa [IsPlan, Activity.task?, Activity.ready?] using plan
  | @takenRaw point journal task script awaiting payload
      inductionHypothesis =>
      obtain ⟨sent, dispatched, plan⟩ := inductionHypothesis
      have fits := script.headerFits
      rw [awaiting] at plan fits
      refine ⟨sent, ⟨?_, dispatched.framed⟩, ?_⟩
      · simpa using dispatched.framings
      · cases task with
        | versions =>
            cases fits.1
        | handshake =>
            cases fits.1
        | token content =>
            simpa [IsPlan, Activity.task?, Activity.ready?] using plan
  | decoded script received decoded inductionHypothesis =>
      obtain ⟨sent, dispatched, plan⟩ := inductionHypothesis
      rw [received] at plan
      refine ⟨sent, ⟨?_, dispatched.framed⟩, ?_⟩
      · simpa using dispatched.framings
      · simpa [IsPlan, Activity.task?, Activity.ready?] using plan
  | settled script answered succeeded inductionHypothesis =>
      obtain ⟨sent, dispatched, plan⟩ := inductionHypothesis
      rw [answered] at plan
      obtain ⟨enabled, noTokens, tasks⟩ := plan
      rw [show Activity.ready? (.answered ..) = none from rfl] at tasks
      simp only [Option.toList_none, List.append_nil] at tasks
      refine ⟨sent, ⟨dispatched.framings, ?_⟩, ?_⟩
      · intro dispatch member
        obtain ⟨correlationId, framed⟩ := dispatched.framed dispatch member
        have isVersions : dispatch.1 ∈ [Task.versions] := by
          rw [← tasks]
          exact List.mem_map_of_mem member
        rw [List.mem_singleton.mp isVersions] at framed ⊢
        exact ⟨correlationId, framed.of_versions _⟩
      · exact ⟨enabled, noTokens, by rw [tasks]; rfl⟩
  | admitted script answered succeeded inductionHypothesis =>
      obtain ⟨sent, dispatched, plan⟩ := inductionHypothesis
      rw [answered] at plan
      obtain ⟨enabled, noTokens, tasks⟩ := plan
      refine ⟨sent, dispatched, ?_⟩
      simp [IsPlan, Activity.task?, Activity.ready?, openingTasks, enabled,
        noTokens]
      simpa [Activity.ready?] using tasks
  | unwrapped script answered succeeded inductionHypothesis =>
      obtain ⟨sent, dispatched, plan⟩ := inductionHypothesis
      rw [answered] at plan
      refine ⟨sent, dispatched, ?_⟩
      simpa [IsPlan, Activity.task?, Activity.ready?] using plan
  | @evaluated point journal challenge outcome next script challenged
      incomplete evaluated inductionHypothesis =>
      obtain ⟨sent, dispatched, plan⟩ := inductionHypothesis
      rw [challenged] at plan
      have tasks :
          sent.map Prod.fst =
            openingTasks exchange.config ++ (tokens journal).map .token := by
        simpa [IsPlan, Activity.task?, Activity.ready?] using plan
      refine ⟨sent, ⟨?_, dispatched.framed⟩, ?_⟩
      · simpa using dispatched.framings
      · rcases outcome with _ | _ | _ <;>
          simp [IsPlan, Activity.task?, Activity.ready?,
            Activity.afterEvaluation, tasks]

/-! ## The mechanism's part -/

/-- Whether no token belongs to an activity yet. -/
def IsOpening : Activity → Prop
  | .challenged challenge => challenge = []
  | activity =>
      activity.task? = some .versions ∨ activity.task? = some .handshake

/-- Until its first token the mechanism is left as it was. -/
theorem tokens_ne_nil_or_isOpening (script : Script exchange point journal)
    (fresh : exchange.client.IsFresh) :
    tokens journal ≠ [] ∨
      evaluations journal = [] ∧ point.client = exchange.client ∧
        IsOpening point.activity := by
  induction script with
  | start =>
      refine Or.inr ⟨rfl, rfl, ?_⟩
      by_cases enabled : exchange.config.handshakeRequestEnable = true <;>
        simp [Exchange.start, Activity.first, enabled, IsOpening, Activity.task?]
  | framed script ready framed inductionHypothesis =>
      rw [ready] at inductionHypothesis
      simpa [IsOpening, Activity.task?] using inductionHypothesis
  | flushed script writing inductionHypothesis =>
      rw [writing] at inductionHypothesis
      simpa [IsOpening, Activity.task?] using inductionHypothesis
  | taken script awaiting payload inductionHypothesis =>
      rw [awaiting] at inductionHypothesis
      simpa [IsOpening, Activity.task?] using inductionHypothesis
  | takenRaw script awaiting payload inductionHypothesis =>
      have fits := script.headerFits
      rw [awaiting] at inductionHypothesis fits
      rcases inductionHypothesis with someToken | ⟨-, -, opening⟩
      · exact Or.inl (by simpa using someToken)
      · -- Opening requests are never sent without a header.
        rcases opening with isVersions | isHandshake
        · cases isVersions
          cases fits.1
        · cases isHandshake
          cases fits.1
  | decoded script received decoded inductionHypothesis =>
      rw [received] at inductionHypothesis
      simpa [IsOpening, Activity.task?] using inductionHypothesis
  | settled script answered succeeded inductionHypothesis =>
      rw [answered] at inductionHypothesis
      rcases inductionHypothesis with someToken | ⟨none, same, -⟩
      · exact Or.inl someToken
      · exact Or.inr ⟨none, same, Or.inr rfl⟩
  | admitted script answered succeeded inductionHypothesis =>
      rw [answered] at inductionHypothesis
      rcases inductionHypothesis with someToken | ⟨none, same, -⟩
      · exact Or.inl someToken
      · exact Or.inr ⟨none, same, rfl⟩
  | unwrapped script answered succeeded inductionHypothesis =>
      rw [answered] at inductionHypothesis
      rcases inductionHypothesis with someToken | ⟨-, -, opening⟩
      · exact Or.inl someToken
      · rcases opening with isVersions | isHandshake
        · cases isVersions
        · cases isHandshake
  | @evaluated point journal challenge outcome next script challenged
      incomplete evaluated inductionHypothesis =>
      rw [challenged] at inductionHypothesis
      rcases inductionHypothesis with someToken | ⟨-, same, isEmpty⟩
      · exact Or.inl (by simp [someToken])
      · have noChallenge : challenge = [] := isEmpty
        obtain ⟨token, begun, first, -⟩ :=
          SaslClient.evaluate_of_isFresh fresh
        rw [same, noChallenge, first] at evaluated
        cases evaluated
        exact Or.inl (by simp)

/-- Where a challenge came from: from nowhere before the first evaluation. -/
def IsBrought (journal : List Event) (challenge : Bytes) : Prop :=
  evaluations journal = [] ∧ challenge = [] ∨
    (∃ earlier, journal = earlier ++ [.taken challenge]) ∨
    ∃ earlier header response,
      journal = earlier ++ [.decoded header (.saslAuthenticate response)] ∧
        response.token = challenge

theorem isBrought (script : Script exchange point journal)
    (fresh : exchange.client.IsFresh) {challenge : Bytes}
    (challenged : point.activity = .challenged challenge) :
    IsBrought journal challenge := by
  induction script with
  | start =>
      rw [Exchange.activity_start, Activity.first] at challenged
      split at challenged
      · cases challenged
      · cases challenged
        exact Or.inl ⟨rfl, rfl⟩
  | takenRaw script awaiting payload =>
      cases challenged
      exact Or.inr (Or.inl ⟨_, rfl⟩)
  | admitted script answered succeeded =>
      cases challenged
      obtain ⟨sent, -, plan⟩ := script.exists_dispatched
      have opening := script.tokens_ne_nil_or_isOpening fresh
      rw [answered] at plan
      rcases opening with someToken | ⟨none, -, -⟩
      · exact (someToken plan.2.1).elim
      · exact Or.inl ⟨none, rfl⟩
  | unwrapped script answered succeeded =>
      cases challenged
      have atAnswer := script.ends
      rw [answered] at atAnswer
      obtain ⟨-, earlier, header, shape⟩ := atAnswer
      exact Or.inr (Or.inr ⟨earlier, header, _, shape, rfl⟩)
  | @evaluated point journal challenge outcome next script _ _ _ =>
      rcases outcome with _ | _ | _ <;> cases challenged
  | framed | flushed | taken | decoded | settled =>
      cases challenged

/-- The mechanism is asked only about what the server has just sent. -/
theorem isBrought_before_evaluated (script : Script exchange point journal)
    (fresh : exchange.client.IsFresh) :
    ∀ before challenge outcome after,
      journal = before ++ .evaluated challenge outcome :: after →
        IsBrought before challenge := by
  induction script with
  | start =>
      intro before challenge outcome after split
      cases before <;> cases split
  | evaluated script challenged incomplete evaluated inductionHypothesis =>
      intro before challenge outcome after split
      rcases eq_or_split_of_append_singleton split with
        ⟨rfl, same⟩ | ⟨middle, -, earlier⟩
      · cases same
        exact script.isBrought fresh challenged
      · exact inductionHypothesis before challenge outcome middle earlier
  | framed _ _ _ inductionHypothesis
  | flushed _ _ inductionHypothesis
  | taken _ _ _ inductionHypothesis
  | takenRaw _ _ _ inductionHypothesis
  | decoded _ _ _ inductionHypothesis =>
      intro before challenge outcome after split
      rcases eq_or_split_of_append_singleton split with
        ⟨-, ⟨⟩⟩ | ⟨middle, -, earlier⟩
      exact inductionHypothesis before challenge outcome middle earlier
  | settled _ _ _ inductionHypothesis
  | admitted _ _ _ inductionHypothesis
  | unwrapped _ _ _ inductionHypothesis =>
      exact inductionHypothesis

/-- Unless it has refused something, a SCRAM client is on its course. -/
theorem course (script : Script exchange point journal) {client : ScramClient}
    (isScram : exchange.client = .scram client)
    (fresh : exchange.client.IsFresh) :
    point.activity = .refused ∨
      ∃ phase,
        point.client = .scram { client with phase := phase } ∧
          client.Course phase (evaluations journal) := by
  induction script with
  | start =>
      rw [isScram] at fresh
      have phase : client.phase = .sendClientFirst := fresh
      refine Or.inr ⟨.sendClientFirst, ?_, .start⟩
      rw [← phase]
      exact isScram
  | @evaluated point journal challenge outcome next script challenged
      incomplete evaluated inductionHypothesis =>
      cases outcome with
      | error refusal =>
          exact Or.inl rfl
      | ok token =>
          rcases inductionHypothesis with refused | ⟨phase, same, course⟩
          · rw [refused] at challenged
            cases challenged
          · rw [same, SaslClient.evaluate_scram] at evaluated
            obtain ⟨answered, rfl⟩ := Prod.mk.inj evaluated
            rcases moved : ScramClient.evaluate
              { client with phase := phase } challenge with ⟨answer, after⟩
            rw [moved] at answered
            cases answered
            obtain ⟨later, accepts, rfl⟩ :=
              ScramClient.evaluate_eq_ok_iff.mp moved
            refine Or.inr ⟨later, rfl, ?_⟩
            rw [evaluations_append]
            exact course.accept (ScramClient.accepts_phase_iff.mp accepts)
  | framed script current _ inductionHypothesis
  | flushed script current inductionHypothesis
  | taken script current _ inductionHypothesis
  | takenRaw script current _ inductionHypothesis
  | decoded script current _ inductionHypothesis
  | settled script current _ inductionHypothesis
  | admitted script current _ inductionHypothesis
  | unwrapped script current _ inductionHypothesis =>
      rcases inductionHypothesis with refused | onCourse
      · rw [refused] at current
        cases current
      · exact Or.inr (by simpa using onCourse)

end Script

end BrokerSession
