import BrokerSession.Proofs.Sasl.Turn
import BrokerSession.Proofs.Session.Dispatch

namespace BrokerSession.Script

/-!
# What an exchange has settled

The headers of the requests follow from the configuration and from the versions
that the peer's first answer leaves to use.  The mechanism is asked whenever it
is its turn, and a SCRAM client is complete only when nothing more is sent.
-/

open Journal

variable {exchange : Exchange} {point : Point} {journal : List Event}

/-! ## Versions -/

/-- Whether the outstanding header is that of the request of its task. -/
def IsAsked (config : Config) (terms : Terms) : Activity → Prop
  | .writing task (some header)
  | .awaiting task (some header)
  | .received task header _ =>
      ∃ request correlationId,
        task.request? config terms = some request ∧
          header = Task.headerOf config correlationId request
  | _ => True

theorem isAsked (script : Script exchange point journal) :
    IsAsked exchange.config point.terms point.activity := by
  induction script with
  | start =>
      rw [Exchange.activity_start, Activity.first]
      split <;> trivial
  | framed script ready framed inductionHypothesis =>
      cases framed with
      | request asked serialized encoded =>
          exact ⟨_, _, asked, rfl⟩
      | raw unwrapped encoded =>
          trivial
  | @flushed point journal task header script writing inductionHypothesis =>
      rw [writing] at inductionHypothesis
      cases header <;> exact inductionHypothesis
  | taken script awaiting payload inductionHypothesis =>
      rw [awaiting] at inductionHypothesis
      exact inductionHypothesis
  | takenRaw | decoded | settled | admitted | unwrapped =>
      trivial
  | @evaluated point journal challenge outcome next script challenged
      incomplete evaluated inductionHypothesis =>
      rcases outcome with _ | _ | _ <;> trivial

/-- The header of the first request of a handshake. -/
def openingHeader (config : Config) : RequestHeader :=
  Task.headerOf config (-1)
    { body := .apiVersions, version := ApiKey.apiVersions.oldestVersion }

/-- Versions that were settled by the first frame that was taken. -/
def IsAgreed (config : Config) (terms : Terms) (journal : List Event) : Prop :=
  ∃ payload rest response,
    payloads journal = payload :: rest ∧
      Response.ofPayload (openingHeader config) payload =
        .ok (.apiVersions response) ∧
      response.error = .none ∧ terms = .ofResponse response

theorem IsAgreed.append {config : Config} {terms : Terms}
    (agreed : IsAgreed config terms journal) (later : List Event) :
    IsAgreed config terms (journal ++ later) := by
  obtain ⟨payload, rest, response, first, accepted⟩ := agreed
  refine ⟨payload, rest ++ payloads later, response, ?_, accepted⟩
  rw [payloads_append, first, List.cons_append]

/-- How far the opening of an exchange with a handshake has come. -/
def Opens (config : Config) (point : Point) (journal : List Event) : Prop :=
  match point.activity with
  | .ready .versions => payloads journal = [] ∧ point.nextId = -1
  | .writing .versions header | .awaiting .versions header =>
      payloads journal = [] ∧ header = some (openingHeader config)
  | .received .versions header payload =>
      payloads journal = [payload] ∧ header = openingHeader config
  | .answered .versions response =>
      ∃ payload,
        payloads journal = [payload] ∧
          Response.ofPayload (openingHeader config) payload = .ok response
  | _ =>
      config.handshakeRequestEnable = true →
        IsAgreed config point.terms journal

/-- With a handshake the versions in use are those of the peer's first answer. -/
theorem opens (script : Script exchange point journal) :
    Opens exchange.config point journal := by
  induction script with
  | start =>
      by_cases enabled : exchange.config.handshakeRequestEnable = true
      · simp only [Opens, Exchange.start, Activity.first, enabled, if_true]
        exact ⟨rfl, trivial⟩
      · simp only [Opens, Exchange.start, Activity.first, enabled]
        rintro ⟨⟩
  | @framed point journal task header frame script ready framed
      inductionHypothesis =>
      unfold Opens at inductionHypothesis
      rw [ready] at inductionHypothesis
      cases task with
      | versions =>
          obtain ⟨nothing, firstId⟩ := inductionHypothesis
          cases framed with
          | request asked serialized encoded =>
              cases asked
              refine ⟨by simpa using nothing, ?_⟩
              rw [firstId]
              rfl
      | handshake =>
          exact fun enabled => (inductionHypothesis enabled).append _
      | token content =>
          exact fun enabled => (inductionHypothesis enabled).append _
  | @flushed point journal task header script writing inductionHypothesis =>
      unfold Opens at inductionHypothesis
      rw [writing] at inductionHypothesis
      cases task with
      | versions =>
          obtain ⟨nothing, isOpening⟩ := inductionHypothesis
          exact ⟨by simpa using nothing, isOpening⟩
      | handshake =>
          exact fun enabled => (inductionHypothesis enabled).append _
      | token content =>
          exact fun enabled => (inductionHypothesis enabled).append _
  | @taken point journal task header script awaiting payload
      inductionHypothesis =>
      unfold Opens at inductionHypothesis
      rw [awaiting] at inductionHypothesis
      cases task with
      | versions =>
          obtain ⟨nothing, isOpening⟩ := inductionHypothesis
          exact ⟨by simp [nothing], Option.some.inj isOpening⟩
      | handshake =>
          exact fun enabled => (inductionHypothesis enabled).append _
      | token content =>
          exact fun enabled => (inductionHypothesis enabled).append _
  | @takenRaw point journal task script awaiting payload
      inductionHypothesis =>
      unfold Opens at inductionHypothesis
      rw [awaiting] at inductionHypothesis
      cases task with
      | versions =>
          cases inductionHypothesis.2
      | handshake =>
          exact fun enabled => (inductionHypothesis enabled).append _
      | token content =>
          exact fun enabled => (inductionHypothesis enabled).append _
  | @decoded point journal task header payload response script received
      decoded inductionHypothesis =>
      unfold Opens at inductionHypothesis
      rw [received] at inductionHypothesis
      cases task with
      | versions =>
          obtain ⟨first, rfl⟩ := inductionHypothesis
          exact ⟨payload, by simpa using first, decoded⟩
      | handshake =>
          exact fun enabled => (inductionHypothesis enabled).append _
      | token content =>
          exact fun enabled => (inductionHypothesis enabled).append _
  | settled script answered succeeded inductionHypothesis =>
      unfold Opens at inductionHypothesis
      rw [answered] at inductionHypothesis
      obtain ⟨payload, first, decoded⟩ := inductionHypothesis
      exact fun _ => ⟨payload, [], _, first, decoded, succeeded, rfl⟩
  | admitted script answered succeeded inductionHypothesis
  | unwrapped script answered succeeded inductionHypothesis =>
      unfold Opens at inductionHypothesis
      rw [answered] at inductionHypothesis
      exact inductionHypothesis
  | @evaluated point journal challenge outcome next script challenged
      incomplete evaluated inductionHypothesis =>
      unfold Opens at inductionHypothesis
      rw [challenged] at inductionHypothesis
      rcases outcome with _ | _ | _ <;>
        exact fun enabled => (inductionHypothesis enabled).append _

/-! ## The client -/

/-- Once a token was produced the client has begun. -/
theorem hasBegun (script : Script exchange point journal)
    (fresh : exchange.client.IsFresh) (someToken : tokens journal ≠ []) :
    point.activity = .refused ∨ point.client.HasBegun := by
  induction script with
  | start =>
      exact (someToken rfl).elim
  | @evaluated point journal challenge outcome next script challenged
      incomplete evaluated inductionHypothesis =>
      cases outcome with
      | error refusal =>
          exact Or.inl rfl
      | ok token =>
          refine Or.inr ?_
          rcases script.tokens_ne_nil_or_isOpening fresh with
            earlier | ⟨-, same, opening⟩
          · rcases inductionHypothesis earlier with refused | begun
            · cases challenged.symm.trans refused
            · exact (SaslClient.hasBegun_of_evaluate begun incomplete
                evaluated).1
          · rw [challenged] at opening
            have noChallenge : challenge = [] := opening
            obtain ⟨first, begun, evaluatedFirst, hasBegun⟩ :=
              SaslClient.evaluate_of_isFresh fresh
            rw [same, noChallenge, evaluatedFirst] at evaluated
            cases evaluated
            exact hasBegun
  | framed script current _ inductionHypothesis
  | flushed script current inductionHypothesis
  | taken script current _ inductionHypothesis
  | takenRaw script current _ inductionHypothesis
  | decoded script current _ inductionHypothesis
  | settled script current _ inductionHypothesis
  | admitted script current _ inductionHypothesis
  | unwrapped script current _ inductionHypothesis =>
      rcases inductionHypothesis (by simpa using someToken) with
        refused | begun
      · cases current.symm.trans refused
      · exact Or.inr begun

/-- A client that is fresh has not produced a token. -/
theorem tokens_eq_nil (script : Script exchange point journal)
    (fresh : exchange.client.IsFresh) (stillFresh : point.client.IsFresh)
    (accepted : point.activity ≠ .refused) : tokens journal = [] := by
  by_contra someToken
  rcases script.hasBegun fresh someToken with refused | begun
  · exact accepted refused
  · exact SaslClient.not_isFresh_of_hasBegun begun stillFresh

/-- Nothing was sent before the versions are asked for. -/
theorem unasked (script : Script exchange point journal)
    (ready : point.activity = .ready .versions) :
    exchange.config.handshakeRequestEnable = true ∧ frames journal = [] ∧
      point.nextId = -1 := by
  obtain ⟨sent, dispatched, plan⟩ := script.exists_dispatched
  have opens := script.opens
  unfold Opens at opens
  rw [ready] at plan opens
  obtain ⟨enabled, -, tasks⟩ := plan
  refine ⟨enabled, ?_, opens.2⟩
  have nothing : sent.map Prod.fst = [] :=
    List.append_cancel_right (tasks : sent.map Prod.fst ++ _ = [] ++ _)
  rw [frames, ← dispatched.framings, List.map_eq_nil_iff.mp nothing]
  rfl

/-- Nothing was sent before a first challenge under the first id. -/
theorem unopened (script : Script exchange point journal)
    (fresh : exchange.client.IsFresh) (stillFresh : point.client.IsFresh)
    (challenged : point.activity = .challenged [])
    (unasked : point.nextId = -1) :
    exchange.config.handshakeRequestEnable = false ∧ frames journal = [] ∧
      point.client = exchange.client := by
  have noToken :=
    script.tokens_eq_nil fresh stillFresh (by rw [challenged]; exact nofun)
  obtain ⟨sent, dispatched, plan⟩ := script.exists_dispatched
  rw [challenged] at plan
  have tasks : sent.map Prod.fst = openingTasks exchange.config := by
    simpa [IsPlan, Activity.task?, Activity.ready?, noToken] using plan
  have disabled : exchange.config.handshakeRequestEnable = false := by
    by_contra notDisabled
    -- Both opening requests were sent, so the next id is not the first.
    rw [Bool.not_eq_false] at notDisabled
    have count := congrArg List.length dispatched.apis_eq
    rw [tasks, List.length_map, openingTasks, if_pos notDisabled] at count
    have isNext := script.correlationIds_eq.2
    rw [count, unasked] at isNext
    cases isNext
  refine ⟨disabled, ?_, ?_⟩
  · rw [openingTasks, disabled, if_neg Bool.false_ne_true] at tasks
    rw [frames, ← dispatched.framings, List.map_eq_nil_iff.mp tasks]
    rfl
  · rcases script.tokens_ne_nil_or_isOpening fresh with
      someToken | ⟨-, same, -⟩
    · exact (someToken noToken).elim
    · exact same

/-- The mechanism is never asked when it has nothing to answer. -/
theorem isInTurn (script : Script exchange point journal)
    (fresh : exchange.client.IsFresh) :
    ∀ challenge cause,
      .evaluated challenge (.error cause) ∈ journal → cause.IsInTurn := by
  induction script with
  | start =>
      intro challenge cause member
      cases member
  | @evaluated point journal challenge outcome next script challenged
      incomplete evaluated inductionHypothesis =>
      intro other cause member
      rcases List.mem_append.mp member with earlier | isNew
      · exact inductionHypothesis other cause earlier
      · cases List.mem_singleton.mp isNew
        rcases script.tokens_ne_nil_or_isOpening fresh with
          someToken | ⟨-, same, opening⟩
        · rcases script.hasBegun fresh someToken with refused | begun
          · cases challenged.symm.trans refused
          · exact SaslClient.isInTurn_of_evaluate begun incomplete evaluated
        · rw [challenged] at opening
          have noChallenge : challenge = [] := opening
          obtain ⟨first, begun, evaluatedFirst, -⟩ :=
            SaslClient.evaluate_of_isFresh fresh
          rw [same, noChallenge, evaluatedFirst] at evaluated
          cases evaluated
  | framed _ _ _ inductionHypothesis
  | flushed _ _ inductionHypothesis
  | taken _ _ _ inductionHypothesis
  | takenRaw _ _ _ inductionHypothesis
  | decoded _ _ _ inductionHypothesis =>
      intro challenge cause member
      refine inductionHypothesis challenge cause ?_
      simpa using member
  | settled _ _ _ inductionHypothesis
  | admitted _ _ _ inductionHypothesis
  | unwrapped _ _ _ inductionHypothesis =>
      exact inductionHypothesis

/-- A SCRAM client is not complete while anything is still to be sent. -/
theorem not_isComplete_of_scram (script : Script exchange point journal)
    {client : ScramClient} (isScram : exchange.client = .scram client)
    (fresh : exchange.client.IsFresh) :
    point.activity = .refused ∨
      (∃ current, point.client = .scram current) ∧
        (point.activity = .silent ∨
          Mechanism.isComplete point.client = false) := by
  induction script with
  | start =>
      exact Or.inr ⟨⟨client, isScram⟩,
        Or.inr (SaslClient.not_isComplete_of_isFresh fresh)⟩
  | @evaluated point journal challenge outcome next script challenged
      incomplete evaluated inductionHypothesis =>
      cases outcome with
      | error refusal =>
          exact Or.inl rfl
      | ok token =>
          rcases inductionHypothesis with refused | ⟨⟨current, same⟩, -⟩
          · cases challenged.symm.trans refused
          · rw [same] at evaluated
            have complete := SaslClient.isComplete_of_evaluate_scram evaluated
            have isNext := (Prod.mk.inj evaluated).2
            refine Or.inr ⟨⟨_, isNext.symm⟩, ?_⟩
            cases token with
            | none =>
                exact Or.inl rfl
            | some token =>
                exact Or.inr complete
  | framed script current _ inductionHypothesis
  | flushed script current inductionHypothesis
  | taken script current _ inductionHypothesis
  | takenRaw script current _ inductionHypothesis
  | decoded script current _ inductionHypothesis
  | settled script current _ inductionHypothesis
  | admitted script current _ inductionHypothesis
  | unwrapped script current _ inductionHypothesis =>
      rcases inductionHypothesis with refused | ⟨isStill, silent | incomplete⟩
      · cases current.symm.trans refused
      · cases current.symm.trans silent
      · exact Or.inr ⟨isStill, Or.inr incomplete⟩

end BrokerSession.Script
