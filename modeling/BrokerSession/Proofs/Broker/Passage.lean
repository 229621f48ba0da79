import BrokerSession.Proofs.Broker.Message
import BrokerSession.Proofs.Config.Validation
import BrokerSession.Proofs.Session.Course

namespace BrokerSession

/-!
# Passages of an exchange with a broker

A round is a request with its answer.  A passage is a course of an exchange
whose frames are the requests of its rounds and whose payloads are the broker's
answers to them.
-/

open Journal

/-- A request and its answer, as the payloads of their frames. -/
structure Round where
  asked : Asked
  request : Bytes
  answer : Bytes

namespace Broker

/-- The rounds in which a broker answers requests, one after the other. -/
inductive Handles : Broker → List Round → Broker → Prop where
  | nothing (broker : Broker) : Handles broker [] broker
  | round {broker next last : Broker} {round : Round} {rounds : List Round}
      (read : Asked.ofPayload round.request = .ok round.asked)
      (handled :
        broker.handle round.request = (FrameCodec.frame round.answer, next))
      (handles : Handles next rounds last) :
      Handles broker (round :: rounds) last

variable {broker between last : Broker} {rounds later : List Round}

theorem Handles.append (handles : broker.Handles rounds between)
    (goesOn : between.Handles later last) :
    broker.Handles (rounds ++ later) last := by
  induction handles with
  | nothing =>
      exact goesOn
  | round read handled _ inductionHypothesis =>
      exact .round read handled (inductionHypothesis goesOn)

/-- What a broker has read are the requests of the rounds, and no others. -/
theorem Handles.received_eq (handles : broker.Handles rounds last) :
    last.received =
      broker.received ++ rounds.map fun round => .ok round.asked := by
  induction handles with
  | nothing =>
      exact (List.append_nil _).symm
  | @round broker next last round rounds read handled _ inductionHypothesis =>
      rw [handle, read] at handled
      have isNext : (broker.receive round.asked).2 = next :=
        congrArg Prod.snd handled
      rw [inductionHypothesis, ← isNext]
      exact List.append_assoc ..

/-- A response belongs to the API of its request. -/
theorem api_respond (broker : Broker) (request : Request) :
    (broker.respond request).1.api = request.api := by
  rw [respond, Request.api]
  cases request.body with
  | apiVersions | saslHandshake | stopReplica =>
      rfl
  | saslAuthenticate token =>
      dsimp only
      split <;> rfl

/-- A broker answers the payload of a request as it responds to the request. -/
theorem handle_of_ofPayload {asked : Asked}
    {payload answer : Bytes}
    (read : Asked.ofPayload payload = .ok asked)
    (answered :
      (broker.receive asked).1.serialize asked.header.correlationId
          asked.header.version =
        .ok answer)
    (fits : answer.length ≤ maxFrameSize) :
    broker.handle payload =
      (FrameCodec.frame answer, (broker.receive asked).2) := by
  have framed :
      framed? asked.header (broker.receive asked).1 =
        some (FrameCodec.frame answer) := by
    rw [framed?, answered]
    exact congrArg Except.toOption
      (FrameCodec.encode_eq_ok_iff.mpr ⟨fits, fits, rfl⟩)
  rw [handle, read]
  exact congrArg (Prod.mk · _) (congrArg (Option.getD · []) framed)

end Broker

/-- Whether a request can be written and fits a frame. -/
def Asked.Fits (asked : Asked) : Prop :=
  ∃ payload,
    asked.request.serialize asked.header = .ok payload ∧
      payload.length ≤ maxFrameSize

/-- Whether an answer can be written and is not more than a session takes. -/
def Response.Fits (config : Config) (asked : Asked) (response : Response) :
    Prop :=
  ∃ payload,
    response.serialize asked.header.correlationId asked.header.version =
        .ok payload ∧
      payload.length ≤ config.maxReceiveSize

instance (config : Config) (asked : Asked) (response : Response) :
    Decidable (response.Fits config asked) :=
  match written :
    response.serialize asked.header.correlationId asked.header.version with
  | .ok payload =>
      decidable_of_iff (payload.length ≤ config.maxReceiveSize)
        ⟨fun fits => ⟨payload, written, fits⟩, fun ⟨_, same, fits⟩ => by
          cases written.symm.trans same
          exact fits⟩
  | .error _ =>
      isFalse fun ⟨_, same, _⟩ => nomatch written.symm.trans same

/-- Whether a request and its answer fit the frames that they go in. -/
structure Fits (config : Config) (answered : Asked × Response) : Prop where
  request : answered.1.Fits
  answer : answered.2.Fits config answered.1

/-- A course that a broker goes along with. -/
structure Passage (exchange : Exchange) (point : Point) (broker : Broker)
    (rounds : List Round) (events : List Event) (next : Point)
    (later : Broker) : Prop where
  leads : exchange.Leads point events next
  handles : broker.Handles rounds later
  frames :
    frames events = rounds.map fun round => FrameCodec.frame round.request
  payloads : payloads events = rounds.map Round.answer
  sendable : ∀ round ∈ rounds, FrameCodec.unlimited.Takes round.request
  receivable :
    ∀ round ∈ rounds,
      FrameCodec.Takes ⟨exchange.config.maxReceiveSize⟩ round.answer

namespace Passage

variable {exchange : Exchange} {point next last : Point}
  {broker later : Broker} {rounds : List Round}
  {events laterEvents : List Event}

/-- Without a move there is nothing to answer. -/
theorem stay (exchange : Exchange) (point : Point) (broker : Broker) :
    Passage exchange point broker [] [] point broker where
  leads := .stay point
  handles := .nothing broker
  frames := rfl
  payloads := rfl
  sendable := nofun
  receivable := nofun

/-- A move that neither makes nor takes a frame does not concern the broker. -/
theorem aside (moves : exchange.Moves point events next)
    (noFrame : Journal.frames events = [])
    (noPayload : Journal.payloads events = [])
    (goesOn : Passage exchange next broker rounds laterEvents last later) :
    Passage exchange point broker rounds (events ++ laterEvents) last later where
  leads := .move moves goesOn.leads
  handles := goesOn.handles
  frames := by
    rw [frames_append, noFrame]
    exact goesOn.frames
  payloads := by
    rw [payloads_append, noPayload]
    exact goesOn.payloads
  sendable := goesOn.sendable
  receivable := goesOn.receivable

/-- The mechanism answers a challenge without the broker. -/
theorem evaluate {challenge : Bytes} {token : Option Bytes}
    {client : SaslClient} (challenged : point.activity = .challenged challenge)
    (incomplete : Mechanism.isComplete point.client = false)
    (evaluated :
      Mechanism.evaluate point.client challenge = (.ok token, client))
    (goesOn :
      Passage exchange
        { point with
          client := client
          activity := .afterEvaluation (.ok token) }
        broker rounds events last later) :
    Passage exchange point broker rounds
      ([.evaluated challenge (.ok token)] ++ events) last later :=
  .aside (.evaluated challenged incomplete evaluated) rfl rfl goesOn

/-- A task that is sent as a request is answered as the broker responds. -/
theorem ask {task : Task} {asked : Asked}
    (usable : exchange.config.IsUsable)
    (ready : point.activity = .ready task)
    (isRequest :
      task.request? exchange.config point.terms = some asked.request)
    (isHeader :
      asked.header = Task.headerOf exchange.config point.nextId asked.request)
    (fits : Fits exchange.config (asked, (broker.receive asked).1))
    (goesOn :
      Passage exchange
        { point with
          nextId := point.nextId + 1
          activity :=
            .answered task
              ((broker.receive asked).1.carried asked.request.version) }
        (broker.receive asked).2 rounds events last later) :
    ∃ round earlier,
      round.asked = asked ∧
        Passage exchange point broker (round :: rounds) (earlier ++ events) last
          later := by
  obtain ⟨payload, serialized, sendable⟩ := fits.request
  obtain ⟨answer, answered, receivable⟩ := fits.answer
  have fitsFrame : answer.length ≤ maxFrameSize :=
    Nat.le_trans receivable usable.bounded
  have sameApi : asked.header.api = (broker.receive asked).1.api := by
    rw [isHeader]
    exact (broker.api_respond asked.request).symm
  have sameVersion : asked.header.version = asked.request.version := by
    rw [isHeader]
    rfl
  have read : Asked.ofPayload payload = .ok asked :=
    Asked.ofPayload_serialize
      (sameApi.trans (broker.api_respond asked.request)) sameVersion serialized
  have decoded :
      Response.ofPayload asked.header answer =
        .ok ((broker.receive asked).1.carried asked.request.version) := by
    rw [← sameVersion]
    exact Response.ofPayload_serialize sameApi answered
  have framing :
      task.Framed exchange.config point.terms point.nextId
        (some asked.header, FrameCodec.frame payload) := by
    rw [isHeader] at serialized ⊢
    exact .request isRequest serialized
      (FrameCodec.encode_eq_ok_iff.mpr ⟨sendable, sendable, rfl⟩)
  refine ⟨⟨asked, payload, answer⟩,
    [.framed (some asked.header) (FrameCodec.frame payload), .flushed,
      .taken answer,
      .decoded asked.header
        ((broker.receive asked).1.carried asked.request.version)],
    rfl, ?_⟩
  constructor
  case leads =>
    let doing (activity : Activity) : Point :=
      { point with nextId := point.nextId + 1, activity := activity }
    have frames :
        exchange.Moves point
          [.framed (some asked.header) (FrameCodec.frame payload)]
          (doing (.writing task (some asked.header))) :=
      .framed ready framing
    have flushes :
        exchange.Moves (doing (.writing task (some asked.header))) [.flushed]
          (doing (.awaiting task (some asked.header))) :=
      .flushed rfl
    have takes :
        exchange.Moves (doing (.awaiting task (some asked.header)))
          [.taken answer] (doing (.received task asked.header answer)) :=
      .taken rfl answer
    have decodes :
        exchange.Moves (doing (.received task asked.header answer)) _ _ :=
      .decoded rfl decoded
    have course := Exchange.Leads.move frames
      (.move flushes (.move takes (.move decodes goesOn.leads)))
    exact course
  case handles =>
    exact .round read (Broker.handle_of_ofPayload read answered fitsFrame) goesOn.handles
  case frames =>
    exact congrArg (FrameCodec.frame payload :: ·) goesOn.frames
  case payloads =>
    exact congrArg (answer :: ·) goesOn.payloads
  case sendable =>
    exact List.forall_mem_cons.mpr
      ⟨FrameCodec.takes_of_le sendable sendable, goesOn.sendable⟩
  case receivable =>
    exact List.forall_mem_cons.mpr
      ⟨FrameCodec.takes_of_le receivable fitsFrame, goesOn.receivable⟩

end Passage

end BrokerSession
