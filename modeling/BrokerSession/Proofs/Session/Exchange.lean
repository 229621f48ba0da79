import BrokerSession.Proofs.Channel.Frame
import BrokerSession.Proofs.Sasl.Progress
import BrokerSession.Proofs.Session.Journal

namespace BrokerSession

/-!
# The script of an exchange

Whatever the transport and the peer do, a session with one of the supported
mechanisms follows a script: it frames a request or a token, flushes the frame,
takes a frame in answer and decodes it, and only then goes on.  `Script` says
which journals this allows and at which point of the exchange each of them
ends.  It knows nothing about stages, budgets or interrupted calls.
-/

/-- The versions that a session goes by. -/
structure Terms where
  handshakeVersion : Int16 := 0
  /-- The version at which tokens are wrapped; without one they travel raw. -/
  authenticateVersion : Option Int16 := none

/-- The versions that a peer's list leaves to use. -/
def Terms.ofResponse (response : ApiVersionsResponse) : Terms :=
  let usable (api : ApiKey) : Option Int16 :=
    (response.apiVersion? api).map (·.usableVersion api.latestVersion)
  { handshakeVersion := (usable .saslHandshake).getD 0
    authenticateVersion := usable .saslAuthenticate }

/-- The error code of a response as a whole. -/
def Response.error : Response → ErrorCode
  | .apiVersions response => response.error
  | .saslHandshake response => response.error
  | .saslAuthenticate response => response.error
  | .stopReplica response => response.error

/-- Only a list of versions is taken for one. -/
theorem Response.eq_of_toApiVersions {response : Response}
    {content : ApiVersionsResponse}
    (converted : response.toApiVersions = .ok content) :
    response = .apiVersions content := by
  cases response <;> cases converted
  rfl

/-- Only an answer to a handshake is taken for one. -/
theorem Response.eq_of_toSaslHandshake {response : Response}
    {content : SaslHandshakeResponse}
    (converted : response.toSaslHandshake = .ok content) :
    response = .saslHandshake content := by
  cases response <;> cases converted
  rfl

/-- Only an answer to a token is taken for one. -/
theorem Response.eq_of_toSaslAuthenticate {response : Response}
    {content : SaslAuthenticateResponse}
    (converted : response.toSaslAuthenticate = .ok content) :
    response = .saslAuthenticate content := by
  cases response <;> cases converted
  rfl

/-- What one frame is sent for. -/
inductive Task where
  | versions
  | handshake
  | token (content : Bytes)

namespace Task

/-- The API that a task asks, if it asks one. -/
def api : Task → ApiKey
  | .versions => .apiVersions
  | .handshake => .saslHandshake
  | .token _ => .saslAuthenticate

/-- Whether a task is sent as a request. -/
def isWrapped (terms : Terms) : Task → Bool
  | .token _ => terms.authenticateVersion.isSome
  | _ => true

/-- The request of a task; a token may travel without one. -/
def request? (config : Config) (terms : Terms) : Task → Option Request
  | .versions =>
      some
        { body := .apiVersions, version := ApiKey.apiVersions.oldestVersion }
  | .handshake =>
      some
        { body := .saslHandshake config.mechanism
          version := terms.handshakeVersion }
  | .token content =>
      terms.authenticateVersion.map fun version =>
        { body := .saslAuthenticate content, version }

/-- The header that a session with a configuration gives to a request. -/
def headerOf (config : Config) (correlationId : Int32) (request : Request) :
    RequestHeader :=
  { api := request.api, version := request.version, correlationId
    clientId := config.clientId }

/-- How the frame of a task is made, under the next correlation id. -/
inductive Framed (config : Config) (terms : Terms) (correlationId : Int32) :
    Task → Framing → Prop where
  | request {task : Task} {request : Request} {payload frame : Bytes}
      (asked : task.request? config terms = some request)
      (serialized :
        request.serialize (headerOf config correlationId request) =
          .ok payload)
      (encoded : FrameCodec.unlimited.encode payload = .ok frame) :
      Framed config terms correlationId task
        (some (headerOf config correlationId request), frame)
  | raw {token frame : Bytes}
      (unwrapped : terms.authenticateVersion = none)
      (encoded : FrameCodec.unlimited.encode token = .ok frame) :
      Framed config terms correlationId (.token token) (none, frame)

variable {config : Config} {terms : Terms} {correlationId : Int32}
  {task : Task} {request : Request} {framing : Framing}

/-- A task is requested from its own API. -/
theorem api_request (asked : task.request? config terms = some request) :
    request.api = task.api := by
  cases task with
  | versions =>
      cases asked
      rfl
  | handshake =>
      cases asked
      rfl
  | token content =>
      obtain ⟨version, -, rfl⟩ := Option.map_eq_some_iff.mp asked
      rfl

/-- A task that sends a request is wrapped. -/
theorem isWrapped_of_request
    (asked : task.request? config terms = some request) :
    task.isWrapped terms = true := by
  cases task with
  | versions =>
      rfl
  | handshake =>
      rfl
  | token content =>
      obtain ⟨version, isVersion, -⟩ := Option.map_eq_some_iff.mp asked
      rw [isWrapped, isVersion]
      rfl

namespace Framed

/-- The frame of a task names the API of the task. -/
theorem api_eq (framed : task.Framed config terms correlationId framing) :
    ∀ header ∈ framing.1, header.api = task.api := by
  cases framed with
  | request asked serialized encoded =>
      rintro _ ⟨⟩
      exact api_request asked
  | raw unwrapped encoded =>
      rintro _ ⟨⟩

/-- The frame of a task has a header exactly if the task is wrapped. -/
theorem isSome_eq (framed : task.Framed config terms correlationId framing) :
    framing.1.isSome = task.isWrapped terms := by
  cases framed with
  | request asked serialized encoded =>
      rw [isWrapped_of_request asked]
      rfl
  | raw unwrapped encoded =>
      rw [isWrapped, unwrapped]
      rfl

/-- The frame of a task carries the number that was drawn for it. -/
theorem correlationId_eq
    (framed : task.Framed config terms correlationId framing) :
    ∀ header ∈ framing.1, header.correlationId = correlationId := by
  cases framed with
  | request asked serialized encoded =>
      rintro _ ⟨⟩
      rfl
  | raw unwrapped encoded =>
      rintro _ ⟨⟩

/-- Every frame is a payload behind its size. -/
theorem exists_payload
    (framed : task.Framed config terms correlationId framing) :
    ∃ payload : Bytes,
      payload.length ≤ maxFrameSize ∧ framing.2 = FrameCodec.frame payload := by
  cases framed with
  | request asked serialized encoded =>
      obtain ⟨-, fits, shape⟩ := FrameCodec.encode_eq_ok_iff.mp encoded
      exact ⟨_, fits, shape⟩
  | raw unwrapped encoded =>
      obtain ⟨-, fits, shape⟩ := FrameCodec.encode_eq_ok_iff.mp encoded
      exact ⟨_, fits, shape⟩

/-- Asking for versions does not depend on what they settle. -/
theorem of_versions (framed : Framed config terms correlationId .versions framing)
    (later : Terms) :
    Framed config later correlationId .versions framing := by
  cases framed with
  | request asked serialized encoded =>
      exact .request asked serialized encoded

end Framed

end Task

/-- What a session is about to do, or waits for. -/
inductive Activity where
  /-- A task is about to be framed. -/
  | ready (task : Task)
  /-- The frame of a task is not flushed yet. -/
  | writing (task : Task) (header : Option RequestHeader)
  | awaiting (task : Task) (header : Option RequestHeader)
  /-- The answer to a request was taken but not decoded yet. -/
  | received (task : Task) (header : RequestHeader) (payload : Bytes)
  | answered (task : Task) (response : Response)
  /-- A challenge is about to be evaluated. -/
  | challenged (challenge : Bytes)
  /-- The mechanism had nothing more to send. -/
  | silent
  | refused

namespace Activity

/-- The header of the request that is outstanding. -/
def header? : Activity → Option RequestHeader
  | .writing _ header => header
  | .awaiting _ header => header
  | .received _ header _ => some header
  | _ => none

/-- Whether a frame is being written. -/
def isWriting : Activity → Bool
  | .writing .. => true
  | _ => false

/-- Whether an answer is awaited. -/
def isAwaiting : Activity → Bool
  | .awaiting .. => true
  | _ => false

/-- Nothing is awaited while a frame is written. -/
theorem isWriting_of_isAwaiting {activity : Activity}
    (awaits : activity.isAwaiting = true) : activity.isWriting = false := by
  cases activity with
  | writing =>
      cases awaits
  | _ =>
      rfl

/-- What follows once a frame is taken: a raw one is a challenge. -/
def afterTaking (task : Task) (header : Option RequestHeader)
    (payload : Bytes) : Activity :=
  match header with
  | some request => .received task request payload
  | none => .challenged payload

/-- What follows once a challenge is evaluated. -/
def afterEvaluation :
    Except MechanismError (Option Bytes) → Activity
  | .ok (some token) => .ready (.token token)
  | .ok none => .silent
  | .error _ => .refused

/-- What a session begins with. -/
def first (config : Config) : Activity :=
  if config.handshakeRequestEnable then .ready .versions else .challenged []

end Activity

/-- A point of an exchange. -/
structure Point where
  client : SaslClient
  terms : Terms := {}
  /-- The correlation id of the next request. -/
  nextId : Int32 := -1
  activity : Activity

/-- The parties of an exchange before it begins. -/
structure Exchange where
  config : Config
  node : String
  host : String
  client : SaslClient

namespace Exchange

/-- Where an exchange begins. -/
def start (exchange : Exchange) : Point where
  client := exchange.client
  activity := .first exchange.config

/-- An exchange starts with what its configuration tells it to do first. -/
theorem activity_start (exchange : Exchange) :
    exchange.start.activity = .first exchange.config :=
  rfl

/--
One move of an exchange, with the events it leaves in the journal.

A response is not acted upon unless it reports no error, and the mechanism is
not asked again once it is complete.
-/
inductive Moves (exchange : Exchange) (point : Point) :
    List Event → Point → Prop where
  | framed {task : Task} {header : Option RequestHeader} {frame : Bytes}
      (ready : point.activity = .ready task)
      (framed :
        task.Framed exchange.config point.terms point.nextId (header, frame)) :
      Moves exchange point [.framed header frame]
        { point with
          nextId := if header.isSome then point.nextId + 1 else point.nextId
          activity := .writing task header }
  | flushed {task : Task} {header : Option RequestHeader}
      (writing : point.activity = .writing task header) :
      Moves exchange point [.flushed]
        { point with activity := .awaiting task header }
  | taken {task : Task} {header : RequestHeader}
      (awaiting : point.activity = .awaiting task (some header))
      (payload : Bytes) :
      Moves exchange point [.taken payload]
        { point with activity := .received task header payload }
  | takenRaw {task : Task}
      (awaiting : point.activity = .awaiting task none) (payload : Bytes) :
      Moves exchange point [.taken payload]
        { point with activity := .challenged payload }
  | decoded {task : Task} {header : RequestHeader} {payload : Bytes}
      {response : Response}
      (received : point.activity = .received task header payload)
      (decoded : Response.ofPayload header payload = .ok response) :
      Moves exchange point [.decoded header response]
        { point with activity := .answered task response }
  | settled {response : ApiVersionsResponse}
      (answered : point.activity = .answered .versions (.apiVersions response))
      (succeeded : response.error = .none) :
      Moves exchange point []
        { point with
          terms := .ofResponse response
          activity := .ready .handshake }
  | admitted {response : SaslHandshakeResponse}
      (answered :
        point.activity = .answered .handshake (.saslHandshake response))
      (succeeded : response.error = .none) :
      Moves exchange point [] { point with activity := .challenged [] }
  | unwrapped {token : Bytes} {response : SaslAuthenticateResponse}
      (answered :
        point.activity = .answered (.token token) (.saslAuthenticate response))
      (succeeded : response.error = .none) :
      Moves exchange point []
        { point with activity := .challenged response.token }
  | evaluated {challenge : Bytes}
      {outcome : Except MechanismError (Option Bytes)} {next : SaslClient}
      (challenged : point.activity = .challenged challenge)
      (incomplete : Mechanism.isComplete point.client = false)
      (evaluated :
        Mechanism.evaluate point.client challenge = (outcome, next)) :
      Moves exchange point [.evaluated challenge outcome]
        { point with
          client := next
          activity := .afterEvaluation outcome }

end Exchange

/-- The journals of an exchange, with the points they end at. -/
inductive Script (exchange : Exchange) : Point → List Event → Prop where
  | start : Script exchange exchange.start []
  | move {point next : Point} {journal events : List Event}
      (script : Script exchange point journal)
      (moves : exchange.Moves point events next) :
      Script exchange next (journal ++ events)

namespace Script

variable {exchange : Exchange} {point next : Point} {journal : List Event}

/-- A move that leaves no event leaves the journal as it is. -/
theorem moveSilently (script : Script exchange point journal)
    (moves : exchange.Moves point [] next) : Script exchange next journal := by
  have moved := script.move moves
  rwa [List.append_nil] at moved

/-- Induction on a script, with one case for each kind of move. -/
@[elab_as_elim, induction_eliminator]
theorem inductMoves {exchange : Exchange}
    {motive :
      (point : Point) → (journal : List Event) →
        Script exchange point journal → Prop}
    (start : motive exchange.start [] .start)
    (framed :
      ∀ {point : Point} {journal : List Event} {task : Task}
        {header : Option RequestHeader} {frame : Bytes}
        (script : Script exchange point journal)
        (ready : point.activity = .ready task)
        (framed :
          task.Framed exchange.config point.terms point.nextId
            (header, frame)),
        motive point journal script →
          motive _ _ (script.move (.framed ready framed)))
    (flushed :
      ∀ {point : Point} {journal : List Event} {task : Task}
        {header : Option RequestHeader}
        (script : Script exchange point journal)
        (writing : point.activity = .writing task header),
        motive point journal script →
          motive _ _ (script.move (.flushed writing)))
    (taken :
      ∀ {point : Point} {journal : List Event} {task : Task}
        {header : RequestHeader} (script : Script exchange point journal)
        (awaiting : point.activity = .awaiting task (some header))
        (payload : Bytes),
        motive point journal script →
          motive _ _ (script.move (.taken awaiting payload)))
    (takenRaw :
      ∀ {point : Point} {journal : List Event} {task : Task}
        (script : Script exchange point journal)
        (awaiting : point.activity = .awaiting task none) (payload : Bytes),
        motive point journal script →
          motive _ _ (script.move (.takenRaw awaiting payload)))
    (decoded :
      ∀ {point : Point} {journal : List Event} {task : Task}
        {header : RequestHeader} {payload : Bytes} {response : Response}
        (script : Script exchange point journal)
        (received : point.activity = .received task header payload)
        (decoded : Response.ofPayload header payload = .ok response),
        motive point journal script →
          motive _ _ (script.move (.decoded received decoded)))
    (settled :
      ∀ {point : Point} {journal : List Event}
        {response : ApiVersionsResponse}
        (script : Script exchange point journal)
        (answered :
          point.activity = .answered .versions (.apiVersions response))
        (succeeded : response.error = .none),
        motive point journal script →
          motive _ journal
            (script.moveSilently (.settled answered succeeded)))
    (admitted :
      ∀ {point : Point} {journal : List Event}
        {response : SaslHandshakeResponse}
        (script : Script exchange point journal)
        (answered :
          point.activity = .answered .handshake (.saslHandshake response))
        (succeeded : response.error = .none),
        motive point journal script →
          motive _ journal
            (script.moveSilently (.admitted answered succeeded)))
    (unwrapped :
      ∀ {point : Point} {journal : List Event} {token : Bytes}
        {response : SaslAuthenticateResponse}
        (script : Script exchange point journal)
        (answered :
          point.activity =
            .answered (.token token) (.saslAuthenticate response))
        (succeeded : response.error = .none),
        motive point journal script →
          motive _ journal
            (script.moveSilently (.unwrapped answered succeeded)))
    (evaluated :
      ∀ {point : Point} {journal : List Event} {challenge : Bytes}
        {outcome : Except MechanismError (Option Bytes)} {next : SaslClient}
        (script : Script exchange point journal)
        (challenged : point.activity = .challenged challenge)
        (incomplete : Mechanism.isComplete point.client = false)
        (evaluated :
          Mechanism.evaluate point.client challenge = (outcome, next)),
        motive point journal script →
          motive _ _ (script.move (.evaluated challenged incomplete evaluated)))
    {point : Point} {journal : List Event}
    (script : Script exchange point journal) : motive point journal script := by
  induction script using Script.rec with
  | start =>
      exact start
  | @move point next journal events script moves inductionHypothesis =>
      cases moves with
      | framed ready isFrame =>
          exact framed script ready isFrame inductionHypothesis
      | flushed writing =>
          exact flushed script writing inductionHypothesis
      | taken awaiting payload =>
          exact taken script awaiting payload inductionHypothesis
      | takenRaw awaiting payload =>
          exact takenRaw script awaiting payload inductionHypothesis
      | decoded received isResponse =>
          exact decoded script received isResponse inductionHypothesis
      | settled answered succeeded =>
          have moved := settled script answered succeeded inductionHypothesis
          simpa only [List.append_nil] using moved
      | admitted answered succeeded =>
          have moved := admitted script answered succeeded inductionHypothesis
          simpa only [List.append_nil] using moved
      | unwrapped answered succeeded =>
          have moved := unwrapped script answered succeeded inductionHypothesis
          simpa only [List.append_nil] using moved
      | evaluated challenged incomplete isOutcome =>
          exact evaluated script challenged incomplete isOutcome
            inductionHypothesis

end Script

end BrokerSession
