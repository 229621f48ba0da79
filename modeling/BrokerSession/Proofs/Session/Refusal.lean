import BrokerSession.Proofs.Channel.Patience
import BrokerSession.Proofs.Session.Envelope
import BrokerSession.Proofs.Session.Exchange

namespace BrokerSession

/-!
# Why an exchange is given up

An exchange comes to an end where nothing can be sent or where the peer's
answer cannot be accepted.  `Refuses` lists these ends, each with the failure
that it means to the session.  Failures of the transport are not among them.
-/

/-! ## Responses -/

/-- A response is decoded as one of the API that was asked. -/
theorem Response.api_of_parse {api : ApiKey} {version : Int16} {body : Bytes}
    {response : Response} (parsed : parse api version body = .ok response) :
    response.api = api := by
  have exactly (otherVersion : Int16)
      (decoded : parseExact api otherVersion body = .ok response) :
      response.api = api := by
    unfold parseExact at decoded
    split at decoded
    · unfold ofRecord at decoded
      cases api <;>
        (obtain ⟨content, -, returned⟩ := except_bind_eq_ok_iff.mp decoded
         cases returned
         rfl)
    · cases decoded
  unfold parse at parsed
  split at parsed
  · exact exactly 0 parsed
  · exact exactly version parsed

/-- A response is decoded by the API of its request. -/
theorem Response.api_of_ofPayload {header : RequestHeader} {payload : Bytes}
    {response : Response}
    (decoded : ofPayload header payload = .ok response) :
    response.api = header.api := by
  obtain ⟨body, -, parsed⟩ := ofPayload_eq_ok_iff.mp decoded
  exact api_of_parse parsed

/--
The failure that a decoded response means to a session, if it is one.

A refused version query is reported without a text from the server, a refused
token with the server's own text, and a refused handshake with the mechanisms
that the server would have taken.
-/
def Response.rejection? (mechanism : String) :
    Response → Option SessionError
  | .apiVersions response =>
      match response.error with
      | .none => none
      | code => some (.ofCode "ApiVersions" code none)
  | .saslHandshake response =>
      let enabled := Text.quotedList response.enabledMechanisms
      match response.error with
      | .none => none
      | .unsupportedSaslMechanism =>
          some (.unsupportedSaslMechanism mechanism response.enabledMechanisms)
      | .illegalSaslState =>
          some (.illegalSaslState
            s!"Unexpected handshake request with client mechanism {mechanism}, enabled mechanisms are {enabled}")
      | code =>
          some (.saslAuthentication
            s!"Unknown error code {code.display}, client mechanism is {mechanism}, enabled mechanisms are {enabled}")
  | .saslAuthenticate response =>
      match response.error with
      | .none => none
      | code =>
          some (.ofCode "SaslAuthenticate" code response.errorMessage)
  | .stopReplica _ => none

/-- Only a response without an error is not a failure. -/
theorem Response.error_ne_none_of_rejection {mechanism : String}
    {response : Response} {cause : SessionError}
    (rejected : response.rejection? mechanism = some cause) :
    response.error ≠ .none := by
  intro succeeded
  cases response with
  | stopReplica =>
      cases rejected
  | apiVersions response | saslHandshake response | saslAuthenticate response =>
      have noError : response.error = .none := succeeded
      simp only [rejection?, noError] at rejected
      cases rejected

/-- A list of versions with an error is rejected with this error. -/
theorem Response.rejection_apiVersions {mechanism : String}
    {response : ApiVersionsResponse} (failed : response.error ≠ .none) :
    rejection? mechanism (.apiVersions response) =
      some (.ofCode "ApiVersions" response.error none) := by
  simp only [rejection?]

/-- A refused token is rejected with the server's error and explanation. -/
theorem Response.rejection_saslAuthenticate {mechanism : String}
    {response : SaslAuthenticateResponse} (failed : response.error ≠ .none) :
    rejection? mechanism (.saslAuthenticate response) =
      some
        (.ofCode "SaslAuthenticate" response.error response.errorMessage) := by
  simp only [rejection?]

/-- The check of a handshake passes only if the server consents. -/
theorem SaslHandshakeResponse.error_eq_none {mechanism : String}
    {response : SaslHandshakeResponse}
    (checked : response.check mechanism = .ok ()) : response.error = .none := by
  rw [check] at checked
  split at checked
  · assumption
  · cases checked
  · cases checked
  · cases checked

/-- A handshake is refused exactly as the check of its response says. -/
theorem Response.rejection_saslHandshake (mechanism : String)
    (response : SaslHandshakeResponse) :
    rejection? mechanism (.saslHandshake response) =
      match response.check mechanism with
      | .ok () => none
      | .error cause => some cause := by
  unfold rejection? SaslHandshakeResponse.check
  dsimp only
  cases response.error <;> rfl

/-- Every response that a session asks for says whether it is a failure. -/
theorem Response.exists_rejection (mechanism : String) {response : Response}
    (asked : response.api ≠ .stopReplica) (failed : response.error ≠ .none) :
    ∃ cause, response.rejection? mechanism = some cause := by
  cases response with
  | stopReplica =>
      exact (asked rfl).elim
  | apiVersions response =>
      exact ⟨_, rejection_apiVersions failed⟩
  | saslAuthenticate response =>
      exact ⟨_, rejection_saslAuthenticate failed⟩
  | saslHandshake response =>
      rw [rejection_saslHandshake]
      cases checked : response.check mechanism with
      | error cause =>
          exact ⟨cause, rfl⟩
      | ok =>
          exact (failed (SaslHandshakeResponse.error_eq_none checked)).elim

/-! Of each API that a session asks there is one kind of response. -/

/-- Who asked for the versions gets a list of them. -/
theorem Response.exists_toApiVersions (response : Response)
    (asked : response.api = .apiVersions) :
    ∃ content, response.toApiVersions = .ok content := by
  cases response <;> cases asked
  exact ⟨_, rfl⟩

/-- Who proposed a mechanism gets an answer to the proposal. -/
theorem Response.exists_toSaslHandshake (response : Response)
    (asked : response.api = .saslHandshake) :
    ∃ content, response.toSaslHandshake = .ok content := by
  cases response <;> cases asked
  exact ⟨_, rfl⟩

/-- Who sent a token gets an answer to the token. -/
theorem Response.exists_toSaslAuthenticate (response : Response)
    (asked : response.api = .saslAuthenticate) :
    ∃ content, response.toSaslAuthenticate = .ok content := by
  cases response <;> cases asked
  exact ⟨_, rfl⟩

/-- What a payload that cannot be decoded means to a session. -/
def SessionError.ofUndecodable : SessionError → SessionError
  | .schema cause => .invalidSaslResponse (.schema cause)
  | cause => cause

/-! ## Ends of an exchange -/

namespace Exchange

/--
The failure with which an exchange ends at a point, given the bytes of the
frame that is being read.
-/
inductive Refuses (exchange : Exchange) (point : Point)
    (journal : List Event) : Bytes → SessionError → Prop where
  | unsendable {task : Task} {request : Request} {cause : SessionError}
      (ready : point.activity = .ready task)
      (asked :
        task.request? exchange.config point.terms = some request)
      (refused :
        request.toOutgoing exchange.node
            (Task.headerOf exchange.config point.nextId request) =
          .error cause) :
      Refuses exchange point journal [] cause
  | unsendableToken {token : Bytes} {cause : IoError}
      (ready : point.activity = .ready (.token token))
      (unwrapped : point.terms.authenticateVersion = none)
      (refused : Outgoing.ofPayload exchange.node token = .error cause) :
      Refuses exchange point journal [] (.io cause)
  /-- The peer announces a frame whose size is out of range. -/
  | malformed {task : Task} {header : Option RequestHeader} {held : Bytes}
      {failure : IoError}
      (awaiting : point.activity = .awaiting task header)
      (malformed :
        Incoming.IsMalformed exchange.config.maxReceiveSize held failure) :
      Refuses exchange point journal held (.invalidSaslResponse (.io failure))
  | undecodable {task : Task} {header : RequestHeader} {payload : Bytes}
      {cause : SessionError}
      (received : point.activity = .received task header payload)
      (refused : Response.ofPayload header payload = .error cause) :
      Refuses exchange point journal [] cause.ofUndecodable
  | rejected {task : Task} {response : Response} {cause : SessionError}
      (answered : point.activity = .answered task response)
      (rejected :
        response.rejection? exchange.config.mechanism = some cause) :
      Refuses exchange point journal [] cause
  | mechanism {earlier : List Event} {challenge : Bytes}
      {cause : MechanismError}
      (refused : point.activity = .refused)
      (last : journal = earlier ++ [.evaluated challenge (.error cause)]) :
      Refuses exchange point journal []
        (.mechanism exchange.config.mechanism exchange.host cause)

namespace Refuses

variable {exchange : Exchange} {point : Point} {journal : List Event}
  {held : Bytes} {cause : SessionError}

/-- A session that is ready is refused its own frame only. -/
theorem of_ready {task : Task}
    (refuses : exchange.Refuses point journal held cause)
    (ready : point.activity = .ready task) :
    held = [] ∧
      ((∃ request,
          task.request? exchange.config point.terms = some request ∧
            request.toOutgoing exchange.node
                (Task.headerOf exchange.config point.nextId request) =
              .error cause) ∨
        ∃ token failure,
          task = .token token ∧ point.terms.authenticateVersion = none ∧
            Outgoing.ofPayload exchange.node token = .error failure ∧
            cause = .io failure) := by
  cases refuses with
  | unsendable other asked refused =>
      cases ready.symm.trans other
      exact ⟨rfl, Or.inl ⟨_, asked, refused⟩⟩
  | unsendableToken other unwrapped refused =>
      cases ready.symm.trans other
      exact ⟨rfl, Or.inr ⟨_, _, rfl, unwrapped, refused, rfl⟩⟩
  | malformed other | undecodable other | rejected other | mechanism other =>
      cases ready.symm.trans other

/-- A session that awaits a frame is refused by its size only. -/
theorem of_awaiting {task : Task} {header : Option RequestHeader}
    (refuses : exchange.Refuses point journal held cause)
    (awaiting : point.activity = .awaiting task header) :
    ∃ failure,
      Incoming.IsMalformed exchange.config.maxReceiveSize held failure ∧
        cause = .invalidSaslResponse (.io failure) := by
  cases refuses with
  | malformed _ malformed =>
      exact ⟨_, malformed, rfl⟩
  | unsendable other | unsendableToken other | undecodable other
  | rejected other | mechanism other =>
      cases awaiting.symm.trans other

/-- A payload that was taken is refused if it cannot be decoded. -/
theorem of_received {task : Task} {header : RequestHeader} {payload : Bytes}
    (refuses : exchange.Refuses point journal held cause)
    (received : point.activity = .received task header payload) :
    held = [] ∧
      ∃ refusal,
        Response.ofPayload header payload = .error refusal ∧
          cause = refusal.ofUndecodable := by
  cases refuses with
  | undecodable other refused =>
      cases received.symm.trans other
      exact ⟨rfl, _, refused, rfl⟩
  | unsendable other | unsendableToken other | malformed other
  | rejected other | mechanism other =>
      cases received.symm.trans other

/-- A response is refused for the error that it carries. -/
theorem of_answered {task : Task} {response : Response}
    (refuses : exchange.Refuses point journal held cause)
    (answered : point.activity = .answered task response) :
    held = [] ∧
      response.rejection? exchange.config.mechanism = some cause := by
  cases refuses with
  | rejected other rejected =>
      cases answered.symm.trans other
      exact ⟨rfl, rejected⟩
  | unsendable other | unsendableToken other | malformed other
  | undecodable other | mechanism other =>
      cases answered.symm.trans other

/-- A mechanism refuses the challenge that was evaluated last. -/
theorem of_refused (refuses : exchange.Refuses point journal held cause)
    (refused : point.activity = .refused) :
    held = [] ∧
      ∃ earlier challenge refusal,
        journal = earlier ++ [.evaluated challenge (.error refusal)] ∧
          cause =
            .mechanism exchange.config.mechanism exchange.host refusal := by
  cases refuses with
  | mechanism _ last =>
      exact ⟨rfl, _, _, _, last, rfl⟩
  | unsendable other | unsendableToken other | malformed other
  | undecodable other | rejected other =>
      cases refused.symm.trans other

/-- The mechanism refuses what it was asked, not that it is asked. -/
theorem not_challenged {challenge : Bytes}
    (refuses : exchange.Refuses point journal held cause) :
    point.activity ≠ .challenged challenge := by
  intro challenged
  cases refuses with
  | unsendable other | unsendableToken other | malformed other
  | undecodable other | rejected other | mechanism other =>
      cases challenged.symm.trans other

/-- Nothing is refused once an exchange has fallen silent. -/
theorem not_silent (refuses : exchange.Refuses point journal held cause) :
    point.activity ≠ .silent := by
  intro silent
  cases refuses with
  | unsendable other | unsendableToken other | malformed other
  | undecodable other | rejected other | mechanism other =>
      cases silent.symm.trans other

end Refuses

end Exchange

end BrokerSession
