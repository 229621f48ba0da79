import BrokerSession.Session.Basic

namespace BrokerSession

/-!
# Advancing a session

Whenever the transport may have become readable or writable, `authenticate`
advances the session as far as it goes without blocking.  What is left of a
frame is written first.  Then the handler of the current stage runs; accepting
a list of versions or a handshake goes on to the next request within the same
call.  Any failure is final.
-/

/-- A computation over a session that keeps its effects when it fails. -/
abbrev SessionM (Client : Type) := EStateM SessionError (Session Client)

namespace Session

variable {Client : Type}

/-! ## Writing -/

/-- Write what the transport accepts; the answer is whether nothing is left. -/
def flush : SessionM Client Bool := do
  let session ← get
  match session.outgoing with
  | none =>
      modify settle
      return true
  | some outgoing =>
      let (outcome, outgoing, transport) := outgoing.writeTo session.transport
      set { session with outgoing := some outgoing, transport := transport }
      match outcome with
      | .error cause => throw (.ofIo session.node cause)
      | .ok written =>
          modify fun session =>
            { session with ledger := session.ledger.recordSent written }
          if outgoing.isComplete then
            modify settle
            return true
          else
            modify fun session => session.setWriteInterest true
            return false

def send (header : Option RequestHeader) (outgoing : Outgoing) :
    SessionM Client Unit := do
  modify fun session =>
    { session.note (.framed header outgoing.remaining) with
      outgoing := some outgoing }
  discard flush

/-- Draw the next request header, which becomes the outstanding one. -/
def nextHeader (api : ApiKey) (version : Int16) :
    SessionM Client RequestHeader := do
  let session ← get
  let header : RequestHeader :=
    { api, version
      correlationId := session.correlationId
      clientId := session.config.clientId }
  set
    { session with
      correlationId := session.correlationId + 1
      outstanding := some header }
  return header

/-- Send a request under the next header. -/
def sendRequest (request : Request) : SessionM Client Unit := do
  let header ← nextHeader request.api request.version
  match request.toOutgoing (← get).node header with
  | .error cause => throw cause
  | .ok outgoing =>
      modify fun session =>
        { session with ledger := session.ledger.recordRequest }
      send (some header) outgoing

/-- The next token: the challenge itself if the server has to speak first. -/
def nextToken [Mechanism Client] (challenge : Bytes) (isInitial : Bool) :
    SessionM Client (Option Bytes) := do
  let session ← get
  if isInitial && !Mechanism.hasInitialResponse session.client then
    return some challenge
  else
    let (outcome, client) := Mechanism.evaluate session.client challenge
    set { session.note (.evaluated challenge outcome) with client := client }
    match outcome with
    | .ok token => return token
    | .error cause =>
        throw (.mechanism session.config.mechanism session.host cause)

/--
Send the mechanism's next token, wrapped if a version for that was negotiated.

The answer is false if there was nothing to send.
-/
def sendToken [Mechanism Client] (challenge : Bytes) (isInitial : Bool) :
    SessionM Client Bool := do
  if Mechanism.isComplete (← get).client then return false
  else
    match ← nextToken challenge isInitial with
    | none => return false
    | some token =>
        let session ← get
        match session.authenticateVersion with
        | some version =>
            sendRequest { body := .saslAuthenticate token, version }
        | none =>
            match Outgoing.ofPayload session.node token with
            | .error cause => throw (.io cause)
            | .ok outgoing => send none outgoing
        return true

/-! ## Reading -/

/-- The next frame, once it has arrived to its last byte. -/
def receiveFrame : SessionM Client (Option Bytes) := do
  let session ← get
  let incoming := session.incoming.getD
    (.start session.node session.config.maxReceiveSize)
  let (outcome, incoming, transport) := incoming.readFrom session.transport
  set { session with incoming := some incoming, transport := transport }
  match outcome with
  | .error cause =>
      if cause.kind = .invalidData then
        throw (.invalidSaslResponse (.io cause))
      else throw (.ofIo session.node cause)
  | .ok count =>
      modify fun session =>
        { session with ledger := session.ledger.recordReceived count }
      match incoming.payload with
      | none => return none
      | some payload =>
          modify fun session =>
            { session.note (.taken payload) with incoming := none }
          return some payload

/-- The response to the outstanding request, once it has arrived. -/
def receiveResponse : SessionM Client (Option Response) := do
  match ← receiveFrame with
  | none => return none
  | some payload =>
      let session ← get
      set { session with outstanding := none }
      match session.outstanding with
      | none =>
          throw (.illegalSaslState
            "Received a response with no request outstanding")
      | some header =>
          match Response.ofPayload header payload with
          | .error (.schema cause) =>
              throw (.invalidSaslResponse (.schema cause))
          | .error cause => throw cause
          | .ok response =>
              modify fun session =>
                { session.note (.decoded header response) with
                  ledger := session.ledger.recordResponse response.errorCounts }
              return some response

/-- The response to the outstanding request, as the API it should belong to. -/
def receiveAs {Content : Type}
    (convert : Response → Except SessionError Content) :
    SessionM Client (Option Content) := do
  match ← receiveResponse with
  | none => return none
  | some response =>
      match convert response with
      | .ok content => return some content
      | .error cause => throw cause

/-- The server's next token, unwrapped if tokens are wrapped. -/
def receiveToken : SessionM Client (Option Bytes) := do
  if (← get).authenticateVersion.isNone then receiveFrame
  else
    match ← receiveAs Response.toSaslAuthenticate with
    | none => return none
    | some response =>
        if response.error = .none then return some response.token
        else
          throw (.ofCode ApiKey.saslAuthenticate.name response.error
            response.errorMessage)

/-! ## Stages -/

def requestApiVersions : SessionM Client Unit := do
  sendRequest
    { body := .apiVersions, version := ApiKey.apiVersions.oldestVersion }
  modify (·.setStage .receiveApiVersionsResponse)

/-- Choose the versions to use; the answer is whether the list had arrived. -/
def acceptApiVersions : SessionM Client Bool := do
  match ← receiveAs Response.toApiVersions with
  | none => return false
  | some response =>
      if response.error = .none then
        let usable (api : ApiKey) : Option Int16 :=
          (response.apiVersion? api).map (·.usableVersion api.latestVersion)
        modify fun session =>
          { session with
            handshakeVersion := (usable .saslHandshake).getD 0
            authenticateVersion := usable .saslAuthenticate }
        modify (·.setStage .sendHandshakeRequest)
        return true
      else
        throw (.ofCode ApiKey.apiVersions.name response.error none)

def requestHandshake : SessionM Client Unit := do
  let session ← get
  sendRequest
    { body := .saslHandshake session.config.mechanism
      version := session.handshakeVersion }
  modify (·.setStage .receiveHandshakeResponse)

/-- Check the server's consent; the answer is whether it had arrived. -/
def acceptHandshake : SessionM Client Bool := do
  match ← receiveAs Response.toSaslHandshake with
  | none => return false
  | some response =>
      match response.check (← get).config.mechanism with
      | .error cause => throw cause
      | .ok () =>
          modify (·.setStage .initial)
          return true

def sendInitialToken [Mechanism Client] : SessionM Client Unit := do
  discard (sendToken [] true)
  modify (·.setStage .intermediate)

/-- Answer the server's token, and move on once the mechanism is complete. -/
def exchangeTokens [Mechanism Client] : SessionM Client Unit := do
  let noResponsesPending ←
    match ← receiveToken with
    | some token => (!·) <$> sendToken token false
    | none => pure false
  if Mechanism.isComplete (← get).client then
    modify fun session => session.setStage
      (.afterClientComplete session.authenticateVersion.isSome
        noResponsesPending)

def receiveFinalResponse : SessionM Client Unit := do
  if (← receiveToken).isSome then
    modify (·.setStage .complete)

def handle [Mechanism Client] : Stage → SessionM Client Unit
  | .sendApiVersionsRequest => requestApiVersions
  | .receiveApiVersionsResponse => do
      if ← acceptApiVersions then requestHandshake
  | .sendHandshakeRequest => requestHandshake
  | .receiveHandshakeResponse => do
      if ← acceptHandshake then sendInitialToken
  | .initial => sendInitialToken
  | .intermediate => exchangeTokens
  | .clientComplete => receiveFinalResponse
  | .complete | .failed => pure ()

/-- Finish the frame being written, then run the current stage. -/
def advance [Mechanism Client] : SessionM Client Unit := do
  if (← get).outgoing.isSome then
    if ← flush then handle (← get).stage
  else handle (← get).stage

/-- Count the first attempt to advance. -/
def begin (session : Session Client) : Session Client :=
  if session.started then session
  else
    { session with
      started := true, ledger := session.ledger.recordStarted }

/--
Advance the session as far as possible without blocking.

Success means that the session waits for input or output or is done; any
failure is final, and a session that has failed is not advanced again.
-/
def authenticate [Mechanism Client] (session : Session Client) :
    Except SessionError Unit × Session Client :=
  if session.stage = .failed then
    (.error (.handshakeTerminated session.node), session)
  else
    match advance.run session.begin with
    | .ok () later => (.ok (), later)
    | .error cause later => (.error cause, later.fail)

/-! ## Runs -/

/-- What the owner of a session, or its peer, may do. -/
inductive Operation where
  | authenticate
  | close
  | transport (step : Transport.Step)
  deriving Repr, DecidableEq

/-- Do an operation; only taking the outbound bytes has a result. -/
def perform [Mechanism Client] (session : Session Client) :
    Operation → Except SessionError (Option Bytes) × Session Client
  | .authenticate =>
      let (outcome, later) := session.authenticate
      (outcome.map fun _ => none, later)
  | .close => (.ok none, session.close)
  | .transport step =>
      let (taken, transport) := session.transport.perform step
      (.ok taken, { session with transport := transport })

def run [Mechanism Client] (session : Session Client)
    (operations : List Operation) : Session Client :=
  operations.foldl (fun session operation => (session.perform operation).2)
    session

end Session

end BrokerSession
