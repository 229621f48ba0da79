import BrokerSession.Proofs.Computation
import BrokerSession.Proofs.Session.Pace
import Mathlib.Logic.Relation

namespace BrokerSession

/-!
# The deeds of a session

Handlers change a session by deeds: they write a part of a frame, read a part
of one, note an event, move on.  The handlers are followed through once, with
any mechanism, so that a property of sessions is shown deed by deed.  A call
that fails does so after a row of deeds, for one of three reasons, and it reads
from its transport at most once, before everything else that its handler does.
-/

/-- Whether a failure says that a session has already come to its end. -/
def SessionError.IsTermination : SessionError → Prop
  | .handshakeTerminated _ => True
  | _ => False

namespace Session

variable {Client : Type}

/-- One thing that a handler does to its session. -/
inductive Deed (session : Session Client) : Session Client → Prop where
  /-- A part of the frame was accepted by the transport. -/
  | wrote {outgoing left : Outgoing} {transport : Transport} {count : Nat}
      (current : session.outgoing = some outgoing)
      (outcome :
        outgoing.writeTo session.transport = (.ok count, left, transport)) :
      Deed session
        { session with
          outgoing := some left
          transport := transport
          ledger := session.ledger.recordSent count }
  | waits : Deed session (session.setWriteInterest true)
  | settled : Deed session session.settle
  /-- The next header becomes the outstanding one. -/
  | drew (header : RequestHeader) :
      Deed session
        { session with
          correlationId := session.correlationId + 1
          outstanding := some header }
  /-- A payload was framed, and counted if it is a request. -/
  | framed (header : Option RequestHeader) (outgoing : Outgoing) :
      Deed session
        { session.note (.framed header outgoing.remaining) with
          outgoing := some outgoing
          ledger :=
            if header.isSome then session.ledger.recordRequest
            else session.ledger }
  | evaluated (challenge : Bytes)
      (outcome : Except MechanismError (Option Bytes)) (client : Client) :
      Deed session
        { session.note (.evaluated challenge outcome) with client := client }
  /-- A part of a frame was taken from the transport. -/
  | read {incoming left : Incoming} {transport : Transport} {count : Nat}
      (outcome :
        incoming.readFrom session.transport = (.ok count, left, transport)) :
      Deed session
        { session with
          incoming := some left
          transport := transport
          ledger := session.ledger.recordReceived count }
  | taken (payload : Bytes) :
      Deed session { session.note (.taken payload) with incoming := none }
  | dropped : Deed session { session with outstanding := none }
  | decoded {header : RequestHeader} {payload : Bytes} {response : Response}
      (isResponse : Response.ofPayload header payload = .ok response) :
      Deed session
        { session.note (.decoded header response) with
          ledger := session.ledger.recordResponse response.errorCounts }
  | agreed (handshakeVersion : Int16) (authenticateVersion : Option Int16) :
      Deed session
        { session with
          handshakeVersion := handshakeVersion
          authenticateVersion := authenticateVersion }
  | moved {stage : Stage} (goesOn : stage.isTerminal = false) :
      Deed session (session.setStage stage)

/-- Any number of deeds, one after the other. -/
abbrev Deeds : Session Client → Session Client → Prop :=
  Relation.ReflTransGen Deed

/-- How a computation comes to fail; not all of them may read. -/
inductive Breaks (mayRead : Bool) (session : Session Client) :
    SessionError → Session Client → Prop where
  | refused {later : Session Client} {cause : SessionError}
      (deeds : session.Deeds later) (notOver : ¬ cause.IsTermination) :
      Breaks mayRead session cause later
  | writing {between : Session Client} {outgoing left : Outgoing}
      {transport : Transport} {failure : IoError}
      (deeds : session.Deeds between)
      (outcome :
        outgoing.writeTo between.transport =
          (.error failure, left, transport)) :
      Breaks mayRead session (.ofIo between.node failure)
        { between with outgoing := some left, transport := transport }
  /-- Nothing was done yet when the transport failed to read. -/
  | reading {incoming left : Incoming} {transport : Transport}
      {failure : IoError} (reads : mayRead = true)
      (outcome :
        incoming.readFrom session.transport =
          (.error failure, left, transport)) :
      Breaks mayRead session
        (if failure.kind = .invalidData then .invalidSaslResponse (.io failure)
          else .ofIo session.node failure)
        { session with incoming := some left, transport := transport }

/-- Whoever may read fails in every way of someone who may not. -/
theorem Breaks.mono {mayRead : Bool} {session later : Session Client}
    {cause : SessionError} (breaks : session.Breaks false cause later) :
    session.Breaks mayRead cause later := by
  cases breaks with
  | refused deeds notOver =>
      exact .refused deeds notOver
  | writing deeds outcome =>
      exact .writing deeds outcome
  | reading reads =>
      cases reads

/-- What fails after some deeds has not read before. -/
theorem Breaks.after {mayRead : Bool} {session between later : Session Client}
    {cause : SessionError} (deeds : session.Deeds between)
    (breaks : between.Breaks false cause later) :
    session.Breaks mayRead cause later := by
  cases breaks with
  | refused others notOver =>
      exact .refused (deeds.trans others) notOver
  | writing others outcome =>
      exact .writing (deeds.trans others) outcome
  | reading reads =>
      cases reads

end Session

/-- A computation that does deeds, and fails in no other way. -/
def SessionM.Performs {Client Content : Type} (mayRead : Bool)
    (action : SessionM Client Content) : Prop :=
  ∀ session,
    action.Ensures session (fun _ later => session.Deeds later)
      (session.Breaks mayRead)

namespace SessionM

open Session (Deed)

variable {Client Content Next : Type} {mayRead : Bool}

/-- To return something needs no deed. -/
theorem performs_pure (content : Content) :
    Performs mayRead (pure content : SessionM Client Content) :=
  fun _ => .refl

/-- To fail needs no deed, unless the session is said to be over. -/
theorem performs_throw {cause : SessionError}
    (notOver : ¬ cause.IsTermination) :
    Performs mayRead (throw cause : SessionM Client Content) :=
  fun _ => .refused .refl notOver

/-- A change that is a deed at every session performs it. -/
theorem performs_modify {change : Session Client → Session Client}
    (deed : ∀ session : Session Client, session.Deed (change session)) :
    Performs mayRead (modify change : SessionM Client PUnit) :=
  fun session => .single (deed session)

/-- Looking at the session is no deed. -/
theorem performs_get {next : Session Client → SessionM Client Content}
    (goesOn : ∀ session, Performs mayRead (next session)) :
    Performs mayRead (get >>= next) :=
  fun session => goesOn session session

namespace Performs

variable {first : SessionM Client Next} {next : Next → SessionM Client Content}

/-- What comes second does not read any more. -/
theorem bind (starts : Performs mayRead first)
    (goesOn : ∀ content, Performs false (next content)) :
    Performs mayRead (first >>= next) := by
  intro session
  apply (starts session).bind
  intro content between deeds
  exact (goesOn content between).weaken
    (fun _ _ others => deeds.trans others)
    (fun _ _ breaks => breaks.after deeds)

/-- To convert what is returned needs no deed. -/
theorem map {convert : Next → Content} (starts : Performs mayRead first) :
    Performs mayRead (convert <$> first) := by
  intro session
  rw [ensures_map]
  exact starts session

/-- Deeds that need no reading are allowed where reading is. -/
theorem mono (performs : Performs false first) : Performs mayRead first :=
  fun session =>
    (performs session).weaken (fun _ _ deeds => deeds) fun _ _ => .mono

end Performs

end SessionM

/-! ## Failures -/

namespace SessionError

/-- A failure of the transport does not say that the session is over. -/
theorem not_isTermination_ofIo (node : String) (failure : IoError) :
    ¬ (ofIo node failure).IsTermination := by
  unfold ofIo
  split <;> exact id

/-- An error code of the peer's does not say that the session is over. -/
theorem not_isTermination_ofCode (api : String) (code : ErrorCode)
    (explanation : Option String) :
    ¬ (ofCode api code explanation).IsTermination := by
  cases code <;> exact id

end SessionError

/-- Sending a request fails for its text or its size alone. -/
theorem Request.not_isTermination_of_toOutgoing {request : Request}
    {destination : String} {header : RequestHeader} {cause : SessionError}
    (refused : request.toOutgoing destination header = .error cause) :
    ¬ cause.IsTermination := by
  have fails :
      FailsOnly (fun cause => ¬ cause.IsTermination)
        (request.toOutgoing destination header) :=
    (failsOnly_mapError (fun _ => id) _).bind fun _ =>
      failsOnly_mapError (fun _ => id) _
  exact fails cause refused

/-- Bytes that are no response do not say that the session is over. -/
theorem Response.not_isTermination_of_ofPayload {header : RequestHeader}
    {payload : Bytes} {cause : SessionError}
    (refused : ofPayload header payload = .error cause) :
    ¬ cause.IsTermination := by
  unfold ofPayload at refused
  split at refused
  · cases refused
    exact id
  · split at refused
    · unfold Except.mapError at refused
      split at refused <;> cases refused
      exact id
    · cases refused
      exact id

/-- A response of another API ends no session. -/
theorem Response.not_isTermination_of_toApiVersions {response : Response}
    {cause : SessionError} (refused : response.toApiVersions = .error cause) :
    ¬ cause.IsTermination := by
  cases response <;> cases refused <;> exact id

/-- Another response than that to a handshake ends no session. -/
theorem Response.not_isTermination_of_toSaslHandshake {response : Response}
    {cause : SessionError}
    (refused : response.toSaslHandshake = .error cause) :
    ¬ cause.IsTermination := by
  cases response <;> cases refused <;> exact id

/-- Another response than that to a token ends no session. -/
theorem Response.not_isTermination_of_toSaslAuthenticate {response : Response}
    {cause : SessionError}
    (refused : response.toSaslAuthenticate = .error cause) :
    ¬ cause.IsTermination := by
  cases response <;> cases refused <;> exact id

/-- A mechanism that the peer refuses ends no session. -/
theorem SaslHandshakeResponse.not_isTermination_of_check
    {response : SaslHandshakeResponse} {mechanism : String}
    {cause : SessionError}
    (refused : response.check mechanism = .error cause) :
    ¬ cause.IsTermination := by
  unfold check at refused
  dsimp only at refused
  split at refused <;> cases refused <;> exact id

/-- A complete mechanism does not lead to failure. -/
theorem Stage.afterClientComplete_ne_failed
    (authenticateEnabled noResponsesPending : Bool) :
    afterClientComplete authenticateEnabled noResponsesPending ≠ .failed := by
  rw [afterClientComplete]
  split <;> exact nofun

/-! ## Handlers -/

namespace Session

open SessionM

variable {Client Content : Type} {mayRead : Bool}

/-- A move to a stage that goes on is a deed. -/
theorem performs_moveTo {stage : Stage} (goesOn : stage.isTerminal = false) :
    Performs mayRead
      (modify (·.setStage stage) : SessionM Client PUnit) :=
  performs_modify fun _ => .moved goesOn

/-- To flush writes a part, and then settles the session or waits. -/
theorem performs_flush : Performs mayRead (flush : SessionM Client Bool) := by
  intro session
  cases isOutgoing : session.outgoing with
  | none =>
      rw [flush, ensures_bind, ensures_get]
      simp only [isOutgoing]
      exact .single .settled
  | some outgoing =>
      rw [ensures_flush_iff isOutgoing]
      rcases outcome : outgoing.writeTo session.transport with
        ⟨cause | count, left, transport⟩
      · exact .writing .refl outcome
      · have wrote := Deed.wrote isOutgoing outcome
        dsimp only
        split
        · exact .tail (.single wrote) .settled
        · exact .tail (.single wrote) .waits

/-- Sending a payload starts with its frame, counted if it is a request. -/
theorem ensures_send_performs (header : Option RequestHeader)
    (outgoing : Outgoing) {session counted : Session Client}
    (counts :
      counted =
        { session with
          ledger :=
            if header.isSome then session.ledger.recordRequest
            else session.ledger }) :
    (send header outgoing).Ensures counted
      (fun _ later => session.Deeds later)
      (session.Breaks mayRead) := by
  have made : session.Deed _ := .framed header outgoing
  rw [counts, send, ensures_bind, ensures_modify, ensures_discard]
  exact (performs_flush _).weaken
    (fun _ _ deeds => .head made deeds)
    (fun _ _ breaks => breaks.after (.single made))

/-- A request draws its header and is framed. -/
theorem performs_sendRequest (request : Request) :
    Performs mayRead (sendRequest request : SessionM Client Unit) := by
  have draws :
      Performs mayRead
        (nextHeader request.api request.version :
          SessionM Client RequestHeader) :=
    fun _ => .single (.drew _)
  refine draws.bind fun header => performs_get fun session => ?_
  split
  · next cause refused =>
      exact performs_throw (Request.not_isTermination_of_toOutgoing refused)
  · next outgoing made =>
      intro session
      rw [ensures_bind, ensures_modify]
      exact ensures_send_performs (some header) outgoing rfl

/-- A token that the mechanism has produced is sent, if it has. -/
theorem performs_sendProduced (produced : Option Bytes) :
    Performs mayRead (sendProduced produced : SessionM Client Bool) := by
  cases produced with
  | none =>
      exact performs_pure false
  | some token =>
      refine performs_get fun session => ?_
      split
      · exact (performs_sendRequest _).bind fun _ => performs_pure true
      · split
        · exact fun _ => .refused .refl id
        · next outgoing made =>
            have sends :
                Performs mayRead (send none outgoing : SessionM Client Unit) :=
              fun _ => ensures_send_performs none outgoing rfl
            exact sends.bind fun _ => performs_pure true

/-- The mechanism evaluates a challenge, even if it refuses it. -/
theorem performs_nextToken [Mechanism Client] (challenge : Bytes)
    (isInitial : Bool) :
    Performs mayRead
      (nextToken challenge isInitial : SessionM Client (Option Bytes)) := by
  intro session
  rw [ensures_nextToken_iff]
  split
  · exact .refl
  · rcases Mechanism.evaluate session.client challenge with
      ⟨cause | token, client⟩
    · exact .refused (.single (.evaluated challenge (.error cause) client)) id
    · exact .single (.evaluated challenge (.ok token) client)

/-- The mechanism's turn evaluates a challenge and frames its token. -/
theorem performs_sendToken [Mechanism Client] (challenge : Bytes)
    (isInitial : Bool) :
    Performs mayRead
      (sendToken challenge isInitial : SessionM Client Bool) := by
  rw [sendToken_eq]
  refine performs_get fun session => ?_
  split
  · exact performs_pure false
  · exact (performs_nextToken challenge isInitial).bind performs_sendProduced

/-- A frame is read and, once it is whole, taken. -/
theorem performs_receiveFrame :
    Performs true (receiveFrame : SessionM Client (Option Bytes)) := by
  intro session
  rw [ensures_receiveFrame_iff rfl]
  rcases outcome : (session.incoming.getD
    (.start session.node session.config.maxReceiveSize)).readFrom
      session.transport with ⟨cause | count, left, transport⟩
  · exact .reading rfl outcome
  · have read := Deed.read outcome
    dsimp only
    cases left.payload with
    | none =>
        exact .single read
    | some payload =>
        exact .tail (.single read) (.taken payload)

/-- With a frame taken, the outstanding request is dropped first of all. -/
theorem performs_receiveResponse :
    Performs true (receiveResponse : SessionM Client (Option Response)) := by
  refine performs_receiveFrame.bind fun received => ?_
  cases received with
  | none =>
      exact performs_pure none
  | some payload =>
      intro session
      have forgets : session.Deeds { session with outstanding := none } :=
        .single .dropped
      simp only [ensures_bind, ensures_get, ensures_set]
      split
      · exact .refused forgets id
      · split
        · exact .refused forgets id
        · next cause notSchema refused =>
            exact .refused forgets
              (Response.not_isTermination_of_ofPayload refused)
        · next response isResponse =>
            exact .tail forgets (.decoded isResponse)

/-- To expect a certain response fails as its conversion does. -/
theorem performs_receiveAs {convert : Response → Except SessionError Content}
    (refuses :
      ∀ response cause, convert response = .error cause →
        ¬ cause.IsTermination) :
    Performs true (receiveAs convert : SessionM Client (Option Content)) := by
  refine performs_receiveResponse.bind fun received => ?_
  cases received with
  | none =>
      exact performs_pure none
  | some response =>
      dsimp only
      split
      · exact performs_pure _
      · next cause refused =>
          exact performs_throw (refuses response cause refused)

/-- The peer's token comes in a frame of its own or in a response. -/
theorem performs_receiveToken :
    Performs true (receiveToken : SessionM Client (Option Bytes)) := by
  refine performs_get fun session => ?_
  split
  · exact performs_receiveFrame
  · refine (performs_receiveAs fun _ _ =>
      Response.not_isTermination_of_toSaslAuthenticate).bind fun received => ?_
    cases received with
    | none =>
        exact performs_pure none
    | some response =>
        dsimp only
        split
        · exact performs_pure _
        · exact performs_throw (SessionError.not_isTermination_ofCode _ _ _)

/-- The peer's list agrees the versions, unless it carries an error. -/
theorem performs_acceptApiVersions :
    Performs true (acceptApiVersions : SessionM Client Bool) := by
  refine (performs_receiveAs fun _ _ =>
    Response.not_isTermination_of_toApiVersions).bind fun received => ?_
  cases received with
  | none =>
      exact performs_pure false
  | some response =>
      dsimp only
      split
      · refine (performs_modify fun session => ?_).bind fun _ =>
          (performs_moveTo rfl).bind fun _ => performs_pure true
        exact .agreed _ _
      · exact performs_throw (SessionError.not_isTermination_ofCode _ _ _)

/-- The mechanism is proposed by a request, and a move follows. -/
theorem performs_requestHandshake :
    Performs mayRead (requestHandshake : SessionM Client Unit) :=
  performs_get fun _ =>
    (performs_sendRequest _).bind fun _ => performs_moveTo rfl

/-- The peer's answer to the mechanism moves the session on. -/
theorem performs_acceptHandshake :
    Performs true (acceptHandshake : SessionM Client Bool) := by
  refine (performs_receiveAs fun _ _ =>
    Response.not_isTermination_of_toSaslHandshake).bind fun received => ?_
  cases received with
  | none =>
      exact performs_pure false
  | some response =>
      refine performs_get fun session => ?_
      split
      · next cause refused =>
          exact performs_throw
            (SaslHandshakeResponse.not_isTermination_of_check refused)
      · exact (performs_moveTo rfl).bind fun _ => performs_pure true

/-- The first token is sent, and a move follows. -/
theorem performs_sendInitialToken [Mechanism Client] :
    Performs mayRead (sendInitialToken : SessionM Client Unit) :=
  (performs_sendToken [] true).map.bind fun _ => performs_moveTo rfl

/-! ## The end of a handler -/

/-- What a handler leaves: deeds, and completion as the last thing. -/
inductive Finishes (session : Session Client) : Session Client → Prop where
  | goesOn {later : Session Client} (deeds : session.Deeds later) :
      Finishes session later
  | completes {between : Session Client} (deeds : session.Deeds between) :
      Finishes session (between.setStage .complete)

/-- Deeds before the end of a handler belong to it. -/
theorem Deeds.finishes {session between later : Session Client}
    (deeds : session.Deeds between) (finishes : between.Finishes later) :
    session.Finishes later := by
  cases finishes with
  | goesOn others =>
      exact .goesOn (Relation.ReflTransGen.trans deeds others)
  | completes others =>
      exact .completes (Relation.ReflTransGen.trans deeds others)

/-- Any move is a deed or completes the session. -/
theorem finishes_setStage (session : Session Client) {stage : Stage}
    (notFailed : stage ≠ .failed) :
    session.Finishes (session.setStage stage) := by
  cases terminal : stage.isTerminal with
  | false =>
      exact .goesOn (.single (.moved terminal))
  | true =>
      cases stage with
      | complete =>
          exact .completes .refl
      | failed =>
          exact (notFailed rfl).elim
      | _ =>
          cases terminal

/-- A handler whose first part performs deeds may finish with its last part. -/
theorem ensures_bind_finishes {Next : Type} {first : SessionM Client Next}
    {next : Next → SessionM Client Unit} (starts : Performs mayRead first)
    (finishes :
      ∀ content session,
        (next content).Ensures session (fun _ later => session.Finishes later)
          (session.Breaks false))
    (session : Session Client) :
    (first >>= next).Ensures session (fun _ later => session.Finishes later)
      (session.Breaks mayRead) := by
  apply (starts session).bind
  intro content between deeds
  exact (finishes content between).weaken
    (fun _ _ ends => Deeds.finishes deeds ends)
    (fun _ _ breaks => breaks.after deeds)

variable [Mechanism Client]

/-- Once the mechanism is complete, a session moves on or completes. -/
theorem ensures_afterExchange_finishes (noResponsesPending : Bool)
    (session : Session Client) :
    (do
        if Mechanism.isComplete (← get).client then
          modify fun session => session.setStage
            (.afterClientComplete session.authenticateVersion.isSome
              noResponsesPending) :
        SessionM Client Unit).Ensures session
      (fun _ later => session.Finishes later) (session.Breaks false) := by
  rw [ensures_bind, ensures_get]
  split
  · rw [ensures_modify]
    exact session.finishes_setStage (Stage.afterClientComplete_ne_failed _ _)
  · exact .goesOn .refl

/-- A round of tokens may complete the session at its end. -/
theorem ensures_exchangeTokens_finishes (session : Session Client) :
    exchangeTokens.Ensures session (fun _ later => session.Finishes later)
      (session.Breaks true) := by
  refine ensures_bind_finishes performs_receiveToken
    (fun received session => ?_) session
  cases received with
  | none =>
      exact ensures_afterExchange_finishes false session
  | some token =>
      exact ensures_bind_finishes (performs_sendToken token false).map
        ensures_afterExchange_finishes session

omit [Mechanism Client] in
/-- The peer's last word completes the session. -/
theorem ensures_receiveFinalResponse_finishes (session : Session Client) :
    receiveFinalResponse.Ensures session
      (fun _ later => session.Finishes later) (session.Breaks true) := by
  refine ensures_bind_finishes performs_receiveToken
    (fun received session => ?_) session
  split
  · rw [ensures_modify]
    exact .completes .refl
  · exact .goesOn .refl

/-- What the handler of a stage leaves. -/
theorem ensures_handle_finishes (stage : Stage) (session : Session Client) :
    (handle stage).Ensures session (fun _ later => session.Finishes later)
      (session.Breaks true) := by
  have finishes {action : SessionM Client Unit}
      (performs : Performs true action) :
      action.Ensures session (fun _ later => session.Finishes later)
        (session.Breaks true) :=
    (performs session).weaken (fun _ _ deeds => .goesOn deeds)
      fun _ _ breaks => breaks
  cases stage with
  | sendApiVersionsRequest =>
      exact finishes
        ((performs_sendRequest _).bind fun _ => performs_moveTo rfl)
  | receiveApiVersionsResponse =>
      refine finishes (performs_acceptApiVersions.bind fun accepted => ?_)
      split
      · exact performs_requestHandshake
      · exact performs_pure ()
  | sendHandshakeRequest =>
      exact finishes performs_requestHandshake
  | receiveHandshakeResponse =>
      refine finishes (performs_acceptHandshake.bind fun accepted => ?_)
      split
      · exact performs_sendInitialToken
      · exact performs_pure ()
  | initial =>
      exact finishes performs_sendInitialToken
  | intermediate =>
      exact session.ensures_exchangeTokens_finishes
  | clientComplete =>
      exact session.ensures_receiveFinalResponse_finishes
  | complete | failed =>
      exact .goesOn .refl

/-! ## Calls -/

/-- What is left to write goes first, and then a handler is called. -/
inductive Resumes (session : Session Client) : Session Client → Prop where
  | idle (idle : session.outgoing = none) : Resumes session session
  | flushed {outgoing left : Outgoing} {transport : Transport} {count : Nat}
      (current : session.outgoing = some outgoing)
      (outcome :
        outgoing.writeTo session.transport = (.ok count, left, transport)) :
      Resumes session
        (settle
          { session with
            outgoing := some left
            transport := transport
            ledger := session.ledger.recordSent count })

/-- How a session is advanced by a call that succeeds. -/
inductive Leads (session : Session Client) : Session Client → Prop where
  /-- The frame is still partly unsent. -/
  | waits {outgoing left : Outgoing} {transport : Transport} {count : Nat}
      (current : session.outgoing = some outgoing)
      (outcome :
        outgoing.writeTo session.transport = (.ok count, left, transport)) :
      Leads session
        (setWriteInterest
          { session with
            outgoing := some left
            transport := transport
            ledger := session.ledger.recordSent count }
          true)
  | ended {later : Session Client} (resumes : session.Resumes later)
      (terminal : later.stage.isTerminal = true) : Leads session later
  | handled {between later : Session Client} (resumes : session.Resumes between)
      (goesOn : between.stage.isTerminal = false)
      (finishes : between.Finishes later) : Leads session later

/-- How a call fails: while it writes the rest of a frame, or in a handler. -/
inductive Fails (session : Session Client) :
    SessionError → Session Client → Prop where
  | unsent {outgoing left : Outgoing} {transport : Transport}
      {failure : IoError} (current : session.outgoing = some outgoing)
      (outcome :
        outgoing.writeTo session.transport =
          (.error failure, left, transport)) :
      Fails session (.ofIo session.node failure)
        { session with outgoing := some left, transport := transport }
  | handled {between later : Session Client} {cause : SessionError}
      (resumes : session.Resumes between)
      (goesOn : between.stage.isTerminal = false)
      (breaks : between.Breaks true cause later) : Fails session cause later

/-- A handler of a session that is over does nothing. -/
theorem ensures_handle_leads {session between : Session Client}
    (resumes : session.Resumes between) :
    (handle between.stage).Ensures between (fun _ later => session.Leads later)
      session.Fails := by
  cases terminal : between.stage.isTerminal with
  | false =>
      exact (ensures_handle_finishes between.stage between).weaken
        (fun _ _ finishes => .handled resumes terminal finishes)
        (fun _ _ breaks => .handled resumes terminal breaks)
  | true =>
      have ended : session.Leads between := .ended resumes terminal
      generalize between.stage = stage at terminal ⊢
      cases stage with
      | complete | failed =>
          exact ended
      | _ =>
          cases terminal

/-- To advance writes what is left first, and fails in no other way. -/
theorem ensures_advance_leads (session : Session Client) :
    advance.Ensures session (fun _ later => session.Leads later)
      session.Fails := by
  rw [advance, ensures_bind, ensures_get]
  cases isOutgoing : session.outgoing with
  | none =>
      exact ensures_handle_leads (.idle isOutgoing)
  | some outgoing =>
      rw [Option.isSome_some, if_pos rfl, ensures_bind,
        ensures_flush_iff isOutgoing]
      rcases outcome : outgoing.writeTo session.transport with
        ⟨cause | count, left, transport⟩
      · exact .unsent isOutgoing outcome
      · dsimp only
        split
        · exact ensures_handle_leads (.flushed isOutgoing outcome)
        · exact .waits isOutgoing outcome

/-- A call either ends at once, or goes on, or gives the session up. -/
inductive Call (session : Session Client) : Prop where
  | terminated (failed : session.stage = .failed)
      (same :
        session.authenticate =
          (.error (.handshakeTerminated session.node), session))
  | returned {later : Session Client} (notFailed : session.stage ≠ .failed)
      (same : session.authenticate = (.ok (), later))
      (leads : session.begin.Leads later)
  | threw {cause : SessionError} {later : Session Client}
      (notFailed : session.stage ≠ .failed)
      (same : session.authenticate = (.error cause, later.fail))
      (fails : session.begin.Fails cause later)

/-- Every call ends at once, goes on or gives the session up. -/
theorem call (session : Session Client) : session.Call := by
  by_cases failed : session.stage = .failed
  · exact .terminated failed (by rw [authenticate, if_pos failed])
  · rcases session.begin.ensures_advance_leads.authenticate failed with
      ⟨later, same, leads⟩ | ⟨cause, later, same, fails⟩
    · exact .returned failed same leads
    · exact .threw failed same fails

/-! ## What every call keeps -/

omit [Mechanism Client] in
/-- Writing what is left is a row of deeds. -/
theorem Resumes.deeds {session later : Session Client}
    (resumes : session.Resumes later) : session.Deeds later := by
  cases resumes with
  | idle =>
      exact .refl
  | flushed current outcome =>
      exact .tail (.single (.wrote current outcome)) .settled

omit [Mechanism Client] in
/-- A call that succeeds does deeds, and may complete the session. -/
theorem Leads.finishes {session later : Session Client}
    (leads : session.Leads later) : session.Finishes later := by
  cases leads with
  | waits current outcome =>
      exact .goesOn (.tail (.single (.wrote current outcome)) .waits)
  | ended resumes =>
      exact .goesOn resumes.deeds
  | handled resumes _ finishes =>
      exact Deeds.finishes resumes.deeds finishes

omit [Mechanism Client] in
/-- A call that fails has done deeds until something broke. -/
theorem Fails.exists_breaks {session later : Session Client}
    {cause : SessionError} (fails : session.Fails cause later) :
    ∃ between,
      session.Deeds between ∧ between.Breaks true cause later := by
  cases fails with
  | unsent _ outcome =>
      exact ⟨session, .refl, .writing .refl outcome⟩
  | handled resumes _ breaks =>
      exact ⟨_, resumes.deeds, breaks⟩

/-- A property that sessions keep, whatever a call does to them. -/
structure IsKept (holds : Session Client → Prop) : Prop where
  deed {session later : Session Client} (deed : session.Deed later)
    (held : holds session) : holds later
  completes {session : Session Client} (held : holds session) :
    holds (session.setStage .complete)
  /-- A write that fails leaves its mark on the frame and the transport. -/
  unsent {session : Session Client} {outgoing left : Outgoing}
    {transport : Transport} {failure : IoError}
    (outcome :
      outgoing.writeTo session.transport = (.error failure, left, transport))
    (held : holds session) :
    holds { session with outgoing := some left, transport := transport }
  unread {session : Session Client} {incoming left : Incoming}
    {transport : Transport} {failure : IoError}
    (outcome :
      incoming.readFrom session.transport = (.error failure, left, transport))
    (held : holds session) :
    holds { session with incoming := some left, transport := transport }
  begins {session : Session Client} (held : holds session) :
    holds session.begin
  fails {session : Session Client} (held : holds session) : holds session.fail

namespace IsKept

variable {holds : Session Client → Prop} {session later : Session Client}

omit [Mechanism Client] in
/-- What each deed keeps is kept by a row of them. -/
theorem deeds (kept : IsKept holds) (deeds : session.Deeds later)
    (held : holds session) : holds later := by
  induction deeds with
  | refl =>
      exact held
  | tail _ deed inductionHypothesis =>
      exact kept.deed deed inductionHypothesis

omit [Mechanism Client] in
/-- What deeds and completion keep is kept by a handler that returns. -/
theorem finishes (kept : IsKept holds) (finishes : session.Finishes later)
    (held : holds session) : holds later := by
  cases finishes with
  | goesOn deeds =>
      exact kept.deeds deeds held
  | completes deeds =>
      exact kept.completes (kept.deeds deeds held)

omit [Mechanism Client] in
/-- What deeds and broken transports keep is kept by a handler that fails. -/
theorem breaks {mayRead : Bool} {cause : SessionError} (kept : IsKept holds)
    (breaks : session.Breaks mayRead cause later) (held : holds session) :
    holds later := by
  cases breaks with
  | refused deeds =>
      exact kept.deeds deeds held
  | writing deeds outcome =>
      exact kept.unsent outcome (kept.deeds deeds held)
  | reading _ outcome =>
      exact kept.unread outcome held

/-- What the parts of a call keep, the call keeps. -/
theorem authenticate (kept : IsKept holds) (held : holds session) :
    holds session.authenticate.2 := by
  have begun := kept.begins held
  cases session.call with
  | terminated _ same =>
      rw [same]
      exact held
  | returned _ same leads =>
      rw [same]
      exact kept.finishes leads.finishes begun
  | threw _ same fails =>
      rw [same]
      obtain ⟨between, deeds, breaks⟩ := fails.exists_breaks
      exact kept.fails (kept.breaks breaks (kept.deeds deeds begun))

end IsKept

end Session

end BrokerSession
