import BrokerSession.Proofs.Session.Negotiation
import BrokerSession.Proofs.Session.Runs

namespace BrokerSession

/-!
# What a failure is about

A session fails because of what the transport, the peer or the configuration
did.  It never fails because it lost track of its own requests or asked its
mechanism at the wrong time, although a server may claim anything in a text of
its own.
-/

/-- The text of a session that has received a response to nothing. -/
def unrequestedMessage : String :=
  "Received a response with no request outstanding"

namespace SessionError

/-- Whether a failure reports no state of the session or of its mechanism. -/
def IsPlain : SessionError → Prop
  | .unexpectedResponse .. | .mechanism .. | .illegalSaslState _ => False
  | _ => True

/-- Whether the last response gives a text as the server's explanation. -/
def IsExplained (journal : List Event) (text : String) : Prop :=
  ∃ earlier header response,
    journal = earlier ++ [.decoded header (.saslAuthenticate response)] ∧
      response.error = .illegalSaslState ∧ response.errorMessage = some text

/-- Whether a failure is no fault of the session that reports it. -/
structure IsWarranted (journal : List Event) (cause : SessionError) :
    Prop where
  expected : ∀ wanted actual, cause ≠ .unexpectedResponse wanted actual
  inTurn :
    ∀ name host refusal, cause = .mechanism name host refusal →
      refusal.IsInTurn
  requested :
    cause = .illegalSaslState unrequestedMessage →
      IsExplained journal unrequestedMessage

variable {journal : List Event}

/-- A plain failure is warranted by any journal. -/
theorem IsPlain.isWarranted {cause : SessionError} (plain : cause.IsPlain) :
    cause.IsWarranted journal where
  expected := by
    rintro wanted actual rfl
    exact plain
  inTurn := by
    rintro name host refusal rfl
    exact plain.elim
  requested := by
    rintro rfl
    exact plain.elim

/-- An illegal state is warranted if its text is not that of a missing request. -/
theorem isWarranted_illegalSaslState {message : String}
    (differs : message ≠ unrequestedMessage) :
    (SessionError.illegalSaslState message).IsWarranted journal where
  expected := nofun
  inTurn := nofun
  requested := by
    rintro ⟨⟩
    exact (differs rfl).elim

/-- A failure of the transport is plain. -/
theorem isPlain_ofIo (node : String) (failure : IoError) :
    (ofIo node failure).IsPlain := by
  unfold ofIo
  split <;> trivial

/-- The code of a response is told, with the server's text if it sent one. -/
theorem isWarranted_ofCode {api : String} {code : ErrorCode}
    {explanation : Option String}
    (explained :
      code = .illegalSaslState →
        explanation.getD code.message = unrequestedMessage →
          IsExplained journal unrequestedMessage) :
    (ofCode api code explanation).IsWarranted journal := by
  cases code with
  | illegalSaslState =>
      refine ⟨nofun, nofun, ?_⟩
      intro same
      exact explained rfl (SessionError.illegalSaslState.inj same)
  | _ =>
      exact IsPlain.isWarranted trivial

end SessionError

/-! ## Ends of an exchange -/

/-- A payload that does not fit a frame is a plain failure. -/
theorem Outgoing.failsOnly_ofPayload (destination : String) (payload : Bytes) :
    FailsOnly SessionError.IsPlain
      ((Outgoing.ofPayload destination payload).mapError .io) :=
  failsOnly_mapError (fun _ => trivial) _

/-- A request that cannot be framed is a plain failure. -/
theorem Request.failsOnly_toOutgoing (request : Request) (destination : String)
    (header : RequestHeader) :
    FailsOnly SessionError.IsPlain (request.toOutgoing destination header) :=
  (failsOnly_mapError (fun _ => trivial) _).bind fun payload =>
    Outgoing.failsOnly_ofPayload destination payload

/-- Bytes that are no response are a plain failure. -/
theorem Response.isPlain_ofUndecodable {header : RequestHeader}
    {payload : Bytes} {cause : SessionError}
    (refused : ofPayload header payload = .error cause) :
    cause.ofUndecodable.IsPlain := by
  unfold ofPayload at refused
  split at refused
  · cases refused
    trivial
  · split at refused
    · unfold Except.mapError at refused
      split at refused <;> cases refused
      trivial
    · cases refused
      trivial

/-- No text about a handshake is the one about a response to nothing. -/
theorem handshakeMessage_ne {mechanism enabled : String} :
    s!"Unexpected handshake request with client mechanism {mechanism}, enabled mechanisms are {enabled}" ≠
      unrequestedMessage := by
  intro same
  have firstLetter := congrArg (fun text : String => text.toList.head?) same
  simp [unrequestedMessage, toString] at firstLetter

/-- A rejection is warranted by the response that was decoded last. -/
theorem Response.isWarranted_of_rejection {journal : List Event}
    {mechanism : String} {response : Response} {cause : SessionError}
    (rejected : response.rejection? mechanism = some cause)
    (last :
      ∃ earlier header, journal = earlier ++ [.decoded header response]) :
    cause.IsWarranted journal := by
  have failed := error_ne_none_of_rejection rejected
  cases response with
  | apiVersions response =>
      cases rejected.symm.trans (rejection_apiVersions failed)
      apply SessionError.isWarranted_ofCode
      intro isIllegal sameText
      rw [isIllegal] at sameText
      simp [ErrorCode.message, unrequestedMessage] at sameText
  | saslAuthenticate response =>
      cases rejected.symm.trans (rejection_saslAuthenticate failed)
      apply SessionError.isWarranted_ofCode
      intro isIllegal sameText
      obtain ⟨earlier, header, shape⟩ := last
      refine ⟨earlier, header, response, shape, isIllegal, ?_⟩
      rw [isIllegal] at sameText
      cases explanation : response.errorMessage with
      | none =>
          rw [explanation] at sameText
          simp [ErrorCode.message, unrequestedMessage] at sameText
      | some text =>
          rw [explanation] at sameText
          exact congrArg some sameText
  | saslHandshake response =>
      unfold rejection? at rejected
      dsimp only at rejected
      split at rejected
      · cases rejected
      · cases rejected
        exact SessionError.IsPlain.isWarranted trivial
      · cases rejected
        exact SessionError.isWarranted_illegalSaslState handshakeMessage_ne
      · cases rejected
        exact SessionError.IsPlain.isWarranted trivial
  | stopReplica response =>
      cases rejected

namespace Session

open Journal

variable {origin : Origin} {session : Session SaslClient}

/-- A refused exchange is no fault of the session. -/
theorem isWarranted_of_refuses {exchange : Exchange} {point : Point}
    {journal : List Event} {held : Bytes} {cause : SessionError}
    (script : Script exchange point journal) (fresh : exchange.client.IsFresh)
    (refuses : exchange.Refuses point journal held cause) :
    cause.IsWarranted journal := by
  cases refuses with
  | unsendable ready asked refused =>
      exact (Request.failsOnly_toOutgoing _ _ _ _ refused).isWarranted
  | unsendableToken ready unwrapped refused =>
      exact SessionError.IsPlain.isWarranted trivial
  | malformed awaiting malformed =>
      exact SessionError.IsPlain.isWarranted trivial
  | undecodable received refused =>
      exact (Response.isPlain_ofUndecodable refused).isWarranted
  | rejected answered rejected =>
      have ends := script.ends
      rw [answered] at ends
      exact Response.isWarranted_of_rejection rejected ends.2
  | @mechanism earlier challenge refusal refused last =>
      refine ⟨nofun, ?_, nofun⟩
      rintro name host _ ⟨⟩
      refine script.isInTurn fresh challenge refusal ?_
      rw [last]
      exact List.mem_append_right _ (List.mem_singleton_self _)

/-- What a session throws is warranted. -/
theorem Throws.isWarranted {cause : SessionError}
    (throws : Throws origin cause session)
    (fresh : origin.exchange.client.IsFresh) :
    cause.IsWarranted session.journal := by
  obtain ⟨point, unsent, held, script, -, stops⟩ := throws
  cases stops with
  | refused refuses =>
      exact isWarranted_of_refuses script fresh refuses
  | broken impatient busy isFailure =>
      obtain ⟨failure, rfl | rfl⟩ := isFailure
      · exact (SessionError.isPlain_ofIo _ failure).isWarranted
      · exact SessionError.IsPlain.isWarranted trivial

/-- Whatever a call reports is warranted. -/
theorem Sound.isWarranted (sound : Sound origin session)
    (fresh : origin.exchange.client.IsFresh) {cause : SessionError}
    (failed : session.authenticate.1 = .error cause) :
    cause.IsWarranted session.authenticate.2.journal := by
  cases sound with
  | advances advances =>
      rcases advances.authenticate with ⟨succeeded, -⟩ |
        ⟨other, failedSo, throws, -⟩
      · cases succeeded.symm.trans failed
      · cases failedSo.symm.trans failed
        exact throws.isWarranted fresh
  | failed isFailed =>
      rw [authenticate_of_failed isFailed.stage] at failed ⊢
      cases failed
      exact SessionError.IsPlain.isWarranted trivial

end Session

end BrokerSession
