import BrokerSession.Proofs.Session.Exchange
import BrokerSession.Session.Advance
import Mathlib.Logic.Relation

namespace BrokerSession

/-!
# Outlines of sessions

A session may be outlined by what matters to its exchange: the stage, the
agreed versions, the outstanding request and the journal.  `Act` lists all that
can happen to this outline while handlers run, with any mechanism and whatever
the transport does, so that a property of the exchange is an induction on acts.
-/

open Journal

/-! ## Stages and tasks -/

/-- The stages that come right after one another. -/
inductive Stage.Precedes : Stage → Stage → Prop where
  | askedVersions :
      Precedes .sendApiVersionsRequest .receiveApiVersionsResponse
  | agreed : Precedes .receiveApiVersionsResponse .sendHandshakeRequest
  | askedHandshake : Precedes .sendHandshakeRequest .receiveHandshakeResponse
  | admitted : Precedes .receiveHandshakeResponse .initial
  | begun : Precedes .initial .intermediate
  | satisfied : Precedes .intermediate .clientComplete
  | finished : Precedes .intermediate .complete
  | confirmed : Precedes .clientComplete .complete

/-- Whether a task is carried out in a stage. -/
def Task.IsDue (stage : Stage) : Task → Prop
  | .versions => stage = .sendApiVersionsRequest
  | .handshake => stage = .sendHandshakeRequest
  | .token _ => stage = .initial ∨ stage = .intermediate

/-- Whether a session awaits something from the peer. -/
def Stage.isReceiving : Stage → Bool
  | .receiveApiVersionsResponse | .receiveHandshakeResponse
  | .intermediate | .clientComplete => true
  | _ => false

/-- Whether a stage comes before the peer has taken the mechanism. -/
def Stage.isOpening : Stage → Bool
  | .sendApiVersionsRequest | .receiveApiVersionsResponse
  | .sendHandshakeRequest | .receiveHandshakeResponse => true
  | _ => false

/-- The opening is left from its last stage. -/
theorem Stage.Precedes.isOpening {stage next : Stage}
    (precedes : stage.Precedes next) (opening : stage.isOpening = true)
    (notLast : stage ≠ .receiveHandshakeResponse) : next.isOpening = true := by
  cases precedes with
  | askedVersions | agreed | askedHandshake =>
      rfl
  | admitted =>
      exact (notLast rfl).elim
  | begun | satisfied | finished | confirmed =>
      cases opening

/-- The stage whose frame the handler of a stage makes, if it makes one. -/
def Stage.speaking? : Stage → Option Stage
  | .sendApiVersionsRequest => some .sendApiVersionsRequest
  | .receiveApiVersionsResponse | .sendHandshakeRequest =>
      some .sendHandshakeRequest
  | .receiveHandshakeResponse | .initial => some .initial
  | .intermediate => some .intermediate
  | .clientComplete | .complete | .failed => none

/-- Whether the peer has taken the mechanism. -/
def Journal.HasConsent (journal : List Event) : Prop :=
  ∃ header response,
    (header, .saslHandshake response) ∈ answers journal ∧
      response.error = .none

/-- Whether a response takes the mechanism. -/
def Response.consents : Response → Bool
  | .saslHandshake response => response.error = .none
  | _ => false

/-- Consent is looked up among the decoded responses. -/
theorem Journal.hasConsent_iff {journal : List Event} :
    HasConsent journal ↔
      ∃ answer ∈ answers journal, answer.2.consents = true := by
  constructor
  · rintro ⟨header, response, member, succeeded⟩
    exact ⟨_, member, decide_eq_true succeeded⟩
  · rintro ⟨⟨header, response⟩, member, consents⟩
    cases response with
    | saslHandshake response =>
        exact ⟨header, response, member, of_decide_eq_true consents⟩
    | apiVersions | saslAuthenticate | stopReplica =>
        cases consents

instance (journal : List Event) : Decidable (Journal.HasConsent journal) :=
  decidable_of_iff _ Journal.hasConsent_iff.symm

/-- What was consented to stays so. -/
theorem Journal.HasConsent.mono {journal later : List Event}
    (consent : HasConsent journal) (grows : journal <+: later) :
    HasConsent later := by
  obtain ⟨header, response, member, succeeded⟩ := consent
  exact ⟨header, response, (grows.filterMap _).subset member, succeeded⟩

/-! ## Outlines -/

/-- What a session shows of its exchange. -/
structure Outline where
  config : Config
  stage : Stage
  pending : Option Stage
  isWriting : Bool
  terms : Terms
  outstanding : Option RequestHeader
  journal : List Event

/-- The outline of a session, whatever its mechanism. -/
def Session.outline {Client : Type} (session : Session Client) : Outline where
  config := session.config
  stage := session.stage
  pending := session.pending
  isWriting := session.outgoing.isSome
  terms :=
    { handshakeVersion := session.handshakeVersion
      authenticateVersion := session.authenticateVersion }
  outstanding := session.outstanding
  journal := session.journal

namespace Outline

variable (outline : Outline)

/-- Move to a stage, now or once the frame being written is flushed. -/
def moveTo (stage : Stage) : Outline :=
  if outline.isWriting then { outline with pending := some stage }
  else { outline with stage := stage, pending := none }

/-- The frame is flushed, and the pending move is made. -/
def settle : Outline :=
  { outline with
    stage := outline.pending.getD outline.stage
    pending := none
    isWriting := false
    journal := outline.journal ++ [.flushed] }

/-- Nothing goes on any more. -/
def fail : Outline :=
  { outline with
    stage := .failed
    pending := none
    isWriting := false
    outstanding := none }

/-- No frame is written or awaited any more. -/
def release : Outline :=
  { outline with isWriting := false, outstanding := none }

def note (event : Event) : Outline :=
  { outline with journal := outline.journal ++ [event] }

/-- The number of frames made so far. -/
def made : Nat :=
  (framings outline.journal).length

/-- One thing that can happen to a session in a call. -/
inductive Act (outline : Outline) : Outline → Prop where
  /-- A frame is made; a request becomes the outstanding one. -/
  | framed {task : Task} {correlationId : Int32}
      {header : Option RequestHeader} {frame : Bytes}
      (settled : outline.pending = none) (due : task.IsDue outline.stage)
      (framed :
        task.Framed outline.config outline.terms correlationId
          (header, frame)) :
      Act outline
        { outline.note (.framed header frame) with
          isWriting := true
          outstanding := header <|> outline.outstanding }
  | flushed (busy : outline.isWriting = true) : Act outline outline.settle
  | taken (payload : Bytes) : Act outline (outline.note (.taken payload))
  | evaluated (challenge : Bytes)
      (outcome : Except MechanismError (Option Bytes)) :
      Act outline (outline.note (.evaluated challenge outcome))
  | dropped : Act outline { outline with outstanding := none }
  | decoded {header : RequestHeader} {payload : Bytes} {response : Response}
      (idle : outline.isWriting = false)
      (receives : outline.stage.isReceiving = true)
      (awaited : outline.outstanding = some header)
      (decoded : Response.ofPayload header payload = .ok response) :
      Act outline
        { outline.note (.decoded header response) with outstanding := none }
  /-- The peer's list settles the versions. -/
  | agreed {earlier : List Event} {header : RequestHeader}
      {response : ApiVersionsResponse}
      (idle : outline.isWriting = false)
      (isStage : outline.stage = .receiveApiVersionsResponse)
      (answered :
        outline.journal = earlier ++ [.decoded header (.apiVersions response)])
      (succeeded : response.error = .none) :
      Act outline
        ({ outline with terms := .ofResponse response }.moveTo
          .sendHandshakeRequest)
  /-- The peer takes the mechanism. -/
  | admitted {earlier : List Event} {header : RequestHeader}
      {response : SaslHandshakeResponse}
      (idle : outline.isWriting = false)
      (isStage : outline.stage = .receiveHandshakeResponse)
      (answered :
        outline.journal =
          earlier ++ [.decoded header (.saslHandshake response)])
      (succeeded : response.error = .none) :
      Act outline (outline.moveTo .initial)
  /-- A move that needs no answer of the peer's to an opening request. -/
  | moved {next : Stage} (settled : outline.pending = none)
      (precedes : outline.stage.Precedes next)
      (notAgreed : outline.stage ≠ .receiveApiVersionsResponse)
      (notAdmitted : outline.stage ≠ .receiveHandshakeResponse) :
      Act outline (outline.moveTo next)

/-- All that can happen in a call. -/
abbrev Acts : Outline → Outline → Prop :=
  Relation.ReflTransGen Act

/-- What is left when a call is given up after some acts. -/
def Abandons (outline left : Outline) : Prop :=
  ∃ between, outline.Acts between ∧ left.fail = between.fail

/-- A move is pending only while a frame is written, and leads onwards. -/
def IsOrderly : Prop :=
  ∀ next ∈ outline.pending,
    outline.isWriting = true ∧ outline.stage.Precedes next

/-- A session in a stage with nothing to write, after so many frames. -/
structure IsPoised (stage : Stage) (number : Nat) : Prop where
  stage : outline.stage = stage
  pending : outline.pending = none
  idle : outline.isWriting = false
  made : outline.made = number

/-- A session in a stage that may have made one more frame. -/
structure HasSpoken (stage : Stage) (number : Nat) : Prop where
  stage : outline.stage = stage
  pending : outline.pending = none
  made :
    outline.made = number ∧ outline.isWriting = false ∨
      outline.made = number + 1

variable {outline}

/-- A session with nothing to write moves at once. -/
theorem IsPoised.moveTo {stage : Stage} {number : Nat}
    (poised : outline.IsPoised stage number) (next : Stage) :
    (outline.moveTo next).IsPoised next number := by
  rw [Outline.moveTo, poised.idle, if_neg Bool.false_ne_true]
  exact ⟨rfl, rfl, rfl, poised.made⟩

/-- A poised session has made no further frame yet. -/
theorem IsPoised.hasSpoken {stage : Stage} {number : Nat}
    (poised : outline.IsPoised stage number) :
    outline.HasSpoken stage number where
  stage := poised.stage
  pending := poised.pending
  made := Or.inl ⟨poised.made, poised.idle⟩

/-- A move neither begins nor ends the writing of a frame. -/
@[simp] theorem isWriting_moveTo (stage : Stage) :
    (outline.moveTo stage).isWriting = outline.isWriting := by
  rw [moveTo]
  split <;> rfl

/-- A move is not noted. -/
@[simp] theorem journal_moveTo (stage : Stage) :
    (outline.moveTo stage).journal = outline.journal := by
  rw [moveTo]
  split <;> rfl

/-- A move leaves the outstanding request as it is. -/
@[simp] theorem outstanding_moveTo (stage : Stage) :
    (outline.moveTo stage).outstanding = outline.outstanding := by
  rw [moveTo]
  split <;> rfl

/-- To flush a frame makes no other one. -/
@[simp] theorem made_settle : outline.settle.made = outline.made := by
  simp [made, settle]

/-- A framing event adds one to the frames. -/
@[simp] theorem made_framed (header : Option RequestHeader) (frame : Bytes) :
    (outline.note (.framed header frame)).made = outline.made + 1 := by
  simp [made, note]

/-- A move makes no frame. -/
@[simp] theorem made_moveTo (stage : Stage) :
    (outline.moveTo stage).made = outline.made := by
  rw [made, journal_moveTo, made]

/-- A frame being written holds a session in its stage. -/
theorem stage_moveTo_of_isWriting (busy : outline.isWriting = true)
    (stage : Stage) : (outline.moveTo stage).stage = outline.stage := by
  rw [moveTo, if_pos busy]

/-- A move is made at once or stays pending. -/
theorem stage_moveTo (stage : Stage) :
    (outline.moveTo stage).stage = outline.stage ∨
      (outline.moveTo stage).stage = stage := by
  rw [moveTo]
  split
  · exact Or.inl rfl
  · exact Or.inr rfl

/-- A call may be given up after any acts. -/
theorem Acts.abandons {later : Outline} (acts : outline.Acts later) :
    outline.Abandons later :=
  ⟨later, acts, rfl⟩

/-- Acts before those after which a call is given up count as well. -/
theorem Acts.transAbandons {between left : Outline}
    (acts : outline.Acts between) (abandons : between.Abandons left) :
    outline.Abandons left := by
  obtain ⟨last, others, same⟩ := abandons
  exact ⟨last, acts.trans others, same⟩

/-- With its frame flushed, a session is in the stage that was pending. -/
theorem isPoised_settle :
    outline.settle.IsPoised (outline.pending.getD outline.stage)
      outline.made :=
  ⟨rfl, rfl, rfl, made_settle⟩

/-! ## Moving on -/

/-- Without a pending move a session is orderly. -/
theorem isOrderly_of_settled (settled : outline.pending = none) :
    outline.IsOrderly := by
  intro next isPending
  cases settled.symm.trans isPending

/-- Without a frame being written no move is pending. -/
theorem IsOrderly.pending_eq_none (orderly : outline.IsOrderly)
    (idle : outline.isWriting = false) : outline.pending = none := by
  cases pending : outline.pending with
  | none =>
      rfl
  | some next =>
      cases idle.symm.trans (orderly next pending).1

/-- A move onwards leaves a session orderly, made or pending. -/
theorem isOrderly_moveTo {next : Stage}
    (precedes : outline.stage.Precedes next) :
    (outline.moveTo next).IsOrderly := by
  rw [moveTo]
  split
  · next busy =>
      rintro _ ⟨⟩
      exact ⟨busy, precedes⟩
  · exact isOrderly_of_settled rfl

/-- Nothing comes after a terminal stage. -/
theorem IsOrderly.release (orderly : outline.IsOrderly)
    (terminal : outline.stage.isTerminal = true) :
    outline.release.IsOrderly := by
  intro next isPending
  have precedes := (orderly next isPending).2
  generalize outline.stage = stage at terminal precedes
  cases precedes <;> cases terminal

/-- No act lets a move be pending without a frame. -/
theorem Act.isOrderly {later : Outline} (act : outline.Act later)
    (orderly : outline.IsOrderly) : later.IsOrderly := by
  cases act with
  | taken | evaluated | dropped | decoded =>
      exact orderly
  | framed settled =>
      exact isOrderly_of_settled settled
  | flushed =>
      exact isOrderly_of_settled rfl
  | agreed _ isStage =>
      exact isOrderly_moveTo (isStage ▸ .agreed)
  | admitted _ isStage =>
      exact isOrderly_moveTo (isStage ▸ .admitted)
  | moved _ precedes =>
      exact isOrderly_moveTo precedes

/-- A move onwards leads to the next stage, now or later. -/
theorem stage_moveTo_of_precedes {next : Stage}
    (precedes : outline.stage.Precedes next) :
    (outline.moveTo next).stage = outline.stage ∨
      outline.stage.Precedes (outline.moveTo next).stage := by
  rcases stage_moveTo next with same | moved
  · exact Or.inl same
  · rw [moved]
    exact Or.inr precedes

/-- A stage is left only for one that comes right after it. -/
theorem Act.stage_eq_or_precedes {later : Outline} (act : outline.Act later)
    (orderly : outline.IsOrderly) :
    later.stage = outline.stage ∨ outline.stage.Precedes later.stage := by
  cases act with
  | framed | taken | evaluated | dropped | decoded =>
      exact Or.inl rfl
  | flushed busy =>
      rw [settle]
      cases pending : outline.pending with
      | none =>
          exact Or.inl rfl
      | some next =>
          exact Or.inr (orderly next pending).2
  | @agreed _ _ response _ isStage =>
      let agreed : Outline := { outline with terms := .ofResponse response }
      have precedes : agreed.stage.Precedes .sendHandshakeRequest :=
        isStage ▸ .agreed
      exact stage_moveTo_of_precedes precedes
  | admitted _ isStage =>
      exact stage_moveTo_of_precedes (isStage ▸ .admitted)
  | moved _ precedes =>
      exact stage_moveTo_of_precedes precedes

/-- A session stays orderly in a whole call. -/
theorem Acts.isOrderly {later : Outline} (acts : outline.Acts later)
    (orderly : outline.IsOrderly) : later.IsOrderly := by
  induction acts with
  | refl =>
      exact orderly
  | tail _ act inductionHypothesis =>
      exact act.isOrderly inductionHypothesis

/-- What each act preserves is preserved by all of them. -/
theorem Acts.induct {later : Outline} {holds : Outline → Prop}
    (acts : outline.Acts later) (orderly : outline.IsOrderly)
    (starts : holds outline)
    (preserves :
      ∀ before after, before.IsOrderly → holds before → before.Act after →
        holds after) :
    holds later := by
  induction acts with
  | refl =>
      exact starts
  | tail earlier act inductionHypothesis =>
      exact preserves _ _ (Acts.isOrderly earlier orderly) inductionHypothesis
        act

/-- The stages of a call are a path of stages that precede one another. -/
theorem Acts.leads {later : Outline} (acts : outline.Acts later)
    (orderly : outline.IsOrderly) :
    Relation.ReflTransGen Stage.Precedes outline.stage later.stage := by
  induction acts with
  | refl =>
      exact .refl
  | tail earlier act leads =>
      rcases act.stage_eq_or_precedes (Acts.isOrderly earlier orderly) with
        same | precedes
      · rw [same]
        exact leads
      · exact leads.tail precedes

/-! ## The journal -/

/-- An act takes nothing out of the journal. -/
theorem Act.journal_prefix {later : Outline} (act : outline.Act later) :
    outline.journal <+: later.journal := by
  have appended (event : Event) :
      outline.journal <+: outline.journal ++ [event] :=
    List.prefix_append _ _
  cases act with
  | framed | flushed | taken | evaluated | decoded =>
      exact appended _
  | dropped =>
      exact List.prefix_rfl
  | agreed | admitted | moved =>
      exact ⟨[], by simp⟩

/-- A call takes nothing out of the journal. -/
theorem Acts.journal_prefix {later : Outline} (acts : outline.Acts later) :
    outline.journal <+: later.journal := by
  induction acts with
  | refl =>
      exact List.prefix_rfl
  | tail _ act inductionHypothesis =>
      exact inductionHypothesis.trans act.journal_prefix

/-! ## Consent -/

/-- Until the peer consents a session stays in its opening, or fails. -/
structure IsOpening (outline : Outline) : Prop where
  stage : outline.stage.isOpening = true ∨ outline.stage = .failed
  pending : ∀ next ∈ outline.pending, next.isOpening = true

/-- A move inside the opening stays in the opening. -/
theorem IsOpening.moveTo {next : Stage} (opening : outline.IsOpening)
    (isOpening : next.isOpening = true) : (outline.moveTo next).IsOpening := by
  rw [Outline.moveTo]
  split
  · refine ⟨opening.stage, ?_⟩
    rintro _ ⟨⟩
    exact isOpening
  · exact ⟨Or.inl isOpening, nofun⟩

/-- A pending move of the opening leads into the opening. -/
theorem IsOpening.settle (opening : outline.IsOpening) :
    outline.settle.IsOpening := by
  refine ⟨?_, nofun⟩
  rw [Outline.settle]
  cases pending : outline.pending with
  | none =>
      exact opening.stage
  | some next =>
      exact Or.inl (opening.pending next pending)

/-- The opening is left by the peer's consent alone. -/
theorem IsOpening.act {later : Outline} (opening : outline.IsOpening)
    (act : outline.Act later) :
    later.IsOpening ∨ HasConsent later.journal := by
  cases act with
  | taken | evaluated | dropped | decoded =>
      exact Or.inl { opening with }
  | framed settled =>
      exact Or.inl { opening with }
  | flushed =>
      exact Or.inl opening.settle
  | agreed =>
      exact Or.inl (IsOpening.moveTo { opening with } rfl)
  | @admitted earlier header response _ _ answered succeeded =>
      refine Or.inr ⟨header, response, ?_, succeeded⟩
      rw [journal_moveTo, answered]
      simp
  | moved _ precedes _ notAdmitted =>
      rcases opening.stage with isOpening | failed
      · exact Or.inl
          (opening.moveTo (precedes.isOpening isOpening notAdmitted))
      · rw [failed] at precedes
        cases precedes

/-- A call leaves the opening by the peer's consent alone. -/
theorem IsOpening.acts {later : Outline} (opening : outline.IsOpening)
    (acts : outline.Acts later) :
    later.IsOpening ∨ HasConsent later.journal := by
  induction acts with
  | refl =>
      exact Or.inl opening
  | tail _ act inductionHypothesis =>
      rcases inductionHypothesis with stillOpening | consent
      · exact stillOpening.act act
      · exact Or.inr (HasConsent.mono consent act.journal_prefix)

end Outline

namespace Session

variable {Client : Type} (session : Session Client)

/-- A session moves as its outline does. -/
theorem outline_setStage (stage : Stage) :
    (session.setStage stage).outline = session.outline.moveTo stage := by
  have sameFrame : session.outline.isWriting = session.outgoing.isSome := rfl
  rw [setStage, Outline.moveTo, sameFrame]
  split
  · rfl
  · dsimp only
    split <;> rfl

/-- A session settles as its outline does. -/
theorem outline_settle : session.settle.outline = session.outline.settle := by
  have samePending : session.outline.pending = session.pending := rfl
  rw [settle, Outline.settle, samePending]
  cases session.pending with
  | none =>
      rfl
  | some stage =>
      exact outline_setStage _ stage

/-- The beginning of a call is not seen in the outline. -/
theorem outline_begin : session.begin.outline = session.outline := by
  rw [begin]
  split <;> rfl

end Session

end BrokerSession
