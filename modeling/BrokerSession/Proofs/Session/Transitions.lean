import BrokerSession.Proofs.Session.Conduct
import BrokerSession.Proofs.Session.FirstError
import BrokerSession.Proofs.Session.Handover
import BrokerSession.Proofs.Session.Invariant
import BrokerSession.Proofs.Session.Stream
import Mathlib.Data.List.Infix

namespace BrokerSession

/-!
# Transitions between stages

The stages that can be seen between two operations follow the documented order
and never go back.  Each frame is made on the way through the stage that sends
it, and that stage is left only once its frame was accepted to the last byte.
-/

open Journal Relation

namespace Stage

/-- The documented transitions: onwards, or to failure. -/
inductive Next : Stage → Stage → Prop where
  | onwards {stage next : Stage} (precedes : stage.Precedes next) :
      Next stage next
  | failed {stage : Stage} (unfinished : stage.isTerminal = false) :
      Next stage .failed

/-- How many transitions a stage comes after the first one at most. -/
def rank : Stage → Nat
  | .sendApiVersionsRequest => 0
  | .receiveApiVersionsResponse => 1
  | .sendHandshakeRequest => 2
  | .receiveHandshakeResponse => 3
  | .initial => 4
  | .intermediate => 5
  | .clientComplete => 6
  | .complete | .failed => 7

theorem Next.rank_lt {stage next : Stage} (isNext : stage.Next next) :
    stage.rank < next.rank := by
  cases isNext with
  | onwards precedes =>
      cases precedes <;> decide
  | failed unfinished =>
      cases stage with
      | complete | failed =>
          cases unfinished
      | _ =>
          decide

theorem eq_or_rank_lt {stage later : Stage}
    (leads : ReflTransGen Next stage later) :
    later = stage ∨ stage.rank < later.rank := by
  induction leads with
  | refl =>
      exact Or.inl rfl
  | tail _ isNext inductionHypothesis =>
      have grows := isNext.rank_lt
      rcases inductionHypothesis with rfl | grown
      · exact Or.inr grows
      · exact Or.inr (Nat.lt_trans grown grows)

/-- A path that comes back has never left. -/
theorem eq_of_leads_back {stage between : Stage}
    (there : ReflTransGen Next stage between)
    (back : ReflTransGen Next between stage) : between = stage := by
  rcases eq_or_rank_lt there with same | grown
  · exact same
  · rcases eq_or_rank_lt back with same | grownAgain
    · exact same.symm
    · exact (Nat.lt_asymm grown grownAgain).elim

theorem leads_of_precedes {stage later : Stage}
    (leads : ReflTransGen Precedes stage later) :
    ReflTransGen Next stage later :=
  leads.lift id fun _ _ => Next.onwards

/-- A stage leads to the one whose frame its handler makes. -/
theorem leads_speaking {stage speaker : Stage}
    (speaks : speaker ∈ stage.speaking?) :
    ReflTransGen Precedes stage speaker := by
  cases stage with
  | receiveApiVersionsResponse =>
      cases speaks
      exact .single .agreed
  | receiveHandshakeResponse =>
      cases speaks
      exact .single .admitted
  | clientComplete | complete | failed =>
      cases speaks
  | sendApiVersionsRequest | sendHandshakeRequest | initial | intermediate =>
      cases speaks
      exact .refl

/--
The stage that sends the frame with a number, counting from zero.

With a handshake two requests come first; then there is one initial token.
-/
def sender (handshake : Bool) (number : Nat) : Stage :=
  match handshake, number with
  | true, 0 => .sendApiVersionsRequest
  | true, 1 => .sendHandshakeRequest
  | true, 2 | false, 0 => .initial
  | _, _ => .intermediate

/-- After the opening requests and a token every frame is a further token. -/
theorem sender_of_opened {config : Config} {number : Nat}
    (opened : (openingTasks config).length < number) :
    sender config.handshakeRequestEnable number = .intermediate := by
  rw [openingTasks] at opened
  cases enabled : config.handshakeRequestEnable with
  | true =>
      rw [enabled, if_pos rfl] at opened
      obtain ⟨others, rfl⟩ := Nat.exists_eq_add_of_le' opened
      rfl
  | false =>
      rw [enabled, if_neg Bool.false_ne_true] at opened
      obtain ⟨others, rfl⟩ := Nat.exists_eq_add_of_le' opened
      rfl

end Stage

namespace Session

variable {origin : Origin} {session : Session SaslClient} {point : Point}
  {exchange : Exchange} {journal : List Event}

/-! ## The next frame -/

/-- A session at rest makes its next frame in the stage that sends it. -/
theorem Rests.sender_eq {stage : Stage} {pending : Option Stage}
    (script : Script exchange point journal)
    (fresh : exchange.client.IsFresh)
    (rests : Rests stage pending point)
    (notWriting : point.activity.isWriting = false) {speaker : Stage}
    (speaks : speaker ∈ stage.speaking?) :
    Stage.sender exchange.config.handshakeRequestEnable
        (framings journal).length = speaker := by
  cases rests with
  | asking isStage _ _ ready =>
      obtain ⟨enabled, nothing, -⟩ := script.unasked ready
      rw [List.map_eq_nil_iff.mp nothing, enabled]
      rw [isStage] at speaks
      cases speaks
      rfl
  | starting isStage _ stillFresh challenged unasked =>
      obtain ⟨disabled, nothing, -⟩ :=
        script.unopened fresh stillFresh challenged unasked
      rw [List.map_eq_nil_iff.mp nothing, disabled]
      rw [isStage] at speaks
      cases speaks
      rfl
  | writing _ _ _ _ _ writing | writingNext _ _ _ _ _ _ writing =>
      rw [writing] at notWriting
      cases notWriting
  | awaitingFinal _ _ isStage =>
      rw [isStage] at speaks
      cases speaks
  | awaiting task header isStage _ _ awaiting =>
      obtain ⟨sent, dispatched, plan⟩ := script.exists_dispatched
      have opening := script.tokens_ne_nil_or_isOpening fresh
      have count : (framings journal).length = (sent.map Prod.fst).length := by
        rw [← dispatched.framings, List.length_map, List.length_map]
      rw [awaiting] at plan opening
      rw [isStage] at speaks
      rw [count]
      cases task with
      | versions =>
          obtain ⟨enabled, -, tasks⟩ := plan
          have sentTasks : sent.map Prod.fst = [.versions] := by
            simpa [Activity.ready?] using tasks
          rw [sentTasks, enabled]
          cases speaks
          rfl
      | handshake =>
          obtain ⟨enabled, -, tasks⟩ := plan
          have sentTasks : sent.map Prod.fst = [.versions, .handshake] := by
            simpa [Activity.ready?] using tasks
          rw [sentTasks, enabled]
          cases speaks
          rfl
      | token content =>
          have someToken : tokens journal ≠ [] := by
            rcases opening with someToken | ⟨-, -, isVersions | isHandshake⟩
            · exact someToken
            · cases isVersions
            · cases isHandshake
          have sentTasks :
              sent.map Prod.fst =
                openingTasks exchange.config ++
                  (tokens journal).map .token := by
            simpa [Script.IsPlan, Activity.task?, Activity.ready?] using plan
          have opened :
              (openingTasks exchange.config).length <
                (sent.map Prod.fst).length := by
            have positive := List.length_pos_iff.mpr someToken
            rw [sentTasks, List.length_append, List.length_map]
            omega
          rw [Stage.sender_of_opened opened]
          cases speaks
          rfl

/-! ## Calls -/

/-- What a successful call does to the frames of a session. -/
inductive Sends (sender : Nat → Stage) (session later : Session SaslClient) :
    Prop where
  /-- The frame being written is not flushed yet. -/
  | waiting (same : later.outline = session.outline)
  | nothing (same : later.outline.made = session.outline.made)
      (idle : later.outgoing = none)
  | one (made : later.outline.made = session.outline.made + 1)
      (reached :
        ReflTransGen Stage.Precedes session.stage
          (sender session.outline.made))
      (passed :
        ReflTransGen Stage.Precedes (sender session.outline.made) later.stage)
      (holds :
        later.outgoing.isSome = true →
          later.stage = sender session.outline.made)

/-- The stage of a handler, with the number of the frame that it may make. -/
theorem Tracks.sender_eq (tracks : Tracks origin session point)
    (fresh : origin.exchange.client.IsFresh)
    (rests : Rests session.stage session.pending point) {speaker : Stage}
    (speaks : speaker ∈ (session.pending.getD session.stage).speaking?) :
    Stage.sender origin.exchange.config.handshakeRequestEnable
        session.outline.made = speaker := by
  by_cases busy : session.outgoing.isSome = true
  · obtain ⟨task, header, writing⟩ := exists_writing tracks busy
    have sent :=
      Rests.sender_eq (tracks.script.move (.flushed writing)) fresh
        (rests.flushed writing) rfl speaks
    simpa [Outline.made, outline] using sent
  · have notWriting : point.activity.isWriting = false := by
      rw [← tracks.outgoing]
      simpa using busy
    have settled := rests.pending_eq_none notWriting
    rw [settled] at rests speaks
    exact Rests.sender_eq tracks.script fresh rests notWriting speaks

/-- A frame is made in the stage that sends it. -/
theorem Advances.sends (advances : Advances origin session)
    (fresh : origin.exchange.client.IsFresh)
    (orderly : session.outline.IsOrderly)
    (succeeds : session.authenticate.1 = .ok ()) :
    Sends (Stage.sender origin.exchange.config.handshakeRequestEnable) session
      session.authenticate.2 := by
  rcases advances with ⟨point, tracks, -, rests⟩ | finished
  · rcases session.authenticate_cases orderly with
      ⟨-, same⟩ | ⟨later, same, acts, ⟨unchanged, -⟩ | speaks⟩ |
        ⟨cause, later, between, same, -, -⟩
    · rw [same] at succeeds
      cases succeeds
    · rw [same]
      exact .waiting unchanged
    · rw [same]
      rcases speaks with
        ⟨made, idle⟩ | ⟨speaker, isSpeaker, made, passed, holds⟩
      · exact .nothing made (by simpa [outline] using idle)
      · have isSender := tracks.sender_eq fresh rests isSpeaker
        have reached :
            ReflTransGen Stage.Precedes session.stage
              (session.pending.getD session.stage) := by
          cases pending : session.pending with
          | none =>
              exact .refl
          | some next =>
              exact .single (orderly next pending).2
        refine .one made ?_ ?_ ?_
        · rw [isSender]
          exact reached.trans (Stage.leads_speaking isSpeaker)
        · rw [isSender]
          exact passed
        · rw [isSender]
          exact holds
    · rw [same] at succeeds
      cases succeeds
  · rw [finished.authenticate]
    refine .nothing ?_ ?_
    · rw [outline_begin]
    · obtain ⟨ledger, isBegun⟩ := session.exists_begin
      rw [isBegun]
      exact finished.outgoing

/-! ## Operations -/

/-- A session that is over stays in its stage. -/
theorem Sound.stage_perform_of_terminal (sound : Sound origin session)
    (terminal : session.stage.isTerminal = true) (operation : Operation) :
    (session.perform operation).2.stage = session.stage := by
  cases operation with
  | authenticate =>
      rw [Session.perform]
      cases stage : session.stage with
      | failed =>
          rw [authenticate_of_failed stage]
          exact stage
      | complete =>
          obtain ⟨ledger, isBegun⟩ := session.exists_begin
          rw [(sound.finished stage).authenticate, isBegun]
          exact stage
      | _ =>
          rw [stage] at terminal
          cases terminal
  | close =>
      rw [Session.perform, Session.close, if_pos terminal]
  | transport step =>
      rfl

/-- From one operation to the next the stages follow the transitions. -/
theorem Sound.leads_perform (sound : Sound origin session)
    (orderly : session.outline.IsOrderly) (operation : Operation) :
    ReflTransGen Stage.Next session.stage
      (session.perform operation).2.stage := by
  by_cases terminal : session.stage.isTerminal = true
  · rw [sound.stage_perform_of_terminal terminal operation]
  · rcases session.outline_perform_cases orderly operation with
      acts | ⟨between, -, failed⟩ | ⟨ended, -⟩
    · exact Stage.leads_of_precedes (Outline.Acts.leads acts orderly)
    · have isFailed : (session.perform operation).2.stage = .failed :=
        congrArg Outline.stage failed
      rw [isFailed]
      exact .single (.failed (by simpa using terminal))
    · exact (terminal ended).elim

theorem Sound.leads_run (sound : Sound origin session)
    (orderly : session.outline.IsOrderly) (operations : List Operation) :
    ReflTransGen Stage.Next session.stage (session.run operations).stage := by
  induction operations generalizing origin session with
  | nil =>
      exact .refl
  | cons operation later inductionHypothesis =>
      exact (sound.leads_perform orderly operation).trans
        (inductionHypothesis (sound.perform operation)
          (isOrderly_run orderly [operation]))

/-- A frame being written is the last one, and holds its stage. -/
def HoldsItsFrame (handshake : Bool) (session : Session SaslClient) : Prop :=
  session.outgoing.isSome = true → ∀ number,
    session.outline.made = number + 1 →
      session.stage = Stage.sender handshake number

theorem holdsItsFrame_of_idle (handshake : Bool)
    (idle : session.outgoing = none) : HoldsItsFrame handshake session := by
  intro busy
  rw [idle] at busy
  cases busy

/-- A frame that is made keeps the session in its stage until it is flushed. -/
theorem Sends.holdsItsFrame {handshake : Bool} {later : Session SaslClient}
    (sends : Sends (Stage.sender handshake) session later)
    (held : HoldsItsFrame handshake session) :
    HoldsItsFrame handshake later := by
  cases sends with
  | waiting same =>
      intro busy number made
      have sameStage : later.stage = session.stage :=
        congrArg Outline.stage same
      have sameFrame : later.outgoing.isSome = session.outgoing.isSome :=
        congrArg Outline.isWriting same
      rw [same] at made
      rw [sameStage]
      exact held (sameFrame.symm.trans busy) number made
  | nothing _ idle =>
      exact holdsItsFrame_of_idle handshake idle
  | one made _ _ holds =>
      intro busy number isNumber
      obtain rfl : session.outline.made = number :=
        Nat.succ.inj (made.symm.trans isNumber)
      exact holds busy

theorem Sound.holdsItsFrame_perform (sound : Sound origin session)
    (fresh : origin.exchange.client.IsFresh)
    (orderly : session.outline.IsOrderly)
    (held :
      HoldsItsFrame origin.exchange.config.handshakeRequestEnable session)
    (operation : Operation) :
    HoldsItsFrame origin.exchange.config.handshakeRequestEnable
      (session.perform operation).2 := by
  cases operation with
  | authenticate =>
      cases sound with
      | failed failed =>
          rw [Session.perform, authenticate_of_failed failed.stage]
          exact held
      | advances advances =>
          rcases advances.authenticate with
            ⟨succeeds, -⟩ | ⟨cause, -, -, failed⟩
          · exact (advances.sends fresh orderly succeeds).holdsItsFrame held
          · exact holdsItsFrame_of_idle _ failed.outgoing
  | close =>
      refine holdsItsFrame_of_idle _ ?_
      rw [Session.perform, Session.close]
      split <;> rfl
  | transport step =>
      exact held

theorem Sound.holdsItsFrame_run (sound : Sound origin session)
    (fresh : origin.exchange.client.IsFresh)
    (orderly : session.outline.IsOrderly)
    (held :
      HoldsItsFrame origin.exchange.config.handshakeRequestEnable session)
    (operations : List Operation) :
    HoldsItsFrame origin.exchange.config.handshakeRequestEnable
      (session.run operations) := by
  induction operations generalizing origin session with
  | nil =>
      exact held
  | cons operation later inductionHypothesis =>
      have moved :=
        inductionHypothesis (sound.perform operation) fresh
          (isOrderly_run orderly [operation])
          (sound.holdsItsFrame_perform fresh orderly held operation)
      exact moved

/-! ## Frames that were accepted -/

/-- Whatever is followed by another frame is there to its last byte. -/
theorem Delivered.prefix_of_followed {accepted : Bytes} {number : Nat}
    (delivered : Delivered journal accepted)
    (followed : number + 1 < (frames journal).length) :
    ((frames journal).take (number + 1)).flatten <+: accepted := by
  refine List.IsPrefix.trans ?_ delivered.whole
  have earlier : number + 1 ≤ (frames journal).length - 1 := by omega
  rw [List.dropLast_eq_take]
  exact List.IsPrefix.flatten (List.take_prefix_take_left earlier)

/-- A frame whose stage was left has been accepted to its last byte. -/
theorem Sound.exists_accepted {handshake : Bool} (sound : Sound origin session)
    (held : HoldsItsFrame handshake session)
    (notFailed : session.stage ≠ .failed) :
    ∃ accepted,
      origin.lead ++ session.transport.outbound = origin.base ++ accepted ∧
        ∀ number < (frames session.journal).length,
          session.stage ≠ Stage.sender handshake number →
            ((frames session.journal).take (number + 1)).flatten <+:
              accepted := by
  obtain ⟨unsent, reading, conserves, kept⟩ := sound.exists_conserves
  obtain ⟨accepted, isAccepted, together, delivered⟩ :=
    conserves.exists_delivered
  refine ⟨accepted, isAccepted, ?_⟩
  intro number isMade isLeft
  by_cases followed : number + 1 < (frames session.journal).length
  · exact delivered.prefix_of_followed followed
  · have isLast : (frames session.journal).length = number + 1 := by omega
    have made : session.outline.made = number + 1 := by
      rw [← isLast, frames, List.length_map]
      rfl
    have idle : session.outgoing = none := by
      by_contra busy
      exact isLeft (held (Option.isSome_iff_ne_none.mpr busy) number made)
    have nothing : unsent = [] := by
      rw [kept notFailed, Session.unsent, idle]
      rfl
    rw [nothing, List.append_nil] at together
    rw [← isLast, List.take_length, together]

/-- Only a PLAIN client with wrapped tokens waits for a last confirmation. -/
theorem Sound.confirms (sound : Sound origin session)
    (fresh : origin.exchange.client.IsFresh)
    (isStage : session.stage = .clientComplete) :
    session.authenticateVersion.isSome = true ∧
      ∀ client, origin.exchange.client ≠ .scram client := by
  have notFailed : session.stage ≠ .failed := by
    rw [isStage]
    exact Stage.noConfusion
  rcases sound.advances_of_ne notFailed with
    ⟨point, tracks, -, rests⟩ | finished
  · rw [isStage] at rests
    refine ⟨tracks.isSome_authenticateVersion rests, ?_⟩
    intro client isScram
    cases rests with
    | awaitingFinal _ _ _ _ complete awaiting =>
        have notAwaiting :=
          notAwaiting_of_scram tracks.script isScram fresh complete
        rw [awaiting] at notAwaiting
        cases notAwaiting
    | writing task _ other | awaiting task _ other =>
        cases task <;> cases other
    | asking other | starting other | writingNext _ _ other =>
        cases other
  · cases isStage.symm.trans finished.stage

/-! ## Runs -/

/-- What is seen of the stages of a session, whatever is done to it. -/
structure KeepsToStages (first : Session SaslClient) : Prop where
  starts : first.stage = .first first.config.handshakeRequestEnable
  /-- An operation takes a session along the documented transitions. -/
  follows :
    ∀ operations operation,
      ReflTransGen Stage.Next (first.run operations).stage
        ((first.run operations).perform operation).2.stage
  /-- A stage that is seen twice was never left in between. -/
  neverBack :
    ∀ operations between later,
      (first.run (operations ++ between ++ later)).stage =
          (first.run operations).stage →
        (first.run (operations ++ between)).stage =
          (first.run operations).stage
  /-- A call that does not fail makes a frame on its way through its stage. -/
  makes :
    ∀ operations operation,
      let before := first.run operations
      let later := (before.perform operation).2
      later.stage ≠ .failed →
        (frames later.journal).length = (frames before.journal).length ∨
          let sender :=
            Stage.sender first.config.handshakeRequestEnable
              (frames before.journal).length
          (frames later.journal).length = (frames before.journal).length + 1 ∧
            ReflTransGen Stage.Next before.stage sender ∧
            ReflTransGen Stage.Next sender later.stage
  /-- A stage is left for the next one once its frames were accepted. -/
  accepted :
    ∀ operations,
      let final := first.run operations
      final.stage ≠ .failed →
        ∃ accepted,
          first.takenAway operations ++ final.transport.outbound =
              first.transport.outbound ++ accepted ∧
            ∀ number < (frames final.journal).length,
              final.stage ≠
                  Stage.sender first.config.handshakeRequestEnable number →
                ((frames final.journal).take (number + 1)).flatten <+:
                  accepted
  confirms :
    ∀ operations, (first.run operations).stage = .clientComplete →
      (first.run operations).authenticateVersion.isSome = true ∧
        ∀ client, first.client ≠ .scram client
  fails :
    ∀ operations cause,
      (first.run operations).authenticate.1 = .error cause →
        (first.run operations).authenticate.2.stage = .failed

/-- The frames of an operation that does not fail are made in their stages. -/
theorem Sound.makes (sound : Sound origin session)
    (fresh : origin.exchange.client.IsFresh)
    (orderly : session.outline.IsOrderly) (operation : Operation)
    (notFailed : (session.perform operation).2.stage ≠ .failed) :
    let later := (session.perform operation).2
    let sender :=
      Stage.sender origin.exchange.config.handshakeRequestEnable
        session.outline.made
    later.outline.made = session.outline.made ∨
      later.outline.made = session.outline.made + 1 ∧
        ReflTransGen Stage.Precedes session.stage sender ∧
        ReflTransGen Stage.Precedes sender later.stage := by
  cases operation with
  | authenticate =>
      rw [Session.perform] at notFailed
      rw [Session.perform]
      have unfailed : session.stage ≠ .failed := by
        intro failed
        rw [authenticate_of_failed failed] at notFailed
        exact notFailed failed
      have advances := sound.advances_of_ne unfailed
      rcases advances.authenticate with ⟨succeeds, -⟩ | ⟨cause, -, -, failed⟩
      · cases advances.sends fresh orderly succeeds with
        | waiting same =>
            exact Or.inl (congrArg Outline.made same)
        | nothing same =>
            exact Or.inl same
        | one made reached passed =>
            exact Or.inr ⟨made, reached, passed⟩
      · exact (notFailed failed.stage).elim
  | close =>
      refine Or.inl ?_
      rw [Session.perform, Session.close]
      split <;> rfl
  | transport step =>
      exact Or.inl rfl

/-- Every call that fails leaves a session failed. -/
theorem stage_authenticate_of_error {cause : SessionError}
    (fails : session.authenticate.1 = .error cause) :
    session.authenticate.2.stage = .failed := by
  revert fails
  rw [authenticate]
  split
  · next failed =>
      exact fun _ => failed
  · cases advance.run session.begin with
    | ok content later =>
        rintro ⟨⟩
    | error cause later =>
        exact fun _ => rfl

/-- Every session with a fresh mechanism keeps to the documented stages. -/
theorem keepsToStages_of_isFresh (config : Config) (node host : String)
    (subject : Subject) (transport : Transport) {client : SaslClient}
    (fresh : client.IsFresh) :
    KeepsToStages (start config node host subject transport client) := by
  let first := start config node host subject transport client
  let origin := Origin.start config node host client transport
  have sound (operations : List Operation) :
      Sound (origin.after (first.takenAway operations) operations)
        (first.run operations) :=
    (sound_start config node host subject transport fresh).run operations
  have orderlyFirst : first.outline.IsOrderly :=
    Outline.isOrderly_of_settled rfl
  have orderly (operations : List Operation) :
      (first.run operations).outline.IsOrderly :=
    isOrderly_run orderlyFirst operations
  have made (session : Session SaslClient) :
      session.outline.made = (frames session.journal).length := by
    rw [frames, List.length_map]
    rfl
  constructor
  case starts =>
    rfl
  case follows =>
    exact fun operations operation =>
      (sound operations).leads_perform (orderly operations) operation
  case neverBack =>
    intro operations between later comesBack
    rw [run_append] at comesBack ⊢
    rw [run_append] at comesBack
    have there :=
      (sound operations).leads_run (orderly operations) between
    have soundThere := (sound operations).run between
    have orderlyThere := isOrderly_run (orderly operations) between
    have back := soundThere.leads_run orderlyThere later
    rw [comesBack] at back
    exact Stage.eq_of_leads_back there back
  case makes =>
    intro operations operation before later notFailed
    have makes :=
      (sound operations).makes fresh (orderly operations) operation notFailed
    rw [← made, ← made]
    rcases makes with same | ⟨one, reached, passed⟩
    · exact Or.inl same
    · exact Or.inr
        ⟨one, Stage.leads_of_precedes reached, Stage.leads_of_precedes passed⟩
  case accepted =>
    intro operations final notFailed
    have held :=
      (sound_start config node host subject transport fresh).holdsItsFrame_run
        fresh orderlyFirst (holdsItsFrame_of_idle _ rfl) operations
    exact (sound operations).exists_accepted held notFailed
  case confirms =>
    exact fun operations => (sound operations).confirms fresh
  case fails =>
    exact fun operations cause => stage_authenticate_of_error

/-- A PLAIN client with wrapped tokens, whose peer answers one by one. -/
theorem keepsToStages_of_isFresh_plain :
    let client : SaslClient :=
      .plain
        { authorizationId := none, username := "user", password := "secret" }
    let versions : Bytes :=
      [0, 0, 0, 22, 255, 255, 255, 255, 0, 0, 0, 0, 0, 2, 0, 17, 0, 0, 0, 0, 0,
        36, 0, 0, 0, 0]
    let handshake : Bytes :=
      [0, 0, 0, 17, 0, 0, 0, 0, 0, 0, 0, 0, 0, 1, 0, 5, 80, 76, 65, 73, 78]
    let admission : Bytes := [0, 0, 0, 12, 0, 0, 0, 1, 0, 0, 255, 255, 0, 0, 0, 0]
    let session := start {} "broker:9092" "broker" {} {} client
    let stageAfter (operations : List Operation) :=
      (session.run operations).stage
    client.IsFresh ∧
      List.map stageAfter
          (List.inits
            [.authenticate, .transport (.push versions), .authenticate,
              .transport (.push handshake), .authenticate, .authenticate,
              .transport (.push admission), .authenticate]) =
        [.sendApiVersionsRequest, .receiveApiVersionsResponse,
          .receiveApiVersionsResponse, .receiveHandshakeResponse,
          .receiveHandshakeResponse, .intermediate, .clientComplete,
          .clientComplete, .complete] ∧
      KeepsToStages session := by
  intro client versions handshake admission session stageAfter
  have fresh : client.IsFresh := rfl
  refine ⟨fresh, by decide +kernel, ?_⟩
  exact keepsToStages_of_isFresh {} "broker:9092" "broker" {} {} fresh

end Session

end BrokerSession
