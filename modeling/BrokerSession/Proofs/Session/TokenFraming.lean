import BrokerSession.Proofs.Session.Conduct
import BrokerSession.Proofs.Session.Versions

namespace BrokerSession

/-!
# How tokens travel

The version of the handshake tells the peer how the tokens will travel: raw
after version zero, wrapped after version one.  A session takes both decisions
from its peer's list, but from different entries of it.  They agree exactly if
the list offers version one of the handshake if and only if it offers wrapped
tokens; with any mechanism and in every run.
-/

open Journal

/-- Whether a frame carries a token, wrapped or raw. -/
def CarriesToken (framing : Framing) : Prop :=
  ∀ request ∈ framing.1, request.api = .saslAuthenticate

/-- Whether a frame asks for the versions of the peer. -/
def AsksVersions (framing : Framing) : Prop :=
  ∃ request ∈ framing.1, request.api = .apiVersions

namespace ApiVersionsResponse

/-- Whether the peer may be told that tokens will be wrapped. -/
def OffersSecondHandshake (response : ApiVersionsResponse) : Prop :=
  ∃ range ∈ response.apiVersion? .saslHandshake, 1 ≤ range.maxVersion

/-- Whether tokens may be wrapped. -/
def OffersWrapping (response : ApiVersionsResponse) : Prop :=
  (response.apiVersion? .saslAuthenticate).isSome = true

end ApiVersionsResponse

namespace Outline

variable {outline : Outline}

/-- Nothing was answered yet. -/
structure IsUnlisted (outline : Outline) : Prop where
  stage :
    outline.stage = .sendApiVersionsRequest ∨
      outline.stage = .receiveApiVersionsResponse ∨ outline.stage = .failed
  pending : ∀ next ∈ outline.pending, next = .receiveApiVersionsResponse
  unanswered : answers outline.journal = []
  asks : ∀ framing ∈ framings outline.journal, AsksVersions framing

/-- The only answer so far has just arrived, or was given up on. -/
structure IsListed (outline : Outline) : Prop where
  stage :
    outline.stage = .receiveApiVersionsResponse ∨ outline.stage = .failed
  pending : outline.pending = none
  idle : outline.isWriting = false
  unasked : outline.outstanding = none
  answered : ∃ answer, answers outline.journal = [answer]
  asks : ∀ framing ∈ framings outline.journal, AsksVersions framing

/-- Everything after the first frame goes by the only list that arrived. -/
structure HasAgreed (response : ApiVersionsResponse) (outline : Outline) :
    Prop where
  notAsking : outline.stage ≠ .sendApiVersionsRequest
  notAwaiting : outline.stage ≠ .receiveApiVersionsResponse
  terms : outline.terms = .ofResponse response
  asksOthers : ∀ header ∈ outline.outstanding, header.api ≠ .apiVersions
  isListed :
    ∃ header, (header, .apiVersions response) ∈ answers outline.journal
  unique :
    ∀ header other,
      (header, .apiVersions other) ∈ answers outline.journal →
        other = response
  framed :
    ∀ framing ∈ framings outline.journal,
      AsksVersions framing ∨
        ∃ (task : Task) (correlationId : Int32),
          task.Framed outline.config (.ofResponse response) correlationId
            framing

/-- How far the versions are settled, as the stage and the journal show. -/
inductive Negotiates (outline : Outline) : Prop where
  | unlisted (isUnlisted : outline.IsUnlisted)
  | listed (isListed : outline.IsListed)
  | agreed (response : ApiVersionsResponse) (agreed : HasAgreed response outline)

/-- The versions are not asked for again. -/
theorem notAsking_of_precedes {stage next : Stage}
    (precedes : stage.Precedes next)
    (notAsking : stage ≠ .sendApiVersionsRequest) :
    next ≠ .sendApiVersionsRequest ∧ next ≠ .receiveApiVersionsResponse := by
  cases precedes with
  | askedVersions =>
      exact (notAsking rfl).elim
  | agreed | askedHandshake | admitted | begun | satisfied | finished
  | confirmed =>
      exact ⟨nofun, nofun⟩

/-- A frame that is due before the versions are settled asks for them. -/
theorem IsUnlisted.asksVersions {task : Task} {correlationId : Int32}
    {framing : Framing} (unlisted : outline.IsUnlisted)
    (due : task.IsDue outline.stage)
    (framed :
      task.Framed outline.config outline.terms correlationId framing) :
    AsksVersions framing := by
  have isStage := unlisted.stage
  cases task with
  | versions =>
      obtain ⟨header, isHeader⟩ :=
        Option.isSome_iff_exists.mp framed.isSome_eq
      exact ⟨header, isHeader, framed.api_eq header isHeader⟩
  | handshake =>
      have isSending : outline.stage = .sendHandshakeRequest := due
      simp [isSending] at isStage
  | token content =>
      rcases due with isSending | isSending <;> simp [isSending] at isStage

/-- Without an answer nothing but a first one can change that. -/
theorem IsUnlisted.act {later : Outline} (unlisted : outline.IsUnlisted)
    (orderly : outline.IsOrderly) (act : outline.Act later) :
    later.IsUnlisted ∨ later.IsListed := by
  have isStage := unlisted.stage
  cases act with
  | taken | evaluated =>
      exact Or.inl
        { unlisted with
          unanswered := by simpa [note] using unlisted.unanswered
          asks := by simpa [note] using unlisted.asks }
  | dropped =>
      exact Or.inl { unlisted with }
  | @framed task correlationId header frame _ due framed =>
      have asks := unlisted.asksVersions due framed
      refine Or.inl
        { unlisted with
          unanswered := by simpa [note] using unlisted.unanswered
          asks := ?_ }
      intro framing member
      simp only [note, framings_append, framings_singleton, List.mem_append]
        at member
      rcases member with earlier | isNew
      · exact unlisted.asks framing earlier
      · cases List.mem_singleton.mp isNew
        exact asks
  | flushed =>
      refine Or.inl
        { stage := ?_
          pending := by rintro _ ⟨⟩
          unanswered := by simpa [settle] using unlisted.unanswered
          asks := by simpa [settle] using unlisted.asks }
      rw [settle]
      cases pending : outline.pending with
      | none =>
          exact isStage
      | some next =>
          exact Or.inr (Or.inl (unlisted.pending next pending))
  | @decoded header payload response idle receives =>
      have isReceiving : outline.stage = .receiveApiVersionsResponse := by
        rcases isStage with isStage | isStage | isStage
        · simp [isStage, Stage.isReceiving] at receives
        · exact isStage
        · simp [isStage, Stage.isReceiving] at receives
      exact Or.inr
        { stage := Or.inl isReceiving
          pending := orderly.pending_eq_none idle
          idle := idle
          unasked := rfl
          answered :=
            ⟨(header, response), by simp [note, unlisted.unanswered]⟩
          asks := by simpa [note] using unlisted.asks }
  | agreed _ _ answered =>
      have unanswered := unlisted.unanswered
      simp [answered] at unanswered
  | admitted _ isReceiving =>
      simp [isReceiving] at isStage
  | moved _ precedes notAgreed =>
      rcases isStage with isStage | isStage | isStage
      · rw [isStage] at precedes
        cases precedes
        rw [moveTo]
        split
        · exact Or.inl { unlisted with pending := by rintro _ ⟨⟩; rfl }
        · exact Or.inl
            { unlisted with
              stage := Or.inr (Or.inl rfl)
              pending := by rintro _ ⟨⟩ }
      · exact (notAgreed isStage).elim
      · rw [isStage] at precedes
        cases precedes

/-- An answer that has just arrived is acted upon before anything else. -/
theorem IsListed.act {later : Outline} (listed : outline.IsListed)
    (act : outline.Act later) :
    later.IsListed ∨ ∃ response, HasAgreed response later := by
  have isStage := listed.stage
  have idle := listed.idle
  cases act with
  | taken | evaluated =>
      exact Or.inl
        { listed with
          answered := by simpa [note] using listed.answered
          asks := by simpa [note] using listed.asks }
  | dropped =>
      exact Or.inl { listed with unasked := rfl }
  | @framed task _ _ _ _ due =>
      cases task with
      | versions | handshake =>
          have isSending := due
          rw [Task.IsDue] at isSending
          simp [isSending] at isStage
      | token content =>
          rcases due with isSending | isSending <;> simp [isSending] at isStage
  | flushed busy =>
      cases idle.symm.trans busy
  | decoded _ _ awaited =>
      cases listed.unasked.symm.trans awaited
  | @agreed earlier header response _ _ answered =>
      obtain ⟨answer, only⟩ := listed.answered
      have isFirst :
          answers earlier = [] ∧ (header, .apiVersions response) = answer := by
        rw [answered, answers_append, answers_singleton] at only
        simpa using List.append_eq_singleton_iff.mp only
      refine Or.inr ⟨response, ?_⟩
      rw [moveTo, idle, if_neg Bool.false_ne_true]
      refine
        { notAsking := by rintro ⟨⟩
          notAwaiting := by rintro ⟨⟩
          terms := rfl
          asksOthers := by simp [listed.unasked]
          isListed := ⟨header, by simp [answered]⟩
          unique := ?_
          framed := fun framing member => Or.inl (listed.asks framing member) }
      intro other found member
      have isOnly : (other, .apiVersions found) = answer := by
        simpa [only] using member
      cases isOnly.trans isFirst.2.symm
      rfl
  | admitted _ isReceiving =>
      simp [isReceiving] at isStage
  | moved _ precedes notAgreed =>
      rcases isStage with isStage | isStage
      · exact (notAgreed isStage).elim
      · rw [isStage] at precedes
        cases precedes

theorem HasAgreed.moveTo {response : ApiVersionsResponse} {next : Stage}
    (agreed : HasAgreed response outline)
    (isLater :
      next ≠ .sendApiVersionsRequest ∧ next ≠ .receiveApiVersionsResponse) :
    HasAgreed response (outline.moveTo next) := by
  rw [Outline.moveTo]
  split
  · exact { agreed with }
  · exact { agreed with notAsking := isLater.1, notAwaiting := isLater.2 }

/-- What is due after the versions are settled goes by them. -/
theorem HasAgreed.act {response : ApiVersionsResponse} {later : Outline}
    (agreed : HasAgreed response outline) (orderly : outline.IsOrderly)
    (act : outline.Act later) : HasAgreed response later := by
  cases act with
  | taken | evaluated =>
      exact
        { agreed with
          isListed := by simpa [note] using agreed.isListed
          unique := by simpa [note] using agreed.unique
          framed := by simpa [note] using agreed.framed }
  | dropped =>
      exact { agreed with asksOthers := by rintro _ ⟨⟩ }
  | @framed task correlationId sent frame _ due framed =>
      have notVersions : task.api ≠ .apiVersions := by
        cases task with
        | versions =>
            exact (agreed.notAsking due).elim
        | handshake | token =>
            rintro ⟨⟩
      refine
        { agreed with
          asksOthers := ?_
          isListed := by simpa [note] using agreed.isListed
          unique := by simpa [note] using agreed.unique
          framed := ?_ }
      · intro request isOutstanding
        cases sent with
        | none =>
            exact agreed.asksOthers request isOutstanding
        | some asked =>
            cases isOutstanding
            rw [framed.api_eq request rfl]
            exact notVersions
      · intro framing member
        simp only [note, framings_append, framings_singleton, List.mem_append]
          at member
        rcases member with earlier | isNew
        · exact agreed.framed framing earlier
        · cases List.mem_singleton.mp isNew
          rw [agreed.terms] at framed
          exact Or.inr ⟨task, correlationId, framed⟩
  | flushed =>
      have isLater :
          outline.pending.getD outline.stage ≠ .sendApiVersionsRequest ∧
            outline.pending.getD outline.stage ≠
              .receiveApiVersionsResponse := by
        cases pending : outline.pending with
        | none =>
            exact ⟨agreed.notAsking, agreed.notAwaiting⟩
        | some next =>
            exact notAsking_of_precedes (orderly next pending).2
              agreed.notAsking
      exact
        { agreed with
          notAsking := isLater.1
          notAwaiting := isLater.2
          isListed := by simpa [settle] using agreed.isListed
          unique := by simpa [settle] using agreed.unique
          framed := by simpa [settle] using agreed.framed }
  | @decoded header payload found _ _ awaited decoded =>
      have isOther : found.api ≠ .apiVersions := by
        rw [Response.api_of_ofPayload decoded]
        exact agreed.asksOthers header awaited
      refine
        { agreed with
          asksOthers := by rintro _ ⟨⟩
          isListed := ?_
          unique := ?_
          framed := by simpa [note] using agreed.framed }
      · obtain ⟨first, member⟩ := agreed.isListed
        exact ⟨first, by simp [note, member]⟩
      · intro first other member
        simp only [note, answers_append, answers_singleton, List.mem_append]
          at member
        rcases member with earlier | isNew
        · exact agreed.unique first other earlier
        · cases List.mem_singleton.mp isNew
          exact (isOther rfl).elim
  | agreed _ isStage =>
      exact (agreed.notAwaiting isStage).elim
  | admitted =>
      exact agreed.moveTo ⟨by rintro ⟨⟩, by rintro ⟨⟩⟩
  | moved _ precedes =>
      exact agreed.moveTo (notAsking_of_precedes precedes agreed.notAsking)

theorem Negotiates.act {later : Outline} (negotiates : outline.Negotiates)
    (orderly : outline.IsOrderly) (act : outline.Act later) :
    later.Negotiates := by
  cases negotiates with
  | unlisted isUnlisted =>
      rcases isUnlisted.act orderly act with unlisted | listed
      · exact .unlisted unlisted
      · exact .listed listed
  | listed isListed =>
      rcases isListed.act act with listed | ⟨response, agreed⟩
      · exact .listed listed
      · exact .agreed response agreed
  | agreed response agreed =>
      exact .agreed response (agreed.act orderly act)

theorem Negotiates.fail (negotiates : outline.Negotiates) :
    outline.fail.Negotiates := by
  cases negotiates with
  | unlisted unlisted =>
      exact .unlisted
        { unlisted with stage := Or.inr (Or.inr rfl), pending := nofun }
  | listed listed =>
      exact .listed
        { listed with
          stage := Or.inr rfl, pending := rfl, idle := rfl, unasked := rfl }
  | agreed response agreed =>
      exact .agreed response
        { agreed with
          notAsking := nofun, notAwaiting := nofun, asksOthers := nofun }

theorem Negotiates.release (negotiates : outline.Negotiates) :
    outline.release.Negotiates := by
  cases negotiates with
  | unlisted unlisted =>
      exact .unlisted { unlisted with }
  | listed listed =>
      exact .listed { listed with idle := rfl, unasked := rfl }
  | agreed response agreed =>
      exact .agreed response { agreed with asksOthers := nofun }

/-! ## Tokens after consent -/

/-- Requests come before their answers, and the peer's consent before tokens. -/
structure IsAdmitting (outline : Outline) : Prop where
  requested : ∀ header ∈ outline.outstanding, header ∈ requests outline.journal
  answered :
    ∀ answer ∈ answers outline.journal,
      answer.1 ∈ requests outline.journal ∧ answer.1.api = answer.2.api
  opening : outline.IsOpening ∨ HasConsent outline.journal
  tokens :
    ∀ framing ∈ framings outline.journal,
      CarriesToken framing → HasConsent outline.journal

/-- A token is due only once the peer has consented. -/
theorem IsAdmitting.hasConsent {task : Task} {correlationId : Int32}
    {framing : Framing} (admitting : outline.IsAdmitting)
    (due : task.IsDue outline.stage)
    (framed :
      task.Framed outline.config outline.terms correlationId framing)
    (carries : CarriesToken framing) : HasConsent outline.journal := by
  have isToken : task.api = .saslAuthenticate := by
    cases task with
    | versions | handshake =>
        obtain ⟨header, isHeader⟩ :=
          Option.isSome_iff_exists.mp framed.isSome_eq
        exact (framed.api_eq header isHeader).symm.trans
          (carries header isHeader)
    | token =>
        rfl
  rcases admitting.opening with opening | consent
  · have isOpening := opening.stage
    cases task with
    | versions | handshake =>
        cases isToken
    | token =>
        rcases due with isStage | isStage <;>
          simp [isStage, Stage.isOpening] at isOpening
  · exact consent

/-- The order of requests, answers and tokens is one of the journal. -/
theorem IsAdmitting.ofSame {later : Outline} (admitting : outline.IsAdmitting)
    (opening : later.IsOpening ∨ HasConsent later.journal)
    (sameRequest : later.outstanding = outline.outstanding)
    (sameJournal : later.journal = outline.journal) : later.IsAdmitting where
  requested := by
    rw [sameRequest, sameJournal]
    exact admitting.requested
  answered := by
    rw [sameJournal]
    exact admitting.answered
  opening := opening
  tokens := by
    rw [sameJournal]
    exact admitting.tokens

theorem IsAdmitting.act {later : Outline} (admitting : outline.IsAdmitting)
    (act : outline.Act later) : later.IsAdmitting := by
  have opening : later.IsOpening ∨ HasConsent later.journal := by
    rcases admitting.opening with opening | consent
    · exact opening.act act
    · exact Or.inr (HasConsent.mono consent act.journal_prefix)
  have kept {framing : Framing}
      (member : framing ∈ framings outline.journal)
      (carries : CarriesToken framing) : HasConsent later.journal :=
    HasConsent.mono (admitting.tokens framing member carries)
      act.journal_prefix
  cases act with
  | taken | evaluated =>
      exact
        { requested := by simpa [note] using admitting.requested
          answered := by simpa [note] using admitting.answered
          opening := opening
          tokens := fun framing member carries =>
            kept (by simpa [note] using member) carries }
  | dropped =>
      exact
        { admitting with
          requested := by rintro _ ⟨⟩
          opening := opening }
  | @framed task correlationId header frame _ due framed =>
      refine
        { requested := ?_
          answered := ?_
          opening := opening
          tokens := ?_ }
      · intro request isOutstanding
        cases header with
        | none =>
            have earlier := admitting.requested request isOutstanding
            simpa [note] using earlier
        | some header =>
            cases isOutstanding
            simp [note]
      · intro answer member
        have earlier := admitting.answered answer (by simpa [note] using member)
        exact ⟨by simp [note, earlier.1], earlier.2⟩
      · intro framing member carries
        simp only [note, framings_append, framings_singleton, List.mem_append]
          at member
        rcases member with earlier | isNew
        · exact kept earlier carries
        · cases List.mem_singleton.mp isNew
          have consent := admitting.hasConsent due framed carries
          exact HasConsent.mono consent (List.prefix_append _ _)
  | flushed =>
      exact
        { requested := by simpa [settle] using admitting.requested
          answered := by simpa [settle] using admitting.answered
          opening := opening
          tokens := fun framing member carries =>
            kept (by simpa [settle] using member) carries }
  | @decoded header payload response _ _ awaited decoded =>
      refine
        { requested := by rintro _ ⟨⟩
          answered := ?_
          opening := opening
          tokens := fun framing member carries =>
            kept (by simpa [note] using member) carries }
      intro answer member
      simp only [note, answers_append, answers_singleton, List.mem_append]
        at member
      rcases member with earlier | isNew
      · simpa [note] using admitting.answered answer earlier
      · cases List.mem_singleton.mp isNew
        have isRequest := admitting.requested header awaited
        exact ⟨by simpa [note] using isRequest,
          (Response.api_of_ofPayload decoded).symm⟩
  | agreed | admitted | moved =>
      exact admitting.ofSame opening (outstanding_moveTo _) (journal_moveTo _)

theorem IsAdmitting.fail (admitting : outline.IsAdmitting) :
    outline.fail.IsAdmitting :=
  { admitting with
    requested := nofun
    opening := Or.inl ⟨Or.inr rfl, nofun⟩ }

theorem IsAdmitting.release (admitting : outline.IsAdmitting) :
    outline.release.IsAdmitting :=
  { admitting with
    requested := nofun
    opening := admitting.opening.imp_left fun opening => { opening with } }

/-! ## The two decisions -/

/-- A frame that carries a token is the frame of a token. -/
theorem exists_token_of_carriesToken {task : Task} {config : Config}
    {terms : Terms} {correlationId : Int32} {framing : Framing}
    (framed : task.Framed config terms correlationId framing)
    (carries : CarriesToken framing) : ∃ content, task = .token content := by
  cases task with
  | versions | handshake =>
      obtain ⟨header, isHeader⟩ :=
        Option.isSome_iff_exists.mp framed.isSome_eq
      cases (framed.api_eq header isHeader).symm.trans
        (carries header isHeader)
  | token content =>
      exact ⟨content, rfl⟩

/-- Tokens are wrapped if the list offers that, and raw otherwise. -/
theorem HasAgreed.isSome_iff {response : ApiVersionsResponse}
    (agreed : HasAgreed response outline) {framing : Framing}
    (member : framing ∈ framings outline.journal)
    (carries : CarriesToken framing) :
    framing.1.isSome = true ↔ response.OffersWrapping := by
  rcases agreed.framed framing member with
    ⟨header, isHeader, isVersions⟩ | ⟨task, correlationId, framed⟩
  · cases isVersions.symm.trans (carries header isHeader)
  · obtain ⟨content, rfl⟩ := exists_token_of_carriesToken framed carries
    rw [framed.isSome_eq, Task.isWrapped, Terms.ofResponse,
      ApiVersionsResponse.OffersWrapping, Option.isSome_map]

/-- The peer is told what its own entry for the handshake allows. -/
theorem HasAgreed.version_iff {response : ApiVersionsResponse}
    (agreed : HasAgreed response outline) {header : RequestHeader}
    (member : header ∈ requests outline.journal)
    (isHandshake : header.api = .saslHandshake) :
    (header.version = 1 ↔ response.OffersSecondHandshake) ∧
      (header.version = 0 ↔ ¬ response.OffersSecondHandshake) := by
  obtain ⟨⟨_, frame⟩, isFraming, isHeader⟩ := List.mem_filterMap.mp member
  obtain rfl : _ = some header := isHeader
  rcases agreed.framed _ isFraming with
    ⟨_, ⟨⟩, isVersions⟩ | ⟨task, correlationId, framed⟩
  · cases isVersions.symm.trans isHandshake
  · have supported := framed.supports
    have version := framed.version_eq (by rw [isHandshake]; nofun)
    rw [isHandshake] at supported version
    have offers : 1 ≤ header.version ↔ response.OffersSecondHandshake := by
      rw [version, ApiVersionsResponse.OffersSecondHandshake]
      cases response.apiVersion? .saslHandshake with
      | none =>
          simp
      | some range =>
          have atLeast :
              1 ≤ range.usableVersion ApiKey.saslHandshake.latestVersion ↔
                1 ≤ range.maxVersion := by
            rw [range.le_usableVersion_iff]
            exact and_iff_left (by decide)
          simpa using atLeast
    have within :
        header.version = 1 ∧ 1 ≤ header.version ∨
          header.version = 0 ∧ ¬ 1 ≤ header.version := by
      simp only [ApiKey.supports, ApiKey.versions, VersionRange.contains,
        Bool.and_eq_true] at supported
      grind
    rw [← offers]
    rcases within with ⟨isVersion, above⟩ | ⟨isVersion, below⟩
    · simp [isVersion]
    · simp [isVersion]

end Outline

/-- Whether tokens travel as the version of the handshake has announced. -/
def TravelAsTold (journal : List Event) : Prop :=
  ∀ request ∈ requests journal, request.api = .saslHandshake →
    ∀ framing ∈ framings journal, CarriesToken framing →
      (framing.1.isSome = true ↔ request.version = 1) ∧
        (framing.1 = none ↔ request.version = 0)

/-- How a session with a handshake goes by the list of its peer. -/
structure TakesBothDecisions (journal : List Event) : Prop where
  /-- Before a token there are the list, the handshake and the consent. -/
  preceded :
    ∀ framing ∈ framings journal, CarriesToken framing →
      HasConsent journal ∧
        (∃ request ∈ requests journal, request.api = .saslHandshake) ∧
        ∃ header response,
          (header, .apiVersions response) ∈ answers journal
  wrapped :
    ∀ header response, (header, .apiVersions response) ∈ answers journal →
      ∀ framing ∈ framings journal, CarriesToken framing →
        (framing.1.isSome = true ↔ response.OffersWrapping)
  told :
    ∀ header response, (header, .apiVersions response) ∈ answers journal →
      ∀ request ∈ requests journal, request.api = .saslHandshake →
        (request.version = 1 ↔ response.OffersSecondHandshake) ∧
          (request.version = 0 ↔ ¬ response.OffersSecondHandshake)

/-- Nothing but asking for versions leaves both decisions open. -/
theorem takesBothDecisions_of_asksVersions {journal : List Event}
    (asks : ∀ framing ∈ framings journal, AsksVersions framing) :
    TakesBothDecisions journal := by
  have noToken : ∀ framing ∈ framings journal, ¬ CarriesToken framing := by
    intro framing member carries
    obtain ⟨request, isRequest, isVersions⟩ := asks framing member
    cases isVersions.symm.trans (carries request isRequest)
  constructor
  case preceded =>
    exact fun framing member carries => (noToken framing member carries).elim
  case wrapped =>
    exact fun _ _ _ framing member carries =>
      (noToken framing member carries).elim
  case told =>
    intro header response isListed request member isHandshake
    obtain ⟨framing, isFraming, isHeader⟩ := List.mem_filterMap.mp member
    obtain ⟨other, isOther, isVersions⟩ := asks framing isFraming
    cases isHeader.symm.trans isOther
    cases isVersions.symm.trans isHandshake

/-- The decisions are those of the list that was acted upon, if any was. -/
theorem Outline.takesBothDecisions {outline : Outline}
    (negotiates : outline.Negotiates) (admitting : outline.IsAdmitting) :
    TakesBothDecisions outline.journal := by
  cases negotiates with
  | unlisted isUnlisted =>
      exact takesBothDecisions_of_asksVersions isUnlisted.asks
  | listed isListed =>
      exact takesBothDecisions_of_asksVersions isListed.asks
  | agreed response agreed =>
      constructor
      case preceded =>
        intro framing member carries
        obtain ⟨header, consent, isAnswer, succeeded⟩ :=
          admitting.tokens framing member carries
        have answered := admitting.answered _ isAnswer
        obtain ⟨first, isFirst⟩ := agreed.isListed
        exact ⟨⟨header, consent, isAnswer, succeeded⟩,
          ⟨header, answered⟩, first, response, isFirst⟩
      case wrapped =>
        intro header other isListed framing member carries
        rw [agreed.unique header other isListed]
        exact agreed.isSome_iff member carries
      case told =>
        intro header other isListed request member isHandshake
        rw [agreed.unique header other isListed]
        exact agreed.version_iff member isHandshake

/-- The two decisions agree exactly if the two entries of the list do. -/
theorem TakesBothDecisions.travelAsTold_iff {journal : List Event}
    (decides : TakesBothDecisions journal) :
    TravelAsTold journal ↔
      ∀ framing ∈ framings journal, CarriesToken framing →
        ∀ header response, (header, .apiVersions response) ∈ answers journal →
          (response.OffersSecondHandshake ↔ response.OffersWrapping) := by
  constructor
  · intro asTold framing member carries header response isListed
    obtain ⟨-, ⟨request, isRequest, isHandshake⟩, -⟩ :=
      decides.preceded framing member carries
    have told := decides.told header response isListed request isRequest
      isHandshake
    have wrapped := decides.wrapped header response isListed framing member
      carries
    rw [← told.1, ← wrapped]
    exact (asTold request isRequest isHandshake framing member carries).1.symm
  · intro agree request isRequest isHandshake framing member carries
    obtain ⟨-, -, header, response, isListed⟩ :=
      decides.preceded framing member carries
    have told := decides.told header response isListed request isRequest
      isHandshake
    have wrapped := decides.wrapped header response isListed framing member
      carries
    have same := agree framing member carries header response isListed
    constructor
    · rw [told.1, wrapped, same]
    · rw [told.2, same, ← wrapped]
      simp

namespace Session

section Start

variable {Client : Type} (config : Config) (node host : String)
  (subject : Subject) (transport : Transport) (client : Client)

theorem stage_start_of_enabled (enabled : config.handshakeRequestEnable = true) :
    (start config node host subject transport client).outline.stage =
      .sendApiVersionsRequest := by
  rw [outline, start, Stage.first, if_pos enabled]

theorem isUnlisted_start (enabled : config.handshakeRequestEnable = true) :
    (start config node host subject transport client).outline.IsUnlisted where
  stage := Or.inl (stage_start_of_enabled _ _ _ _ _ _ enabled)
  pending := by rintro _ ⟨⟩
  unanswered := rfl
  asks := by rintro _ ⟨⟩

theorem isAdmitting_start (enabled : config.handshakeRequestEnable = true) :
    (start config node host subject transport client).outline.IsAdmitting where
  requested := by rintro _ ⟨⟩
  answered := by rintro _ ⟨⟩
  opening := by
    refine Or.inl ⟨Or.inl ?_, by rintro _ ⟨⟩⟩
    rw [stage_start_of_enabled config node host subject transport client enabled]
    rfl
  tokens := by rintro _ ⟨⟩

end Start

/--
Tokens travel as the handshake has announced exactly as long as the list offers
both the second version of the handshake and wrapping, or neither of them.
-/
theorem takesBothDecisions_of_enabled {Client : Type} [Mechanism Client]
    (config : Config) (node host : String) (subject : Subject)
    (transport : Transport) (client : Client)
    (enabled : config.handshakeRequestEnable = true)
    (operations : List Operation) :
    let final :=
      (start config node host subject transport client).run operations
    TakesBothDecisions final.journal ∧
      (TravelAsTold final.journal ↔
        ∀ framing ∈ framings final.journal, CarriesToken framing →
          ∀ header response,
            (header, .apiVersions response) ∈ answers final.journal →
              (response.OffersSecondHandshake ↔ response.OffersWrapping)) := by
  intro final
  have preserves (before after : Outline) (orderly : before.IsOrderly)
      (held : before.Negotiates ∧ before.IsAdmitting)
      (act : before.Act after) : after.Negotiates ∧ after.IsAdmitting :=
    ⟨held.1.act orderly act, held.2.act act⟩
  have fails (before : Outline)
      (held : before.Negotiates ∧ before.IsAdmitting) :
      before.fail.Negotiates ∧ before.fail.IsAdmitting :=
    ⟨held.1.fail, held.2.fail⟩
  have releases (before : Outline) (_ : before.stage.isTerminal = true)
      (held : before.Negotiates ∧ before.IsAdmitting) :
      before.release.Negotiates ∧ before.release.IsAdmitting :=
    ⟨held.1.release, held.2.release⟩
  obtain ⟨-, negotiates, admits⟩ :=
    outline_run_induct preserves fails releases
      (Outline.isOrderly_of_settled rfl)
      ⟨.unlisted (isUnlisted_start config node host subject transport client
          enabled),
        isAdmitting_start config node host subject transport client enabled⟩
      operations
  have decides : TakesBothDecisions final.journal :=
    Outline.takesBothDecisions negotiates admits
  exact ⟨decides, decides.travelAsTold_iff⟩

/-- A peer that lists both APIs with both of their versions. -/
theorem takesBothDecisions_of_enabled_plain :
    let client : SaslClient :=
      .plain
        { authorizationId := none, username := "user", password := "secret" }
    let list : Bytes :=
      [0, 0, 0, 2, 0, 17, 0, 0, 0, 1, 0, 36, 0, 0, 0, 1]
    let consent : Bytes := [0, 0, 0, 0, 0, 1, 0, 5, 80, 76, 65, 73, 78]
    let operations : List Operation :=
      [.authenticate,
        .transport
          (.push (FrameCodec.frame (Bytes.ofInt32 (-1) ++ [0, 0] ++ list))),
        .authenticate,
        .transport (.push (FrameCodec.frame (Bytes.ofInt32 0 ++ consent))),
        .authenticate]
    let final := (start {} "broker:9092" "broker" {} {} client).run operations
    Config.handshakeRequestEnable {} = true ∧
    (requests final.journal).map RequestHeader.version = [0, 1, 1] ∧
    TakesBothDecisions final.journal ∧
      (TravelAsTold final.journal ↔
        ∀ framing ∈ framings final.journal, CarriesToken framing →
          ∀ header response,
            (header, .apiVersions response) ∈ answers final.journal →
              (response.OffersSecondHandshake ↔ response.OffersWrapping)) := by
  intro client list consent operations final
  have enabled : Config.handshakeRequestEnable {} = true := rfl
  have sent : (requests final.journal).map RequestHeader.version = [0, 1, 1] := by
    decide +kernel
  refine ⟨enabled, sent, ?_⟩
  exact takesBothDecisions_of_enabled {} "broker:9092" "broker" {} {} client
    enabled operations

/-- A token that travels otherwise than the handshake has announced. -/
theorem not_travelAsTold {journal : List Event} (request : RequestHeader)
    (header : Option RequestHeader)
    (isRequest : some request ∈ (framings journal).map Prod.fst)
    (isHandshake : request.api = .saslHandshake)
    (isFraming : header ∈ (framings journal).map Prod.fst)
    (isToken : ∀ token ∈ header, token.api = .saslAuthenticate)
    (otherwise : ¬ (header.isSome = true ↔ request.version = 1)) :
    ¬ TravelAsTold journal := by
  intro asTold
  obtain ⟨asking, isAsking, asks⟩ := List.mem_map.mp isRequest
  obtain ⟨framing, member, rfl⟩ := List.mem_map.mp isFraming
  have asked : request ∈ requests journal :=
    List.mem_filterMap.mpr ⟨asking, isAsking, asks⟩
  exact otherwise (asTold request asked isHandshake framing member isToken).1

/--
A list with the first handshake alone and wrapping has tokens wrapped after
version zero, and a list without wrapping has them raw after version one.
-/
theorem tokens_travel_otherwise :
    let client : SaslClient :=
      .plain
        { authorizationId := none, username := "user", password := "secret" }
    let consent : Bytes := [0, 0, 0, 0, 0, 1, 0, 5, 80, 76, 65, 73, 78]
    let final (list : Bytes) :=
      (start {} "broker:9092" "broker" {} {} client).run
        [.authenticate,
          .transport
            (.push (FrameCodec.frame (Bytes.ofInt32 (-1) ++ [0, 0] ++ list))),
          .authenticate,
          .transport (.push (FrameCodec.frame (Bytes.ofInt32 0 ++ consent))),
          .authenticate]
    ¬ TravelAsTold
        (final [0, 0, 0, 2, 0, 17, 0, 0, 0, 0, 0, 36, 0, 0, 0, 1]).journal ∧
      ¬ TravelAsTold (final [0, 0, 0, 1, 0, 17, 0, 0, 0, 1]).journal := by
  intro client consent final
  let handshake (version : Int16) : RequestHeader :=
    { api := .saslHandshake, version, correlationId := 0, clientId := none }
  let token : RequestHeader :=
    { api := .saslAuthenticate, version := 1, correlationId := 1
      clientId := none }
  constructor
  · exact not_travelAsTold (handshake 0) (some token)
      (by decide +kernel) rfl (by decide +kernel) (by decide) (by decide)
  · exact not_travelAsTold (handshake 1) none
      (by decide +kernel) rfl (by decide +kernel) nofun (by decide)

end Session

end BrokerSession
