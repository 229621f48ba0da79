import BrokerSession.Proofs.Session.FirstError
import BrokerSession.Proofs.Session.Negotiation

namespace BrokerSession

/-!
# Versions of the requests

A session goes by the list of versions that its peer has sent: a request for a
listed API has the highest version that neither the peer nor this library
exceeds, and is not sent at all if this library does not know that version.
The lower end of a listed range plays no part in the choice.  A chosen version
is therefore within the range exactly if there is a version that both support,
and a range that begins above the latest supported version is missed.
-/

namespace ApiVersion

/-- The chosen version exceeds neither limit, and no version between does. -/
theorem le_usableVersion_iff (range : ApiVersion) {latest version : Int16} :
    version ≤ range.usableVersion latest ↔
      version ≤ range.maxVersion ∧ version ≤ latest := by
  rw [usableVersion]
  split <;> grind

theorem usableVersion_le (range : ApiVersion) {latest : Int16} :
    range.usableVersion latest ≤ range.maxVersion :=
  (range.le_usableVersion_iff.mp
    (Int16.le_refl (range.usableVersion latest))).1

/-- A supported choice is within the range if any supported version is. -/
theorem supports_usableVersion_iff (range : ApiVersion) {api : ApiKey}
    (supported :
      api.supports (range.usableVersion api.latestVersion) = true) :
    range.supports (range.usableVersion api.latestVersion) = true ↔
      ∃ version,
        api.supports version = true ∧ range.supports version = true := by
  constructor
  · intro within
    exact ⟨_, supported, within⟩
  · rintro ⟨version, known, within⟩
    simp only [ApiKey.supports, VersionRange.contains, supports,
      Bool.and_eq_true, decide_eq_true_eq] at known within ⊢
    have above : version ≤ range.usableVersion api.latestVersion :=
      range.le_usableVersion_iff.mpr ⟨within.2, known.2⟩
    exact ⟨Int16.le_trans within.1 above, range.usableVersion_le⟩

end ApiVersion

namespace Task

variable {config : Config} {terms : Terms} {correlationId : Int32}
  {task : Task} {header : RequestHeader} {frame : Bytes}

/-- A request that could be written has a version that its API has. -/
theorem Framed.supports
    (framed : task.Framed config terms correlationId (some header, frame)) :
    header.api.supports header.version = true := by
  cases framed with
  | @request task request payload frame asked serialized encoded =>
      rw [Request.serialize] at serialized
      obtain ⟨head, -, serialized⟩ := except_bind_eq_ok_iff.mp serialized
      obtain ⟨body, written, -⟩ := except_bind_eq_ok_iff.mp serialized
      rw [Request.encode, MessageSchema.encode] at written
      obtain ⟨_, checked, -⟩ := except_bind_eq_ok_iff.mp written
      rw [MessageSchema.checkVersion] at checked
      split at checked
      · next contained =>
          exact contained
      · cases checked

/-- After the first one, a request has the version that a list leaves to use. -/
theorem Framed.version_eq {response : ApiVersionsResponse}
    (framed :
      task.Framed config (.ofResponse response) correlationId
        (some header, frame))
    (notFirst : header.api ≠ .apiVersions) :
    header.version =
      ((response.apiVersion? header.api).map
        (·.usableVersion header.api.latestVersion)).getD 0 := by
  cases framed with
  | @request task request payload frame asked serialized encoded =>
      cases task with
      | versions =>
          cases asked
          exact (notFirst rfl).elim
      | handshake =>
          cases asked
          rfl
      | token content =>
          obtain ⟨version, chosen, rfl⟩ := Option.map_eq_some_iff.mp asked
          have isVersion :
              (response.apiVersion? .saslAuthenticate).map
                  (·.usableVersion ApiKey.saslAuthenticate.latestVersion) =
                some version :=
            chosen
          exact (congrArg (Option.getD · 0) isVersion).symm

end Task

/-- How the version of a request relates to the list that the peer has sent. -/
structure Negotiated (response : ApiVersionsResponse)
    (header : RequestHeader) : Prop where
  supported : header.api.supports header.version = true
  unlisted :
    response.apiVersion? header.api = none →
      header.version = header.api.oldestVersion
  listed :
    ∀ range, response.apiVersion? header.api = some range →
      header.version = range.usableVersion header.api.latestVersion ∧
        header.version ≤ range.maxVersion
  /-- A version that both support is used whenever there is one. -/
  shared :
    ∀ range, response.apiVersion? header.api = some range →
      (range.supports header.version = true ↔
        ∃ version,
          header.api.supports version = true ∧ range.supports version = true)

namespace Script

open Journal

variable {exchange : Exchange} {point : Point} {journal : List Event}

/-! ## What became of an answer -/

/-- Whether an activity goes by a list of versions that was decoded before. -/
def Heeds (terms : Terms) (response : ApiVersionsResponse) : Activity → Prop
  | .answered .versions current => current = .apiVersions response
  | activity =>
      activity.task? ≠ some .versions ∧ terms = .ofResponse response

/-- A list of versions that was decoded is the one that is gone by. -/
theorem heeds (script : Script exchange point journal) {header : RequestHeader}
    {response : ApiVersionsResponse}
    (member : (header, .apiVersions response) ∈ answers journal) :
    Heeds point.terms response point.activity := by
  induction script with
  | start =>
      cases member
  | @framed point journal task _ _ script ready _ inductionHypothesis
  | @flushed point journal task _ script ready inductionHypothesis
  | @taken point journal task _ script ready _ inductionHypothesis =>
      have earlier := inductionHypothesis (by simpa using member)
      rw [ready] at earlier
      cases task with
      | versions =>
          exact (earlier.1 rfl).elim
      | handshake | token =>
          exact ⟨nofun, earlier.2⟩
  | takenRaw script current _ inductionHypothesis
  | unwrapped script current _ inductionHypothesis =>
      have earlier := inductionHypothesis (by simpa using member)
      rw [current] at earlier
      exact ⟨nofun, earlier.2⟩
  | @decoded point journal task current payload found script received decoded
      inductionHypothesis =>
      rw [answers_append] at member
      rcases List.mem_append.mp member with before | isNew
      · have earlier := inductionHypothesis before
        rw [received] at earlier
        cases task with
        | versions =>
            exact (earlier.1 rfl).elim
        | handshake | token =>
            exact ⟨nofun, earlier.2⟩
      · cases List.mem_singleton.mp isNew
        have fits := script.headerFits
        rw [received] at fits
        have isFirst : task.api = .apiVersions :=
          fits.symm.trans (Response.api_of_ofPayload decoded).symm
        cases task with
        | versions =>
            rfl
        | handshake | token =>
            cases isFirst
  | settled script answered succeeded inductionHypothesis =>
      have earlier := inductionHypothesis member
      rw [answered] at earlier
      cases earlier
      exact ⟨nofun, rfl⟩
  | admitted script answered succeeded inductionHypothesis =>
      have earlier := inductionHypothesis member
      rw [answered] at earlier
      exact ⟨nofun, earlier.2⟩
  | @evaluated point journal challenge outcome next script challenged
      incomplete evaluated inductionHypothesis =>
      have earlier := inductionHypothesis (by simpa using member)
      rw [challenged] at earlier
      rcases outcome with _ | _ | _ <;> exact ⟨nofun, earlier.2⟩

/-- Whether the opening of an activity is over but for its last answer. -/
def HasOpened : Activity → Prop
  | .answered .handshake _ => True
  | activity =>
      activity.task? ≠ some .versions ∧ activity.task? ≠ some .handshake

/-- Nothing but tokens follows the answer to a handshake. -/
theorem hasOpened (script : Script exchange point journal)
    {header : RequestHeader} {response : SaslHandshakeResponse}
    (member : (header, .saslHandshake response) ∈ answers journal) :
    HasOpened point.activity := by
  induction script with
  | start =>
      cases member
  | @framed point journal task _ _ script ready _ inductionHypothesis
  | @flushed point journal task _ script ready inductionHypothesis
  | @taken point journal task _ script ready _ inductionHypothesis =>
      have earlier := inductionHypothesis (by simpa using member)
      rw [ready] at earlier
      cases task with
      | versions =>
          exact (earlier.1 rfl).elim
      | handshake =>
          exact (earlier.2 rfl).elim
      | token =>
          exact ⟨nofun, nofun⟩
  | takenRaw | unwrapped | admitted =>
      exact ⟨nofun, nofun⟩
  | @decoded point journal task current payload found script received decoded
      inductionHypothesis =>
      cases task with
      | handshake =>
          trivial
      | token =>
          exact ⟨nofun, nofun⟩
      | versions =>
          rw [answers_append] at member
          rcases List.mem_append.mp member with before | isNew
          · have earlier := inductionHypothesis before
            rw [received] at earlier
            exact (earlier.1 rfl).elim
          · cases List.mem_singleton.mp isNew
            have fits := script.headerFits
            rw [received] at fits
            cases fits.symm.trans (Response.api_of_ofPayload decoded).symm
  | settled script answered succeeded inductionHypothesis =>
      have earlier := inductionHypothesis member
      rw [answered] at earlier
      exact (earlier.1 rfl).elim
  | @evaluated point journal challenge outcome next script challenged
      incomplete evaluated inductionHypothesis =>
      rcases outcome with _ | _ | _ <;> exact ⟨nofun, nofun⟩

/-! ## Requests after a list of versions -/

/-- The first request apart, requests are made under the terms in force. -/
theorem exists_framed_of_mem_requests (script : Script exchange point journal)
    {header : RequestHeader} (member : header ∈ requests journal) :
    ∃ (task : Task) (correlationId : Int32) (frame : Bytes),
      task.Framed exchange.config point.terms correlationId
          (some header, frame) ∧
        (header.api ≠ .apiVersions →
          point.activity.task? ≠ some .versions) := by
  obtain ⟨sent, dispatched, plan⟩ := script.exists_dispatched
  rw [requests, ← dispatched.framings] at member
  obtain ⟨framing, isFraming, isHeader⟩ := List.mem_filterMap.mp member
  obtain ⟨⟨task, _, frame⟩, isSent, rfl⟩ := List.mem_map.mp isFraming
  obtain rfl : _ = some header := isHeader
  obtain ⟨correlationId, framed⟩ := dispatched.framed _ isSent
  refine ⟨task, correlationId, frame, framed, ?_⟩
  intro notFirst isVersions
  unfold IsPlan at plan
  rw [isVersions] at plan
  have isOpening : task ∈ [Task.versions] := by
    rw [← plan.2.2]
    exact List.mem_append_left _ (List.mem_map_of_mem isSent)
  have sameApi := framed.api_eq header rfl
  rw [List.mem_singleton.mp isOpening] at sameApi
  exact notFirst sameApi

/-- Requests that follow a list of versions go by it. -/
theorem negotiated (script : Script exchange point journal)
    {first header : RequestHeader} {response : ApiVersionsResponse}
    (listed : (first, .apiVersions response) ∈ answers journal)
    (member : header ∈ requests journal)
    (notFirst : header.api ≠ .apiVersions) :
    Negotiated response header := by
  obtain ⟨task, correlationId, frame, framed, isLater⟩ :=
    script.exists_framed_of_mem_requests member
  have heeds := script.heeds listed
  have terms : point.terms = .ofResponse response := by
    unfold Heeds at heeds
    split at heeds
    · next answered =>
        exact (isLater notFirst (by rw [answered]; rfl)).elim
    · exact heeds.2
  rw [terms] at framed
  have supported := framed.supports
  have version := framed.version_eq notFirst
  constructor
  case supported =>
    exact supported
  case unlisted =>
    intro missing
    rw [version, missing]
    cases header.api <;> rfl
  case listed =>
    intro range isRange
    rw [isRange] at version
    exact ⟨version, version ▸ range.usableVersion_le⟩
  case shared =>
    intro range isRange
    rw [isRange] at version
    have isUsable : header.version =
        range.usableVersion header.api.latestVersion := version
    rw [isUsable] at supported ⊢
    exact range.supports_usableVersion_iff supported

/-! ## Requests that have to be there -/

/-- A task that was dispatched as a request is one of the requests. -/
theorem exists_request_of_dispatched {terms : Terms}
    {sent : List (Task × Framing)} {task : Task}
    (dispatched : Dispatched exchange.config terms journal sent)
    (isSent : task ∈ sent.map Prod.fst)
    (wrapped : task.isWrapped terms = true) :
    ∃ header ∈ requests journal, header.api = task.api := by
  obtain ⟨⟨_, framing⟩, isDispatch, rfl⟩ := List.mem_map.mp isSent
  obtain ⟨correlationId, framed⟩ := dispatched.framed _ isDispatch
  obtain ⟨header, isHeader⟩ :=
    Option.isSome_iff_exists.mp (framed.isSome_eq.trans wrapped)
  refine ⟨header, ?_, framed.api_eq header isHeader⟩
  rw [requests, ← dispatched.framings]
  exact List.mem_filterMap.mpr ⟨framing, List.mem_map_of_mem isDispatch, isHeader⟩

/-- An answer was given to a request of its API. -/
theorem exists_request_of_mem_answers (script : Script exchange point journal)
    {header : RequestHeader} {response : Response}
    (member : (header, response) ∈ answers journal) :
    header ∈ requests journal ∧ header.api = response.api := by
  obtain ⟨earlier, frame, payload, later, rfl, decoded⟩ :=
    script.isAnswer_of_mem_answers member
  refine ⟨?_, (Response.api_of_ofPayload decoded).symm⟩
  simp [requests, framings]

/-- Versions are only asked for in an exchange with a handshake. -/
theorem enabled_of_listed (script : Script exchange point journal)
    {first : RequestHeader} {response : ApiVersionsResponse}
    (listed : (first, .apiVersions response) ∈ answers journal) :
    exchange.config.handshakeRequestEnable = true := by
  obtain ⟨isRequest, isFirst⟩ := script.exists_request_of_mem_answers listed
  obtain ⟨sent, dispatched, plan⟩ := script.exists_dispatched
  have asked :
      first.api ∈ (requests journal).map RequestHeader.api :=
    List.mem_map_of_mem isRequest
  rw [dispatched.apis_eq, isFirst] at asked
  obtain ⟨task, isTask, isVersions⟩ := List.mem_map.mp asked
  have isSent := (List.mem_filter.mp isTask).1
  unfold IsPlan at plan
  split at plan
  · exact plan.1
  · exact plan.1
  · -- Without a handshake there are tokens alone.
    by_contra disabled
    have within :
        task ∈ sent.map Prod.fst ++ point.activity.ready?.toList :=
      List.mem_append_left _ isSent
    rw [plan, openingTasks, if_neg disabled] at within
    obtain ⟨token, -, rfl⟩ := List.mem_map.mp within
    cases isVersions

/-- Once a list of versions was acted upon, a handshake is asked for next. -/
theorem exists_handshake_request (script : Script exchange point journal)
    {first : RequestHeader} {response : ApiVersionsResponse}
    (listed : (first, .apiVersions response) ∈ answers journal)
    (isLater : point.activity.task? ≠ some .versions)
    (notReady : point.activity.ready? = none) :
    ∃ header ∈ requests journal, header.api = .saslHandshake := by
  have enabled := script.enabled_of_listed listed
  obtain ⟨sent, dispatched, plan⟩ := script.exists_dispatched
  rw [notReady] at plan
  have isSent : Task.handshake ∈ sent.map Prod.fst := by
    unfold IsPlan at plan
    split at plan
    · next isVersions =>
        exact (isLater isVersions).elim
    · rw [Option.toList_none, List.append_nil] at plan
      rw [plan.2.2]
      exact List.mem_cons_of_mem _ List.mem_cons_self
    · rw [Option.toList_none, List.append_nil, openingTasks, if_pos enabled]
        at plan
      rw [plan]
      exact List.mem_cons_of_mem _ List.mem_cons_self
  exact exists_request_of_dispatched dispatched isSent rfl

/-- Once there is a token, and tokens are wrapped, it was asked about. -/
theorem exists_token_request (script : Script exchange point journal)
    (someToken : tokens journal ≠ [])
    (wrapped : point.terms.authenticateVersion.isSome = true)
    (notReady : point.activity.ready? = none) :
    ∃ header ∈ requests journal, header.api = .saslAuthenticate := by
  obtain ⟨sent, dispatched, plan⟩ := script.exists_dispatched
  obtain ⟨token, isToken⟩ := List.exists_mem_of_ne_nil _ someToken
  rw [notReady] at plan
  have isSent : Task.token token ∈ sent.map Prod.fst := by
    unfold IsPlan at plan
    split at plan
    · exact (someToken plan.2.1).elim
    · exact (someToken plan.2.1).elim
    · rw [Option.toList_none, List.append_nil] at plan
      rw [plan]
      exact List.mem_append_right _ (List.mem_map_of_mem isToken)
  exact exists_request_of_dispatched dispatched isSent wrapped

end Script

namespace Session

open Journal

variable {origin : Origin} {session : Session SaslClient} {point : Point}

/-- What a session goes by once a list of versions has arrived. -/
structure GoesByVersions (final : Session SaslClient)
    (response : ApiVersionsResponse) : Prop where
  negotiated :
    ∀ header ∈ requests final.journal,
      header.api = .saslHandshake ∨ header.api = .saslAuthenticate →
        Negotiated response header
  /-- A range that ends before the oldest version ends the exchange. -/
  handshakeRefused :
    ∀ range, response.apiVersion? .saslHandshake = some range →
      range.maxVersion < ApiKey.saslHandshake.oldestVersion →
        final.stage = .failed ∧
          ∀ header ∈ requests final.journal, header.api ≠ .saslHandshake
  /-- For tokens it does so when the first of them is to be sent. -/
  tokensRefused :
    ∀ range, response.apiVersion? .saslAuthenticate = some range →
      range.maxVersion < ApiKey.saslAuthenticate.oldestVersion →
        final.stage ≠ .complete ∧
          (∀ header consent,
            (header, .saslHandshake consent) ∈ answers final.journal →
              final.stage = .failed) ∧
          ∀ header ∈ requests final.journal, header.api ≠ .saslAuthenticate

/-- What an activity may be between two operations. -/
def IsResting : Activity → Prop
  | .ready task => task = .versions
  | .received .. | .answered .. | .refused => False
  | _ => True

theorem Rests.isResting {stage : Stage} {pending : Option Stage}
    (rests : Rests stage pending point) : IsResting point.activity := by
  cases rests with
  | asking _ _ _ current | starting _ _ _ current
  | writing _ _ _ _ _ current | awaiting _ _ _ _ _ current
  | writingNext _ _ _ _ _ _ current | awaitingFinal _ _ _ _ _ current =>
      rw [current]
      trivial

theorem IsFinal.isResting {activity : Activity} (final : IsFinal activity) :
    IsResting activity := by
  cases final <;> trivial

/-- A session that has not failed rests at some point of its script. -/
theorem Sound.exists_isResting (sound : Sound origin session)
    (notFailed : session.stage ≠ .failed) :
    ∃ point,
      Script origin.exchange point session.journal ∧
        IsResting point.activity := by
  rcases sound.advances_of_ne notFailed with ⟨point, tracks, -, rests⟩ | finished
  · exact ⟨point, tracks.script, rests.isResting⟩
  · obtain ⟨point, script, -, -, final⟩ := finished.script
    exact ⟨point, script, final.isResting⟩

theorem ready?_of_isResting {activity : Activity} (resting : IsResting activity)
    (isLater : activity.task? ≠ some .versions) : activity.ready? = none := by
  cases activity with
  | ready task =>
      cases resting
      exact (isLater rfl).elim
  | _ =>
      rfl

theorem task?_of_heeds {activity : Activity} {terms : Terms}
    {response : ApiVersionsResponse} (resting : IsResting activity)
    (heeds : Script.Heeds terms response activity) :
    activity.task? ≠ some .versions ∧ terms = .ofResponse response := by
  unfold Script.Heeds at heeds
  split at heeds
  · exact resting.elim
  · exact heeds

/-- A version that is too old for this library is never asked with. -/
theorem api_ne_of_lt {response : ApiVersionsResponse} {range : ApiVersion}
    {header : RequestHeader} {api : ApiKey}
    (isRange : response.apiVersion? api = some range)
    (tooOld : range.maxVersion < api.oldestVersion)
    (negotiated : header.api = api → Negotiated response header) :
    header.api ≠ api := by
  rintro rfl
  have goesBy := negotiated rfl
  have supported := goesBy.supported
  have below := (goesBy.listed range isRange).2
  simp only [ApiKey.supports, VersionRange.contains, Bool.and_eq_true,
    decide_eq_true_eq] at supported
  exact Int16.not_lt.mpr (Int16.le_trans supported.1 below) tooOld

/-- Once something was asked, the first token is sent in the same call. -/
theorem tokens_ne_nil_of_rests (tracks : Tracks origin session point)
    (rests : Rests session.stage session.pending point)
    (fresh : origin.exchange.client.IsFresh)
    {header : RequestHeader} {consent : SaslHandshakeResponse}
    (consented : (header, .saslHandshake consent) ∈ answers session.journal)
    {first : RequestHeader} {response : ApiVersionsResponse}
    (listed : (first, .apiVersions response) ∈ answers session.journal) :
    tokens session.journal ≠ [] := by
  have opened := tracks.script.hasOpened consented
  rcases tracks.script.tokens_ne_nil_or_isOpening fresh with
    someToken | ⟨-, -, opening⟩
  · exact someToken
  · cases rests with
    | asking _ _ _ current =>
        rw [current] at opened
        exact (opened.1 rfl).elim
    | writing task _ _ _ _ current | awaiting task _ _ _ _ current =>
        rw [current] at opened opening
        exact (opening.elim opened.1 opened.2).elim
    | writingNext _ _ _ _ _ _ current | awaitingFinal _ _ _ _ _ current =>
        rw [current] at opening
        cases opening with
        | inl isVersions => cases isVersions
        | inr isHandshake => cases isHandshake
    | starting _ _ stillFresh current unasked =>
        have disabled :=
          (tracks.script.unopened fresh stillFresh current unasked).1
        have enabled := tracks.script.enabled_of_listed listed
        cases disabled.symm.trans enabled

/-- A session stops at a token that it could only send too old. -/
theorem stage_of_tokens_refused (sound : Sound origin session)
    (fresh : origin.exchange.client.IsFresh)
    {response : ApiVersionsResponse} {first : RequestHeader}
    (listed : (first, .apiVersions response) ∈ answers session.journal)
    (wrapped : (Terms.ofResponse response).authenticateVersion.isSome = true)
    (unasked :
      ∀ header ∈ requests session.journal, header.api ≠ .saslAuthenticate) :
    session.stage ≠ .complete ∧
      ∀ header consent,
        (header, .saslHandshake consent) ∈ answers session.journal →
          session.stage = .failed := by
  have noToken (point : Point)
      (script : Script origin.exchange point session.journal)
      (resting : IsResting point.activity) : tokens session.journal = [] := by
    by_contra someToken
    obtain ⟨isLater, terms⟩ := task?_of_heeds resting (script.heeds listed)
    rw [← terms] at wrapped
    obtain ⟨header, isRequest, isToken⟩ :=
      script.exists_token_request someToken wrapped
        (ready?_of_isResting resting isLater)
    exact unasked header isRequest isToken
  have notComplete : session.stage ≠ .complete := by
    intro complete
    obtain ⟨point, script, -, isComplete, final⟩ :=
      (sound.finished complete).script
    rcases script.tokens_ne_nil_or_isOpening fresh with
      someToken | ⟨-, untouched, -⟩
    · exact someToken (noToken point script final.isResting)
    · rw [untouched] at isComplete
      cases (SaslClient.not_isComplete_of_isFresh fresh).symm.trans isComplete
  refine ⟨notComplete, ?_⟩
  intro header consent consented
  by_contra notFailed
  rcases sound.advances_of_ne notFailed with
    ⟨point, tracks, -, rests⟩ | finished
  · exact tokens_ne_nil_of_rests tracks rests fresh consented listed
      (noToken point tracks.script rests.isResting)
  · exact notComplete finished.stage

/-- A session stops at a handshake that it could only ask for too old. -/
theorem stage_of_handshake_refused (sound : Sound origin session)
    {response : ApiVersionsResponse} {first : RequestHeader}
    (listed : (first, .apiVersions response) ∈ answers session.journal)
    (unasked :
      ∀ header ∈ requests session.journal, header.api ≠ .saslHandshake) :
    session.stage = .failed := by
  by_contra notFailed
  obtain ⟨point, script, resting⟩ := sound.exists_isResting notFailed
  obtain ⟨isLater, -⟩ := task?_of_heeds resting (script.heeds listed)
  obtain ⟨header, isRequest, isHandshake⟩ :=
    script.exists_handshake_request listed isLater
      (ready?_of_isResting resting isLater)
  exact unasked header isRequest isHandshake

/-- Whatever a peer lists, a session goes by it. -/
theorem goesByVersions_of_isFresh (config : Config) (node host : String)
    (subject : Subject) (transport : Transport) {client : SaslClient}
    (fresh : client.IsFresh) (operations : List Operation)
    {first : RequestHeader} {response : ApiVersionsResponse}
    (listed :
      (first, .apiVersions response) ∈
        answers
          ((start config node host subject transport client).run
            operations).journal) :
    GoesByVersions
      ((start config node host subject transport client).run operations)
      response := by
  have sound :=
    (sound_start config node host subject transport fresh).run operations
  obtain ⟨point, script⟩ := sound.leaves.script
  have negotiated (header : RequestHeader)
      (isRequest :
        header ∈
          requests
            ((start config node host subject transport client).run
              operations).journal)
      (notFirst : header.api ≠ .apiVersions) : Negotiated response header :=
    script.negotiated listed isRequest notFirst
  constructor
  case negotiated =>
    intro header isRequest isLater
    refine negotiated header isRequest ?_
    rcases isLater with isHandshake | isToken
    · rw [isHandshake]
      exact nofun
    · rw [isToken]
      exact nofun
  case handshakeRefused =>
    intro range isRange tooOld
    have unasked header isRequest :=
      api_ne_of_lt isRange tooOld fun isHandshake =>
        negotiated header isRequest (by rw [isHandshake]; exact nofun)
    exact ⟨stage_of_handshake_refused sound listed unasked, unasked⟩
  case tokensRefused =>
    intro range isRange tooOld
    have unasked header isRequest :=
      api_ne_of_lt isRange tooOld fun isToken =>
        negotiated header isRequest (by rw [isToken]; exact nofun)
    have wrapped :
        (Terms.ofResponse response).authenticateVersion.isSome = true := by
      simp only [Terms.ofResponse, isRange]
      rfl
    obtain ⟨notComplete, stops⟩ :=
      stage_of_tokens_refused sound fresh listed wrapped unasked
    exact ⟨notComplete, stops, unasked⟩

/-- A peer that lists a later version of the handshake, twice, and no other. -/
theorem goesByVersions_of_isFresh_plain :
    let client : SaslClient :=
      .plain
        { authorizationId := none, username := "user", password := "secret" }
    let first : RequestHeader :=
      { api := .apiVersions, version := 0, correlationId := -1
        clientId := none }
    let response : ApiVersionsResponse :=
      { error := .none, apiVersions := [⟨17, 1, 3⟩, ⟨17, 0, 0⟩] }
    let list : Bytes := [0, 0, 0, 2, 0, 17, 0, 1, 0, 3, 0, 17, 0, 0, 0, 0]
    let session :=
      (start {} "broker:9092" "broker" {} {} client).run
        [.authenticate,
          .transport
            (.push
              (FrameCodec.frame (Bytes.ofInt32 (-1) ++ [0, 0] ++ list))),
          .authenticate]
    client.IsFresh ∧
      (first, .apiVersions response) ∈ answers session.journal ∧
      (requests session.journal).map RequestHeader.version = [0, 1] ∧
      GoesByVersions session response := by
  intro client first response list session
  have fresh : client.IsFresh := rfl
  have listed : (first, .apiVersions response) ∈ answers session.journal := by
    decide +kernel
  have sent :
      (requests session.journal).map RequestHeader.version = [0, 1] := by
    decide +kernel
  have goesBy :=
    goesByVersions_of_isFresh {} "broker:9092" "broker" {} {} fresh
      [.authenticate,
        .transport
          (.push (FrameCodec.frame (Bytes.ofInt32 (-1) ++ [0, 0] ++ list))),
        .authenticate]
      listed
  exact ⟨fresh, listed, sent, goesBy⟩

/-- A range that begins above the latest version is asked below its beginning. -/
theorem exists_request_below_range :
    let client : SaslClient :=
      .plain
        { authorizationId := none, username := "user", password := "secret" }
    let first : RequestHeader :=
      { api := .apiVersions, version := 0, correlationId := -1
        clientId := none }
    let range : ApiVersion := ⟨17, 5, 7⟩
    let response : ApiVersionsResponse :=
      { error := .none, apiVersions := [range, ⟨36, 0, 1⟩] }
    let list : Bytes := [0, 0, 0, 2, 0, 17, 0, 5, 0, 7, 0, 36, 0, 0, 0, 1]
    let session :=
      (start {} "broker:9092" "broker" {} {} client).run
        [.authenticate,
          .transport
            (.push
              (FrameCodec.frame (Bytes.ofInt32 (-1) ++ [0, 0] ++ list))),
          .authenticate]
    client.IsFresh ∧
      (first, .apiVersions response) ∈ answers session.journal ∧
      response.apiVersion? .saslHandshake = some range ∧
      ApiKey.saslHandshake.latestVersion < range.minVersion ∧
      session.stage = .receiveHandshakeResponse ∧
      ∃ header ∈ requests session.journal,
        header.api = .saslHandshake ∧ header.version = 1 ∧
          range.supports header.version = false := by
  intro client first range response list session
  refine ⟨rfl, ?_⟩
  decide +kernel

end Session

end BrokerSession
