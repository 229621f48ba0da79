import BrokerSession.Proofs.Broker.Passage
import BrokerSession.Proofs.Broker.Request
import BrokerSession.Proofs.Sasl.Dialogue
import BrokerSession.Proofs.Session.Confluence
import BrokerSession.Proofs.Session.Versions

namespace BrokerSession

/-!
# What a session asks an honest broker

A client and a server that know the same password satisfy each other in a fixed
row of turns.  Over a broker whose list of versions lets tokens be wrapped, the
exchange is a version query, a handshake and one request for each turn.
-/

/--
A client and a server of one mechanism that know the same password, with the
tokens and the replies by which they satisfy each other.
-/
inductive Agreement :
    SaslClient → SaslServer → List Dialogue.Turn → Prop where
  /-- The server checks the credential and not whom the user acts as. -/
  | plain (server : PlainServer) (waits : server.satisfied = false)
      (authorizationId : Option String) :
      Agreement
        (.plain
          { authorizationId
            username := server.username
            password := server.password })
        (.plain server)
        [{ token :=
            PlainClient.token
              { authorizationId
                username := server.username
                password := server.password }
           reply := server.confirmation }]
  | scram (server : ScramServer) (nonce : String)
      (supported : server.suite = .sha256 ∨ server.suite = .sha512)
      (waits : server.phase = .receiveClientFirst)
      (separate : ',' ∉ nonce.toList)
      (extended : server.extension ≠ [])
      (extensionSeparate : ',' ∉ server.extension)
      (enough : 4096 ≤ server.iterations) :
      Agreement (.scram (server.user nonce)) (.scram server)
        (server.turns nonce)

namespace Agreement

variable {client : SaslClient} {server : SaslServer}
  {turns : List Dialogue.Turn}

theorem isFresh (agreement : Agreement client server turns) :
    client.IsFresh := by
  cases agreement <;> rfl

/-- Who agrees satisfies each other. -/
theorem exists_dialogue (agreement : Agreement client server turns) :
    ∃ last,
      Dialogue client [] server turns last ∧ last.isSatisfied = true := by
  cases agreement with
  | plain server waits authorizationId =>
      exact ⟨_, server.dialogue waits authorizationId, rfl⟩
  | scram server nonce supported waits separate extended extensionSeparate
      enough =>
      have honest : server.IsHonest nonce :=
        { waits, separate, extended, extensionSeparate
          enough := by
            rcases supported with isSuite | isSuite
            · rw [isSuite]
              exact enough
            · rw [isSuite]
              exact enough
          sized := by
            rcases supported with isSuite | isSuite
            · rw [isSuite]
              exact ⟨32, Digest.length_hmac32⟩
            · rw [isSuite]
              exact ⟨64, Digest.length_hmac64⟩ }
      exact ⟨_, honest.dialogue, by simp [SaslServer.isSatisfied]⟩

/-- The name of a supported mechanism fits a request. -/
theorem mechanism_fits (agreement : Agreement client server turns) :
    server.mechanism.utf8ByteSize ≤ 13 := by
  cases agreement with
  | plain =>
      rw [SaslServer.mechanism]
      decide
  | scram server nonce supported =>
      rcases supported with isSuite | isSuite
      · rw [SaslServer.mechanism, isSuite]
        decide
      · rw [SaslServer.mechanism, isSuite]
        decide

end Agreement

/-! ## Versions -/

/-- Whether a list of versions, by its first entry, lets an API be used. -/
def Manner.Lists (manner : Manner) (api : ApiKey) : Prop :=
  ∃ range,
    manner.versions.apiVersion? api = some range ∧
      range.minVersion = 0 ∧ 0 ≤ range.maxVersion

/-- The versions that a session goes by. -/
def Manner.terms (manner : Manner) : Terms := .ofResponse manner.versions

/-- A version that is not above the latest one is supported. -/
theorem ApiVersion.supports_usableVersion {range : ApiVersion} {api : ApiKey}
    (fromZero : api.oldestVersion = 0) (hasVersions : 0 ≤ api.latestVersion)
    (nonneg : 0 ≤ range.maxVersion) :
    api.supports (range.usableVersion api.latestVersion) = true := by
  have lower := range.le_usableVersion_iff.mpr ⟨nonneg, hasVersions⟩
  have upper :=
    (range.le_usableVersion_iff.mp
      (Int16.le_refl (range.usableVersion api.latestVersion))).2
  rw [← fromZero] at lower
  simp only [ApiKey.supports, VersionRange.contains, Bool.and_eq_true,
    decide_eq_true_eq]
  exact ⟨lower, upper⟩

namespace Manner.Lists

variable {manner : Manner}

theorem exists_version {api : ApiKey} (lists : manner.Lists api)
    (fromZero : api.oldestVersion = 0) (hasVersions : 0 ≤ api.latestVersion) :
    ∃ version,
      (manner.versions.apiVersion? api).map
          (·.usableVersion api.latestVersion) =
        some version ∧
        api.supports version = true := by
  obtain ⟨range, isRange, -, nonneg⟩ := lists
  refine ⟨range.usableVersion api.latestVersion, by rw [isRange]; rfl, ?_⟩
  exact ApiVersion.supports_usableVersion fromZero hasVersions nonneg

theorem supports_handshakeVersion (lists : manner.Lists .saslHandshake) :
    ApiKey.saslHandshake.supports manner.terms.handshakeVersion = true := by
  obtain ⟨version, chosen, supported⟩ := lists.exists_version rfl (by decide)
  have isVersion : manner.terms.handshakeVersion = version :=
    congrArg (Option.getD · 0) chosen
  rw [isVersion]
  exact supported

theorem exists_authenticateVersion (lists : manner.Lists .saslAuthenticate) :
    ∃ version,
      manner.terms.authenticateVersion = some version ∧
        ApiKey.saslAuthenticate.supports version = true :=
  lists.exists_version rfl (by decide)

end Manner.Lists

/-! ## Requests -/

/-- A request as a session asks it, under a correlation id. -/
def Asked.of (config : Config) (correlationId : Int32) (request : Request) :
    Asked where
  header := Task.headerOf config correlationId request
  request := request

/-- The requests that carry tokens, from a correlation id on. -/
def tokenRequests (config : Config) (version : Int16) :
    Int32 → List Bytes → List Asked
  | _, [] => []
  | correlationId, token :: later =>
      .of config correlationId { body := .saslAuthenticate token, version } ::
        tokenRequests config version (correlationId + 1) later

/-- All requests of a session that goes by some terms. -/
def sessionRequests (config : Config) (terms : Terms) (tokens : List Bytes) :
    List Asked :=
  .of config (-1)
      { body := .apiVersions, version := ApiKey.apiVersions.oldestVersion } ::
    .of config 0
      { body := .saslHandshake config.mechanism
        version := terms.handshakeVersion } ::
    tokenRequests config (terms.authenticateVersion.getD 0) 1 tokens

/-- The size of the header of a request. -/
def Config.headerSize (config : Config) : Nat :=
  10 + config.clientId.elim 0 String.utf8ByteSize

/-- The size of a request that carries a token. -/
def Config.tokenRequestSize (config : Config) (token : Bytes) : Nat :=
  config.headerSize + (4 + token.length)

/-! ## Rounds -/

namespace Passage

variable {exchange : Exchange} {point last : Point} {broker later : Broker}
  {rounds : List Round} {events : List Event}

/-- The answer to a version query settles the terms. -/
theorem askVersions {asked : Asked}
    (isAsked :
      asked =
        .of exchange.config point.nextId
          { body := .apiVersions, version := ApiKey.apiVersions.oldestVersion })
    (usable : exchange.config.IsUsable)
    (ready : point.activity = .ready .versions)
    (fits : Fits exchange.config (asked, (broker.receive asked).1))
    (goesOn :
      Passage exchange
        { point with
          terms := (broker.manner broker.received).terms
          nextId := point.nextId + 1
          activity := .ready .handshake }
        (broker.receive asked).2 rounds events last later) :
    ∃ round earlier,
      round.asked = asked ∧
        Passage exchange point broker (round :: rounds) (earlier ++ events) last
          later := by
  subst isAsked
  have settles :
      Passage exchange
        { point with
          nextId := point.nextId + 1
          activity :=
            .answered .versions
              (.apiVersions
                ((broker.manner broker.received).versions.carried
                  ApiKey.apiVersions.oldestVersion)) }
        _ rounds ([] ++ events) last later :=
    .aside (.settled rfl rfl) rfl rfl goesOn
  exact ask usable ready rfl rfl fits settles

/-- The consent to a handshake lets the mechanism begin. -/
theorem askHandshake {asked : Asked}
    (isAsked :
      asked =
        .of exchange.config point.nextId
          { body := .saslHandshake exchange.config.mechanism
            version := point.terms.handshakeVersion })
    (sameMechanism : exchange.config.mechanism = broker.server.mechanism)
    (usable : exchange.config.IsUsable)
    (ready : point.activity = .ready .handshake)
    (fits : Fits exchange.config (asked, (broker.receive asked).1))
    (goesOn :
      Passage exchange
        { point with
          nextId := point.nextId + 1
          activity := .challenged [] }
        (broker.receive asked).2 rounds events last later) :
    ∃ round earlier,
      round.asked = asked ∧
        Passage exchange point broker (round :: rounds) (earlier ++ events) last
          later := by
  subst isAsked
  have consents :
      ((broker.manner broker.received).consent
        (if exchange.config.mechanism = broker.server.mechanism then .none
          else .unsupportedSaslMechanism)).error =
        .none :=
    if_pos sameMechanism
  have admits :
      Passage exchange
        { point with
          nextId := point.nextId + 1
          activity :=
            .answered .handshake
              (.saslHandshake
                ((broker.manner broker.received).consent
                  (if exchange.config.mechanism = broker.server.mechanism then
                    .none
                  else .unsupportedSaslMechanism))) }
        _ rounds ([] ++ events) last later :=
    .aside (.admitted rfl consents) rfl rfl goesOn
  exact ask usable ready rfl rfl fits admits

/-- The reply to a token is the next challenge. -/
theorem askToken {asked : Asked} {token reply : Bytes} {version : Int16}
    {server : SaslServer}
    (isAsked :
      asked =
        .of exchange.config point.nextId
          { body := .saslAuthenticate token, version })
    (answered : broker.server.evaluate token = some (reply, server))
    (usable : exchange.config.IsUsable)
    (ready : point.activity = .ready (.token token))
    (wrapped : point.terms.authenticateVersion = some version)
    (fits : Fits exchange.config (asked, (broker.receive asked).1))
    (goesOn :
      Passage exchange
        { point with
          nextId := point.nextId + 1
          activity := .challenged reply }
        (broker.receive asked).2 rounds events last later) :
    ∃ round earlier,
      round.asked = asked ∧
        Passage exchange point broker (round :: rounds) (earlier ++ events) last
          later := by
  have isRequest :
      (Task.token token).request? exchange.config point.terms =
        some asked.request := by
    rw [Task.request?, wrapped, isAsked]
    rfl
  have isResponse :
      (broker.receive asked).1.carried asked.request.version =
        .saslAuthenticate
          (((broker.manner broker.received).reply reply).carried version) := by
    rw [isAsked]
    simp only [Broker.receive, Broker.respond, Asked.of, answered]
    rfl
  have carries (manner : Manner) :
      ((manner.reply reply).carried version).error = .none ∧
        ((manner.reply reply).carried version).token = reply := by
    rw [SaslAuthenticateResponse.carried]
    split <;> exact ⟨rfl, rfl⟩
  obtain ⟨succeeded, sameToken⟩ := carries (broker.manner broker.received)
  have unwraps :
      Passage exchange
        { point with
          nextId := point.nextId + 1
          activity :=
            .answered (.token token)
              ((broker.receive asked).1.carried asked.request.version) }
        (broker.receive asked).2 rounds ([] ++ events) last later := by
    rw [← sameToken] at goesOn
    rw [isResponse]
    exact .aside (.unwrapped rfl succeeded) rfl rfl goesOn
  exact ask usable ready isRequest (by rw [isAsked]; rfl) fits unwraps

end Passage

/-- A broker goes on with the server's side that has answered the token. -/
theorem Broker.server_receive {broker : Broker} {config : Config}
    {correlationId : Int32} {token reply : Bytes} {version : Int16}
    {server : SaslServer}
    (answered : broker.server.evaluate token = some (reply, server)) :
    (broker.receive
      (.of config correlationId
        { body := .saslAuthenticate token, version })).2.server =
      server := by
  simp only [receive, respond, Asked.of, answered]

/-- The server's replies lead a client through the rest of a dialogue. -/
theorem Dialogue.exists_passage {exchange : Exchange} {version : Int16}
    {client : SaslClient} {challenge : Bytes} {server last : SaslServer}
    {turns : List Dialogue.Turn}
    (dialogue : Dialogue client challenge server turns last)
    (usable : exchange.config.IsUsable)
    {point : Point} {broker : Broker}
    (challenged : point.activity = .challenged challenge)
    (sameClient : point.client = client)
    (wrapped : point.terms.authenticateVersion = some version)
    (sameServer : broker.server = server)
    (fits :
      ∀ answered ∈
          broker.responses
            (tokenRequests exchange.config version point.nextId
              (turns.map Turn.token)),
        Fits exchange.config answered) :
    ∃ rounds events ended later,
      Passage exchange point broker rounds events ended later ∧
        rounds.map Round.asked =
          tokenRequests exchange.config version point.nextId
            (turns.map Turn.token) ∧
        ended.HasEnded ∧ ended.terms = point.terms ∧ later.server = last := by
  induction dialogue generalizing point broker with
  | complete complete =>
      rw [← sameClient] at complete
      exact ⟨[], [], point, broker, .stay exchange point broker, rfl,
        .challenged _ complete challenged, rfl, sameServer⟩
  | @silent client next challenge server incomplete evaluated complete =>
      rw [← sameClient] at incomplete evaluated
      exact ⟨[], _, _, broker,
        .evaluate challenged incomplete evaluated (.stay exchange _ broker),
        rfl, .silent rfl, rfl, sameServer⟩
  | @turn client next challenge server later last token reply turns incomplete
      evaluated answered dialogue inductionHypothesis =>
      rw [← sameClient] at incomplete evaluated
      rw [← sameServer] at answered
      rw [List.map_cons, tokenRequests, Broker.responses,
        List.forall_mem_cons] at fits
      let between : Point :=
        { point with
          client := next
          nextId := point.nextId + 1
          activity := .challenged reply }
      have isChallenged : between.activity = .challenged reply := rfl
      obtain ⟨rounds, events, ended, satisfied, passage, asked, hasEnded,
        terms, isLast⟩ :=
        inductionHypothesis isChallenged rfl wrapped
          (Broker.server_receive answered) fits.2
      let ready : Point :=
        { point with client := next, activity := .ready (.token token) }
      have isReady : ready.activity = .ready (.token token) := rfl
      obtain ⟨round, earlier, isAsked, asks⟩ :=
        Passage.askToken rfl answered usable isReady wrapped fits.1 passage
      refine ⟨round :: rounds, _, ended, satisfied,
        .evaluate challenged incomplete evaluated asks, ?_, hasEnded, terms,
        isLast⟩
      rw [List.map_cons, List.map_cons, tokenRequests, isAsked, asked]

/-! ## Sizes -/

namespace Asked

variable {config : Config} {terms : Terms} {tokens : List Bytes}
  {asked : Asked}

theorem exists_of_mem_tokenRequests {version : Int16} {correlationId : Int32}
    (member : asked ∈ tokenRequests config version correlationId tokens) :
    ∃ otherId, ∃ token ∈ tokens,
      asked =
        .of config otherId { body := .saslAuthenticate token, version } := by
  induction tokens generalizing correlationId with
  | nil =>
      cases member
  | cons token later inductionHypothesis =>
      rcases List.mem_cons.mp member with rfl | isLater
      · exact ⟨correlationId, token, List.mem_cons_self, rfl⟩
      · obtain ⟨otherId, other, isOther, same⟩ := inductionHypothesis isLater
        exact ⟨otherId, other, List.mem_cons_of_mem token isOther, same⟩

/-- A request fits a frame if its header and its body do together. -/
theorem fits_of_encode {correlationId : Int32} {request : Request}
    {body : Bytes} (usable : config.IsUsable)
    (encoded : request.encode = .ok body)
    (sized : config.headerSize + body.length ≤ maxFrameSize) :
    (Asked.of config correlationId request).Fits := by
  have identified :
      ∀ clientId ∈ (Task.headerOf config correlationId request).clientId,
        clientId.utf8ByteSize ≤ Encode.maxStringLength :=
    usable.identified
  obtain ⟨payload, serialized, size⟩ :=
    Request.exists_serialize identified encoded
  exact ⟨payload, serialized, Nat.le_trans (Nat.le_of_eq size) sized⟩

/-- Every request of a session fits a frame if those of the tokens do. -/
theorem fits_of_mem_sessionRequests (usable : config.IsUsable)
    (named : config.mechanism.utf8ByteSize ≤ 13)
    (handshake : ApiKey.saslHandshake.supports terms.handshakeVersion = true)
    (authenticate :
      ApiKey.saslAuthenticate.supports
        (terms.authenticateVersion.getD 0) = true)
    (sized : ∀ token ∈ tokens, config.tokenRequestSize token ≤ maxFrameSize)
    (member : asked ∈ sessionRequests config terms tokens) : asked.Fits := by
  have headed : config.headerSize ≤ 10 + 32767 := by
    have identified := usable.identified
    rw [Config.headerSize]
    cases isClientId : config.clientId with
    | none =>
        exact Nat.le_add_right 10 _
    | some clientId =>
        exact Nat.add_le_add_left (identified clientId isClientId) 10
  rcases List.mem_cons.mp member with rfl | member
  · refine fits_of_encode usable (Request.encode_apiVersions (by decide)) ?_
    rw [maxFrameSize, List.length_nil]
    omega
  rcases List.mem_cons.mp member with rfl | member
  · have writable : config.mechanism.utf8ByteSize ≤ Encode.maxStringLength :=
      Nat.le_trans named (by decide)
    obtain ⟨body, encoded, size⟩ :=
      Request.exists_encode_saslHandshake handshake writable
    refine fits_of_encode usable encoded ?_
    rw [maxFrameSize, size]
    omega
  · obtain ⟨otherId, token, isToken, rfl⟩ := exists_of_mem_tokenRequests member
    have tokenSized := sized token isToken
    rw [Config.tokenRequestSize] at tokenSized
    have counted : token.length ≤ Encode.maxCount := by
      rw [maxFrameSize] at tokenSized
      rw [Encode.maxCount]
      omega
    obtain ⟨body, encoded, size⟩ :=
      Request.exists_encode_saslAuthenticate authenticate counted
    rw [← size] at tokenSized
    exact fits_of_encode usable encoded tokenSized

end Asked

/-- What a broker answers are the requests that it was asked. -/
theorem Broker.mem_of_mem_responses {broker : Broker} {requests : List Asked}
    {answered : Asked × Response}
    (member : answered ∈ broker.responses requests) :
    answered.1 ∈ requests := by
  induction requests generalizing broker with
  | nil =>
      cases member
  | cons asked later inductionHypothesis =>
      rcases List.mem_cons.mp member with rfl | isLater
      · exact List.mem_cons_self
      · exact List.mem_cons_of_mem asked (inductionHypothesis isLater)

/-! ## Whole sessions -/

/-- Whether a broker is one that a session can be opened with. -/
structure Broker.Welcomes (broker : Broker) (config : Config)
    (turns : List Dialogue.Turn) : Prop where
  mechanism : config.mechanism = broker.server.mechanism
  handshake : (broker.manner broker.received).Lists .saslHandshake
  authenticate : (broker.manner broker.received).Lists .saslAuthenticate
  /-- The requests fit frames. -/
  sized : ∀ turn ∈ turns, config.tokenRequestSize turn.token ≤ maxFrameSize
  /-- The answers are not larger than the session takes. -/
  receivable :
    ∀ answered ∈
        broker.responses
          (sessionRequests config (broker.manner broker.received).terms
            (turns.map Dialogue.Turn.token)),
      answered.2.Fits config answered.1

/-- Over a broker that welcomes it a session comes to its end. -/
theorem Agreement.exists_passage {client : SaslClient} {broker : Broker}
    {turns : List Dialogue.Turn} {config : Config} (node host : String)
    (agreement : Agreement client broker.server turns)
    (usable : config.IsUsable)
    (enabled : config.handshakeRequestEnable = true)
    (welcomes : broker.Welcomes config turns) :
    let exchange : Exchange := { config, node, host, client }
    ∃ rounds events ended later,
      Passage exchange exchange.start broker rounds events ended later ∧
        rounds.map Round.asked =
          sessionRequests config (broker.manner broker.received).terms
            (turns.map Dialogue.Turn.token) ∧
        ended.HasEnded ∧ ended.terms.authenticateVersion.isSome = true ∧
        later.server.isSatisfied = true := by
  intro exchange
  obtain ⟨last, dialogue, satisfied⟩ := agreement.exists_dialogue
  obtain ⟨version, wrapped, supported⟩ :=
    welcomes.authenticate.exists_authenticateVersion
  have fits :
      ∀ answered ∈
          broker.responses
            (sessionRequests config (broker.manner broker.received).terms
              (turns.map Dialogue.Turn.token)),
        Fits config answered := by
    intro answered member
    refine ⟨?_, welcomes.receivable answered member⟩
    refine Asked.fits_of_mem_sessionRequests usable ?_
      welcomes.handshake.supports_handshakeVersion ?_ ?_
      (Broker.mem_of_mem_responses member)
    · rw [welcomes.mechanism]
      exact agreement.mechanism_fits
    · rw [wrapped]
      exact supported
    · exact List.forall_mem_map.mpr welcomes.sized
  rw [sessionRequests, wrapped, Broker.responses, Broker.responses,
    List.forall_mem_cons, List.forall_mem_cons] at fits
  obtain ⟨fitsVersions, fitsHandshake, fitsTokens⟩ := fits
  have usableHere : exchange.config.IsUsable := usable
  let versions : Asked :=
    .of config (-1)
      { body := .apiVersions, version := ApiKey.apiVersions.oldestVersion }
  let handshake : Asked :=
    .of config 0
      { body := .saslHandshake config.mechanism
        version := (broker.manner broker.received).terms.handshakeVersion }
  have sameServer :
      ((broker.receive versions).2.receive handshake).2.server =
        broker.server :=
    rfl
  -- The passage is put together from its end.
  let admitted : Point :=
    { client := client
      terms := (broker.manner broker.received).terms
      nextId := 1
      activity := .challenged [] }
  have isChallenged : admitted.activity = .challenged [] := rfl
  obtain ⟨tokenRounds, tokenEvents, ended, later, tokens, askedTokens, hasEnded,
    sameTerms, isLast⟩ :=
    dialogue.exists_passage usableHere isChallenged rfl wrapped sameServer
      fitsTokens
  let settled : Point :=
    { client := client
      terms := (broker.manner broker.received).terms
      nextId := 0
      activity := .ready .handshake }
  have isReady : settled.activity = .ready .handshake := rfl
  obtain ⟨handshakeRound, handshakeEvents, askedHandshake, handshakes⟩ :=
    Passage.askHandshake rfl welcomes.mechanism usableHere isReady
      fitsHandshake tokens
  have begins : exchange.start.activity = .ready .versions := by
    rw [exchange.activity_start, Activity.first, if_pos enabled]
  have nextId : exchange.start.nextId + 1 = settled.nextId :=
    (by decide : (-1 : Int32) + 1 = 0)
  have settles :
      Passage exchange
        { exchange.start with
          terms := (broker.manner broker.received).terms
          nextId := exchange.start.nextId + 1
          activity := .ready .handshake }
        (broker.receive versions).2 (handshakeRound :: tokenRounds)
        (handshakeEvents ++ tokenEvents) ended later := by
    rw [nextId]
    exact handshakes
  obtain ⟨versionsRound, versionsEvents, askedVersions, opens⟩ :=
    Passage.askVersions rfl usableHere begins fitsVersions settles
  refine ⟨_, _, ended, later, opens, ?_, hasEnded, ?_, ?_⟩
  · rw [sessionRequests, wrapped, List.map_cons, List.map_cons, askedVersions,
      askedHandshake, askedTokens]
    rfl
  · rw [sameTerms]
    exact Option.isSome_of_eq_some wrapped
  · rw [isLast]
    exact satisfied

end BrokerSession
