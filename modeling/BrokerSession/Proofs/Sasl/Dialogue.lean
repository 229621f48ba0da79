import BrokerSession.Proofs.Digest.Hmac
import BrokerSession.Proofs.Sasl.Messages
import BrokerSession.Proofs.Sasl.Progress

namespace BrokerSession

/-!
# Dialogues

A client and a server that know the same password understand each other: each
token of the client is answered, and in the end both of them are satisfied.
-/

/-- A token of the client with the server's reply. -/
structure Dialogue.Turn where
  token : Bytes
  reply : Bytes
  deriving Repr, DecidableEq

/--
The turns of a client that meets a challenge and a server that accepts whatever
the client sends, until the client is complete.
-/
inductive Dialogue :
    SaslClient → Bytes → SaslServer → List Dialogue.Turn → SaslServer → Prop
    where
  /-- The client was complete before it met the last challenge. -/
  | complete {client : SaslClient} {challenge : Bytes} {server : SaslServer}
      (complete : Mechanism.isComplete client = true) :
      Dialogue client challenge server [] server
  /-- The client is complete with nothing more to send. -/
  | silent {client next : SaslClient} {challenge : Bytes} {server : SaslServer}
      (incomplete : Mechanism.isComplete client = false)
      (evaluated : Mechanism.evaluate client challenge = (.ok none, next))
      (complete : Mechanism.isComplete next = true) :
      Dialogue client challenge server [] server
  | turn {client next : SaslClient} {challenge : Bytes}
      {server later last : SaslServer} {token reply : Bytes}
      {turns : List Dialogue.Turn}
      (incomplete : Mechanism.isComplete client = false)
      (evaluated :
        Mechanism.evaluate client challenge = (.ok (some token), next))
      (answered : server.evaluate token = some (reply, later))
      (dialogue : Dialogue next reply later turns last) :
      Dialogue client challenge server (⟨token, reply⟩ :: turns) last

/-! ## PLAIN -/

/-- A token ends with the credential that it was made from. -/
theorem PlainServer.accepts_token (server : PlainServer)
    (authorizationId : Option String) (completed : Bool) :
    server.accepts
        (PlainClient.token
          { authorizationId
            username := server.username
            password := server.password
            completed }) = true := by
  rw [accepts, List.isSuffixOf_iff_suffix, PlainClient.token,
    List.append_assoc]
  exact List.suffix_append _ _

/-- One token is enough for PLAIN, whoever the user acts as. -/
theorem PlainServer.dialogue (server : PlainServer)
    (waits : server.satisfied = false) (authorizationId : Option String) :
    let client : PlainClient :=
      { authorizationId
        username := server.username
        password := server.password }
    Dialogue (.plain client) [] (.plain server)
      [⟨client.token, server.confirmation⟩]
      (.plain { server with satisfied := true }) := by
  intro client
  have answered :
      (SaslServer.plain server).evaluate client.token =
        some (server.confirmation,
          .plain { server with satisfied := true }) := by
    rw [SaslServer.evaluate, server.accepts_token authorizationId false, waits]
    rfl
  exact .turn rfl rfl answered (.complete rfl)

/-! ## SCRAM -/

namespace ScramClient

variable {client : ScramClient} {phase next : ScramPhase} {challenge : Bytes}
  {token : Option Bytes}

/-- A client that accepts a challenge moves on as its phase says. -/
theorem Accepts.evaluate (accepts : client.Accepts phase challenge token next) :
    Mechanism.isComplete (SaslClient.scram { client with phase := phase }) =
        false ∧
      Mechanism.evaluate (SaslClient.scram { client with phase := phase })
          challenge =
        (.ok token, .scram { client with phase := next }) := by
  rw [SaslClient.evaluate_scram, evaluate_of_accepts accepts]
  refine ⟨decide_eq_false ?_, rfl⟩
  cases accepts <;> exact ScramPhase.noConfusion

/-- A client that has accepted everything is silent in the end. -/
theorem Accepts.dialogue_of_none
    (accepts : client.Accepts phase challenge none .complete)
    (server : SaslServer) :
    Dialogue (.scram { client with phase := phase }) challenge server []
      server :=
  .silent accepts.evaluate.1 accepts.evaluate.2 rfl

/-- A client goes on with what the server replies to its token. -/
theorem Accepts.dialogue_of_some {token reply : Bytes}
    {server later last : SaslServer} {turns : List Dialogue.Turn}
    (accepts : client.Accepts phase challenge (some token) next)
    (answered : server.evaluate token = some (reply, later))
    (dialogue :
      Dialogue (.scram { client with phase := next }) reply later turns last) :
    Dialogue (.scram { client with phase := phase }) challenge server
      (⟨token, reply⟩ :: turns) last :=
  .turn accepts.evaluate.1 accepts.evaluate.2 answered dialogue

end ScramClient

namespace ScramServer

variable (server : ScramServer)

/-- The client of the user whose password the server knows. -/
def user (nonce : String) : ScramClient where
  suite := server.suite
  username := server.username
  password := server.password
  nonce := nonce

/-- The nonce of both sides together. -/
def fullNonce (nonce : String) : List Char :=
  nonce.toList ++ server.extension

/-- The server's first message to a client. -/
def first (nonce : String) : List Char :=
  Scram.serverFirst (server.fullNonce nonce) server.salt server.iterations

/-- The server once it has answered the client's first message. -/
def challenging (nonce : String) : ScramServer :=
  { server with
    phase :=
      .receiveClientFinal (Scram.clientFirstBare server.username nonce)
        (server.first nonce) (server.fullNonce nonce) }

/-- What both sides sign. -/
def transcript (nonce : String) : Scram.Transcript where
  clientFirstBare := Scram.clientFirstBare server.username nonce
  serverFirst := server.first nonce
  clientFinalBare := Scram.clientFinalBare (server.fullNonce nonce)

/-- The client's final message with its proof. -/
def clientFinal (nonce : String) : List Char :=
  Scram.clientFinal (Scram.clientFinalBare (server.fullNonce nonce))
    (server.suite.proof server.salted (server.transcript nonce))

/-- The signature with which the server answers. -/
def signature (nonce : String) : Bytes :=
  server.suite.serverSignature server.salted (server.transcript nonce)

/-- The two turns of an exchange. -/
def turns (nonce : String) : List Dialogue.Turn :=
  [⟨Scram.utf8 (Scram.header ++
      Scram.clientFirstBare server.username nonce),
    Scram.utf8 (server.first nonce)⟩,
    ⟨Scram.utf8 (server.clientFinal nonce),
    Scram.utf8 (Scram.serverFinal (server.signature nonce))⟩]

/-- What makes a server's side of an exchange one that a client accepts. -/
structure IsHonest (nonce : String) : Prop where
  waits : server.phase = .receiveClientFirst
  separate : ',' ∉ nonce.toList
  extended : server.extension ≠ []
  extensionSeparate : ',' ∉ server.extension
  enough : server.suite.minIterations ≤ server.iterations
  /-- All keyed digests are equally long. -/
  sized :
    ∃ size, ∀ key message, (server.suite.hmac key message).length = size

variable {server} {nonce : String}

theorem IsHonest.not_mem_fullNonce (honest : server.IsHonest nonce) :
    ',' ∉ server.fullNonce nonce := by
  rw [fullNonce, List.mem_append, not_or]
  exact ⟨honest.separate, honest.extensionSeparate⟩

theorem toString?_utf8 (message : List Char) :
    Bytes.toString? (Scram.utf8 message) = some (String.ofList message) :=
  Bytes.toString?_ofString _

/-- The server answers the text of a message as its phase says. -/
theorem answer_utf8 (server : ScramServer) (message : List Char) :
    server.answer (Scram.utf8 message) =
      match server.phase with
      | .receiveClientFirst => server.answerClientFirst message
      | .receiveClientFinal clientFirstBare serverFirst nonce =>
          server.answerClientFinal clientFirstBare serverFirst nonce message
      | .satisfied => none := by
  rw [answer, toString?_utf8, Option.bind_eq_bind, Option.bind_some]
  cases server.phase <;> simp only [String.toList_ofList]

/-- The server answers the client's first message with its own. -/
theorem IsHonest.answer_clientFirst (honest : server.IsHonest nonce) :
    server.answer
        (Scram.utf8 (Scram.header ++
          Scram.clientFirstBare server.username nonce)) =
      some (Scram.utf8 (server.first nonce),
        (server.challenging nonce).phase) := by
  have listed := Scram.attributes_eq_ok_iff.mpr
    (Scram.lists_clientFirstBare server.username honest.separate)
  have headed :
      Scram.withoutHeader?
          (Scram.header ++ Scram.clientFirstBare server.username nonce) =
        some (Scram.clientFirstBare server.username nonce) :=
    rfl
  rw [answer_utf8, honest.waits]
  dsimp only
  rw [answerClientFirst, headed, Option.bind_eq_bind, Option.bind_some]
  refine Option.bind_eq_some_iff.mpr ⟨_, congrArg Except.toOption listed, ?_⟩
  exact if_pos rfl

/-- What stands before the proof is the bare message. -/
theorem take_clientFinal (bare : List Char) (proof : Bytes) :
    (Scram.clientFinal bare proof).take
        ((Scram.clientFinal bare proof).length -
          (",p=".toList ++ Text.base64Encode proof).length) =
      bare := by
  rw [Scram.clientFinal, List.append_assoc, List.length_append,
    Nat.add_sub_cancel]
  exact List.take_left

/-- The proof uncovers the client key. -/
theorem IsHonest.xorBytes_proof (honest : server.IsHonest nonce) :
    Digest.xorBytes
        (server.suite.proof server.salted (server.transcript nonce))
        (server.suite.hmac (server.suite.storedKey server.salted)
          (server.transcript nonce).authMessage) =
      server.suite.clientKey server.salted := by
  obtain ⟨size, sized⟩ := honest.sized
  apply Digest.xorBytes_xorBytes
  refine Nat.le_of_eq ?_
  rw [Scram.Suite.clientKey, sized, sized]

/-- The server answers the proof of the client with its signature. -/
theorem IsHonest.answer_clientFinal (honest : server.IsHonest nonce) :
    (server.challenging nonce).answer
        (Scram.utf8 (server.clientFinal nonce)) =
      some (Scram.utf8 (Scram.serverFinal (server.signature nonce)),
        .satisfied) := by
  have listed := Scram.attributes_eq_ok_iff.mpr
    (Scram.lists_clientFinal honest.not_mem_fullNonce
      (server.suite.proof server.salted (server.transcript nonce)))
  rw [answer_utf8]
  unfold challenging
  dsimp only
  refine Option.bind_eq_some_iff.mpr ⟨_, congrArg Except.toOption listed, ?_⟩
  refine Option.bind_eq_some_iff.mpr ⟨['b', 'i', 'w', 's'], rfl, ?_⟩
  refine Option.bind_eq_some_iff.mpr ⟨server.fullNonce nonce, rfl, ?_⟩
  refine Option.bind_eq_some_iff.mpr ⟨_, rfl, ?_⟩
  refine Option.bind_eq_some_iff.mpr
    ⟨_, Text.base64Decode?_base64Encode _, ?_⟩
  dsimp only
  rw [clientFinal, take_clientFinal]
  refine if_pos ⟨by decide, rfl, ?_⟩
  exact congrArg server.suite.hash honest.xorBytes_proof

/-- The client answers the server's first message with its proof. -/
theorem IsHonest.answerServerFirst (honest : server.IsHonest nonce) :
    (server.user nonce).answerServerFirst
        (Scram.clientFirstBare server.username nonce) (server.first nonce) =
      .ok (Scram.utf8 (server.clientFinal nonce), server.signature nonce) := by
  have longer := List.length_pos_iff.mpr honest.extended
  have admits :
      Scram.Admits server.suite nonce.toList
        [('r', server.fullNonce nonce),
          ('s', Text.base64Encode server.salt),
          ('i', Nat.toDigits 10 server.iterations.toNat)]
        { nonce := server.fullNonce nonce
          salt := server.salt
          iterations := server.iterations } :=
    { noExtension := rfl
      nonce := rfl
      extended := by
        refine ⟨List.prefix_append _ _, ?_⟩
        rw [fullNonce, List.length_append]
        exact Nat.lt_add_of_pos_right longer
      salt := ⟨_, rfl, Text.base64Decode?_base64Encode _⟩
      iterations := ⟨_, rfl, Text.unsigned32?_toDigits _⟩
      enough := honest.enough }
  have read := Scram.ofMessage_eq_ok_iff.mpr
    ⟨_, Scram.lists_serverFirst honest.not_mem_fullNonce _ _, admits⟩
  exact except_bind_eq_ok_iff.mpr ⟨_, read, rfl⟩

/-- The client finds the signature that it expects. -/
theorem verifyServerFinal_serverFinal (signature : Bytes) :
    Scram.verifyServerFinal signature (Scram.serverFinal signature) =
      .ok () :=
  Scram.verifyServerFinal_eq_ok_iff.mpr
    ⟨_, _, Scram.attributes_eq_ok_iff.mpr (Scram.lists_serverFinal signature),
      rfl, rfl, Text.base64Decode?_base64Encode signature⟩

/-- The user opens the exchange. -/
theorem accepts_opening (server : ScramServer) (nonce : String) :
    (server.user nonce).Accepts .sendClientFirst []
      (some (Scram.utf8 (Scram.header ++
        Scram.clientFirstBare server.username nonce)))
      (.receiveServerFirst (Scram.clientFirstBare server.username nonce)) :=
  .opening

/-- The user proves that it knows the password. -/
theorem IsHonest.accepts_proving (honest : server.IsHonest nonce) :
    (server.user nonce).Accepts
      (.receiveServerFirst (Scram.clientFirstBare server.username nonce))
      (Scram.utf8 (server.first nonce))
      (some (Scram.utf8 (server.clientFinal nonce)))
      (.receiveServerFinal (server.signature nonce)) := by
  refine .proving (toString?_utf8 _) ?_
  rw [String.toList_ofList]
  exact honest.answerServerFirst

/-- The user is satisfied by the signature of the server. -/
theorem accepts_confirming (server : ScramServer) (nonce : String) :
    (server.user nonce).Accepts
      (.receiveServerFinal (server.signature nonce))
      (Scram.utf8 (Scram.serverFinal (server.signature nonce))) none
      .complete := by
  refine .confirming (toString?_utf8 _) ?_
  rw [String.toList_ofList]
  exact verifyServerFinal_serverFinal _

/-- A user and a server that know the same password satisfy each other. -/
theorem IsHonest.dialogue (honest : server.IsHonest nonce) :
    Dialogue (.scram (server.user nonce)) [] (.scram server)
      (server.turns nonce) (.scram { server with phase := .satisfied }) := by
  have opens := accepts_opening server nonce
  have proves := honest.accepts_proving
  have confirms := accepts_confirming server nonce
  have answersFirst :
      (SaslServer.scram server).evaluate
          (Scram.utf8 (Scram.header ++
            Scram.clientFirstBare server.username nonce)) =
        some (Scram.utf8 (server.first nonce),
          .scram (server.challenging nonce)) := by
    rw [SaslServer.evaluate, honest.answer_clientFirst, Option.map_some]
    unfold challenging
    dsimp only
  have answersFinal :
      (SaslServer.scram (server.challenging nonce)).evaluate
          (Scram.utf8 (server.clientFinal nonce)) =
        some (Scram.utf8 (Scram.serverFinal (server.signature nonce)),
          .scram { server with phase := .satisfied }) := by
    rw [SaslServer.evaluate, honest.answer_clientFinal, Option.map_some]
    unfold challenging
    dsimp only
  exact opens.dialogue_of_some answersFirst
    (proves.dialogue_of_some answersFinal (confirms.dialogue_of_none _))

end ScramServer

end BrokerSession
