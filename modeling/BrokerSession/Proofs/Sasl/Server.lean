import BrokerSession.Sasl.Client

namespace BrokerSession

/-!
# The server's side of the mechanisms

A server knows the password of one user.  It answers the tokens that prove the
same knowledge and no others; having answered the last one it is satisfied, and
whatever a client sends after that is refused.
-/

namespace Scram

/-- The server's first message. -/
def serverFirst (nonce : List Char) (salt : Bytes) (iterations : UInt32) :
    List Char :=
  "r=".toList ++ nonce ++ ",s=".toList ++ Text.base64Encode salt ++
    ",i=".toList ++ Nat.toDigits 10 iterations.toNat

/-- The server's final message: its signature in base64. -/
def serverFinal (signature : Bytes) : List Char :=
  "v=".toList ++ Text.base64Encode signature

/-- The client's first message behind its header. -/
def withoutHeader? : List Char → Option (List Char)
  | 'n' :: ',' :: ',' :: bare => some bare
  | _ => none

end Scram

/-- How far the server's side of a SCRAM exchange has come. -/
inductive ScramServerPhase where
  | receiveClientFirst
  | receiveClientFinal (clientFirstBare serverFirst nonce : List Char)
  | satisfied
  deriving Repr, DecidableEq

structure ScramServer where
  suite : Scram.Suite
  username : String
  password : String
  salt : Bytes
  iterations : UInt32
  /-- What the server adds to the client's nonce. -/
  extension : List Char
  phase : ScramServerPhase := .receiveClientFirst

namespace ScramServer

/-- The password after the server's salt and iterations. -/
def salted (server : ScramServer) : Bytes :=
  server.suite.saltedPassword (Bytes.ofString server.password) server.salt
    server.iterations

/-- Answer the client's first message with a longer nonce. -/
def answerClientFirst (server : ScramServer) (message : List Char) :
    Option (Bytes × ScramServerPhase) := do
  let bare ← Scram.withoutHeader? message
  let listed ← (Scram.attributes bare).toOption
  let name ← Scram.find? listed 'n'
  let clientNonce ← Scram.find? listed 'r'
  if name = Scram.escape server.username.toList then
    let nonce := clientNonce ++ server.extension
    let first := Scram.serverFirst nonce server.salt server.iterations
    return (Scram.utf8 first, .receiveClientFinal bare first nonce)
  else none

/--
Answer the client's final message with a signature of the whole exchange.

The proof, which comes last, has to uncover a key whose digest is the stored
key.
-/
def answerClientFinal
    (server : ScramServer) (clientFirstBare serverFirst nonce message : List Char) :
    Option (Bytes × ScramServerPhase) := do
  let listed ← (Scram.attributes message).toOption
  let binding ← Scram.find? listed 'c'
  let repeated ← Scram.find? listed 'r'
  let proofText ← Scram.find? listed 'p'
  let proof ← Text.base64Decode? proofText
  let unproved := message.length - (",p=".toList ++ proofText).length
  let transcript : Scram.Transcript :=
    { clientFirstBare, serverFirst, clientFinalBare := message.take unproved }
  let stored := server.suite.storedKey server.salted
  let clientKey := Digest.xorBytes proof
    (server.suite.hmac stored transcript.authMessage)
  if binding = "biws".toList ∧ repeated = nonce ∧
      server.suite.hash clientKey = stored then
    let signature := server.suite.serverSignature server.salted transcript
    return (Scram.utf8 (Scram.serverFinal signature), .satisfied)
  else none

/-- Answer a token in a phase; the result names the next phase. -/
def answer (server : ScramServer) (token : Bytes) :
    Option (Bytes × ScramServerPhase) := do
  let message ← Bytes.toString? token
  match server.phase with
  | .receiveClientFirst => server.answerClientFirst message.toList
  | .receiveClientFinal clientFirstBare serverFirst nonce =>
      server.answerClientFinal clientFirstBare serverFirst nonce message.toList
  | .satisfied => none

end ScramServer

/-- The server's side of PLAIN, with what it says once it is satisfied. -/
structure PlainServer where
  username : String
  password : String
  confirmation : Bytes := []
  satisfied : Bool := false
  deriving Repr, DecidableEq

namespace PlainServer

/-- Whether a token ends with the username and the password. -/
def accepts (server : PlainServer) (token : Bytes) : Bool :=
  (0 :: Bytes.ofString server.username ++
    0 :: Bytes.ofString server.password).isSuffixOf token

end PlainServer

/-- A server of one of the supported mechanisms. -/
inductive SaslServer where
  | plain (server : PlainServer)
  | scram (server : ScramServer)

namespace SaslServer

/-- The registered name of the mechanism. -/
def mechanism : SaslServer → String
  | .plain _ => "PLAIN"
  | .scram server => server.suite.name

/-- Answer a token, unless it is refused. -/
def evaluate : SaslServer → Bytes → Option (Bytes × SaslServer)
  | .plain server, token =>
      if !server.satisfied && server.accepts token then
        some (server.confirmation, .plain { server with satisfied := true })
      else none
  | .scram server, token =>
      (server.answer token).map fun answer =>
        (answer.1, .scram { server with phase := answer.2 })

/-- Whether the client has proved that it knows the password. -/
def isSatisfied : SaslServer → Bool
  | .plain server => server.satisfied
  | .scram server => server.phase = .satisfied

end SaslServer

end BrokerSession
