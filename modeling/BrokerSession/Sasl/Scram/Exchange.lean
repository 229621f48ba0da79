import BrokerSession.Digest.Hmac
import BrokerSession.Sasl.Scram.Attribute
import BrokerSession.Text.Base64
import BrokerSession.Text.Decimal

namespace BrokerSession.Scram

/-!
# Messages and signatures

Both sides derive keys from the salted password and sign the same transcript:
the client's first message, the server's first message and the client's final
message without its proof.  The proof is the client key hidden by the client's
signature; the server shows that it knows the password by a signature of its
own.  Channel binding is not used.
-/

/-- The functions that a SCRAM mechanism is built on. -/
structure Suite where
  /-- The registered name of the mechanism. -/
  name : String
  /-- The lowest iteration count that a server may ask for. -/
  minIterations : UInt32
  hash : Bytes → Bytes
  /-- The keyed digest of a payload: the key comes first. -/
  hmac : Bytes → Bytes → Bytes
  /-- The key made from a password, a salt and an iteration count. -/
  saltedPassword : Bytes → Bytes → UInt32 → Bytes

namespace Suite

def sha256 : Suite where
  name := "SCRAM-SHA-256"
  minIterations := 4096
  hash := Digest.sha2 UInt32
  hmac := Digest.hmac UInt32
  saltedPassword password salt iterations :=
    Digest.pbkdf2 UInt32 password salt iterations.toNat

def sha512 : Suite where
  name := "SCRAM-SHA-512"
  minIterations := 4096
  hash := Digest.sha2 UInt64
  hmac := Digest.hmac UInt64
  saltedPassword password salt iterations :=
    Digest.pbkdf2 UInt64 password salt iterations.toNat

/-- The suite of a mechanism name. -/
def ofName? (name : String) : Option Suite :=
  [sha256, sha512].find? fun suite => suite.name = name

end Suite

/-- What the server's first message says. -/
structure ServerFirst where
  nonce : List Char
  salt : Bytes
  iterations : UInt32
  deriving Repr, DecidableEq

/-- What both sides sign: the messages of one exchange. -/
structure Transcript where
  /-- The client's first message without its header. -/
  clientFirstBare : List Char
  serverFirst : List Char
  /-- The client's final message without its proof. -/
  clientFinalBare : List Char
  deriving Repr, DecidableEq

/-- The header of the client's first message: no channel binding. -/
def header : List Char := "n,,".toList

/-- The client's first message without its header. -/
def clientFirstBare (username nonce : String) : List Char :=
  "n=".toList ++ escape username.toList ++ ",r=".toList ++ nonce.toList

/-- The client's final message without its proof; `biws` writes the header. -/
def clientFinalBare (nonce : List Char) : List Char :=
  "c=biws,r=".toList ++ nonce

def utf8 (message : List Char) : Bytes :=
  Bytes.ofString (String.ofList message)

namespace Transcript

/-- The signed text: the three messages separated by commas. -/
def authMessage (transcript : Transcript) : Bytes :=
  utf8 (transcript.clientFirstBare ++ ',' :: transcript.serverFirst ++
    ',' :: transcript.clientFinalBare)

end Transcript

/--
Read the server's first message.

Its nonce has to extend the client's, and it has to ask for enough iterations.
-/
def ServerFirst.ofMessage (suite : Suite) (clientNonce message : List Char) :
    Except MechanismError ServerFirst := do
  let listed ← attributes message
  if let some extension := find? listed 'm' then
    throw (.invalidChallenge (.mandatoryExtension (String.ofList extension)))
  let nonce ← find listed 'r'
  unless clientNonce.isPrefixOf nonce && clientNonce.length < nonce.length do
    throw .nonceMismatch
  let some salt := Text.base64Decode? (← find listed 's')
    | throw (.invalidChallenge .invalidSalt)
  let some iterations := Text.unsigned32? (← find listed 'i')
    | throw (.invalidChallenge .invalidIterationCount)
  if iterations < suite.minIterations then
    throw (.tooFewIterations iterations suite.minIterations)
  return { nonce, salt, iterations }

namespace Suite

/-- The key that the client proves to know. -/
def clientKey (suite : Suite) (salted : Bytes) : Bytes :=
  suite.hmac salted (Bytes.ofString "Client Key")

/-- The key that the server signs with. -/
def serverKey (suite : Suite) (salted : Bytes) : Bytes :=
  suite.hmac salted (Bytes.ofString "Server Key")

/-- The digest of the client key, which is what a server stores. -/
def storedKey (suite : Suite) (salted : Bytes) : Bytes :=
  suite.hash (suite.clientKey salted)

/-- The client key hidden by the client's signature of a transcript. -/
def proof (suite : Suite) (salted : Bytes) (transcript : Transcript) : Bytes :=
  Digest.xorBytes (suite.clientKey salted)
    (suite.hmac (suite.storedKey salted) transcript.authMessage)

/-- The server's signature of a transcript. -/
def serverSignature
    (suite : Suite) (salted : Bytes) (transcript : Transcript) : Bytes :=
  suite.hmac (suite.serverKey salted) transcript.authMessage

end Suite

/-- The client's final message: the bare message and the proof in base64. -/
def clientFinal (bare : List Char) (proof : Bytes) : List Char :=
  bare ++ ",p=".toList ++ Text.base64Encode proof

/-- Check the server's final message against the expected signature. -/
def verifyServerFinal (expected : Bytes) (message : List Char) :
    Except MechanismError Unit := do
  let listed ← attributes message
  if let some reason := find? listed 'e' then
    throw (.serverError (String.ofList reason))
  let some signature := Text.base64Decode? (← find listed 'v')
    | throw (.invalidChallenge .invalidSignature)
  unless signature = expected do
    throw .serverSignatureMismatch

end BrokerSession.Scram
