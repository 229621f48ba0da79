import BrokerSession.Sasl.Mechanism

namespace BrokerSession

/-!
# The PLAIN mechanism

One token holds the identity to act as, the username and the password,
separated by zero bytes.  It is produced once, whatever the challenge.
-/

structure PlainClient where
  authorizationId : Option String
  username : String
  password : String
  completed : Bool := false
  deriving Repr, DecidableEq

namespace PlainClient

/-- The token: the three texts as UTF-8 with zero bytes between them. -/
def token (client : PlainClient) : Bytes :=
  Bytes.ofString (client.authorizationId.getD "") ++
    0 :: Bytes.ofString client.username ++
    0 :: Bytes.ofString client.password

instance : Mechanism PlainClient where
  name _ := "PLAIN"
  hasInitialResponse _ := true
  evaluate client _ :=
    if client.completed then (.error .alreadyComplete, client)
    else (.ok (some client.token), { client with completed := true })
  isComplete client := client.completed
  dispose client := { client with password := "" }

end PlainClient

end BrokerSession
