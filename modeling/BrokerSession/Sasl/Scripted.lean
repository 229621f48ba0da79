import BrokerSession.Sasl.Mechanism

namespace BrokerSession

/-!
# Scripted mechanisms

A scripted mechanism gives the replies of a list, one for each challenge,
whatever the challenge says.  It stands in for a real mechanism where every
course of an exchange has to be driven.
-/

/-- What a scripted mechanism does with one challenge. -/
structure ScriptedReply where
  /-- Whether the mechanism is complete from now on, if that changes. -/
  complete : Option Bool := none
  /-- The failure to report instead of a token. -/
  failure : Option MechanismError := none
  token : Option Bytes := none
  deriving Repr, DecidableEq

/-- A mechanism that follows a script. -/
structure ScriptedClient where
  initial : Bool
  complete : Bool := false
  replies : List ScriptedReply
  deriving Repr, DecidableEq

namespace ScriptedClient

/-- Give the next reply; a script that has ended has nothing to send. -/
def evaluate (client : ScriptedClient) :
    Except MechanismError (Option Bytes) × ScriptedClient :=
  let reply := client.replies.headD {}
  (reply.failure.elim (.ok reply.token) .error,
    { client with
      complete := reply.complete.getD client.complete
      replies := client.replies.tail })

instance : Mechanism ScriptedClient where
  name _ := "SCRIPTED"
  hasInitialResponse client := client.initial
  evaluate client _ := client.evaluate
  isComplete client := client.complete
  dispose client := client

end ScriptedClient

end BrokerSession
