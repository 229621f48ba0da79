import BrokerSession.Sasl.Error
import BrokerSession.Text.Quoted

namespace BrokerSession

/-!
# Subjects and principals

A subject is what the local party knows about itself: a principal name, a
username with its password, and an identity to act as.  A principal is the
identity of an authenticated connection.
-/

structure Credential where
  username : String
  password : String
  deriving Repr, DecidableEq

/-- The local party's names and credential. -/
structure Subject where
  principal : Option String := none
  authorizationId : Option String := none
  credential : Option Credential := none
  deriving Repr, DecidableEq

/-- The identity of an authenticated connection. -/
structure Principal where
  principalType : String
  name : String
  deriving Repr, DecidableEq

namespace Principal

def user (name : String) : Principal := ⟨"User", name⟩

/-- The type and the name, separated by a colon. -/
def display (principal : Principal) : String :=
  s!"{principal.principalType}:{principal.name}"

end Principal

namespace Credential

/-- A description that does not show the password. -/
def describe (credential : Credential) : String :=
  Text.structured "PasswordCredential"
    [("username", Text.quoted credential.username),
      ("password", Text.quoted "[redacted]")]

end Credential

namespace Subject

/-- A subject that authenticates with a username and a password. -/
def ofPassword (username password : String) : Subject where
  credential := some { username, password }

/-- A subject known by its principal name only. -/
def ofPrincipal (principal : String) : Subject where
  principal := some principal

/-- The same subject acting as another identity. -/
def actingAs (subject : Subject) (authorizationId : String) : Subject :=
  { subject with authorizationId := some authorizationId }

/-- The principal name, or else the username of the credential. -/
def firstPrincipal (subject : Subject) : Except MechanismError String :=
  match subject.principal, subject.credential with
  | some principal, _ => .ok principal
  | none, some credential => .ok credential.username
  | none, none => .error .noPrincipal

/-- A description that does not show the password. -/
def describe (subject : Subject) : String :=
  Text.structured "Subject"
    [("principal", Text.optional (subject.principal.map Text.quoted)),
      ("authorization_id",
        Text.optional (subject.authorizationId.map Text.quoted)),
      ("credential", Text.optional (subject.credential.map Credential.describe))]

end Subject

end BrokerSession
