namespace BrokerSession

/-!
# Input and output failures

A transport reports a kind of failure and a text.  `wouldBlock` and
`interrupted` are not final: the one means that nothing can be moved now, the
other that the same call may be made again.
-/

inductive IoErrorKind where
  | notFound
  | permissionDenied
  | connectionRefused
  | connectionReset
  | hostUnreachable
  | networkUnreachable
  | connectionAborted
  | notConnected
  | addrInUse
  | addrNotAvailable
  | networkDown
  | brokenPipe
  | alreadyExists
  | wouldBlock
  | invalidInput
  | invalidData
  | timedOut
  | writeZero
  | interrupted
  | unsupported
  | unexpectedEof
  | outOfMemory
  | other
  deriving Repr, DecidableEq

namespace IoErrorKind

def all : List IoErrorKind :=
  [.notFound, .permissionDenied, .connectionRefused, .connectionReset,
    .hostUnreachable, .networkUnreachable, .connectionAborted, .notConnected,
    .addrInUse, .addrNotAvailable, .networkDown, .brokenPipe, .alreadyExists,
    .wouldBlock, .invalidInput, .invalidData, .timedOut, .writeZero,
    .interrupted, .unsupported, .unexpectedEof, .outOfMemory, .other]

def name : IoErrorKind → String
  | .notFound => "NotFound"
  | .permissionDenied => "PermissionDenied"
  | .connectionRefused => "ConnectionRefused"
  | .connectionReset => "ConnectionReset"
  | .hostUnreachable => "HostUnreachable"
  | .networkUnreachable => "NetworkUnreachable"
  | .connectionAborted => "ConnectionAborted"
  | .notConnected => "NotConnected"
  | .addrInUse => "AddrInUse"
  | .addrNotAvailable => "AddrNotAvailable"
  | .networkDown => "NetworkDown"
  | .brokenPipe => "BrokenPipe"
  | .alreadyExists => "AlreadyExists"
  | .wouldBlock => "WouldBlock"
  | .invalidInput => "InvalidInput"
  | .invalidData => "InvalidData"
  | .timedOut => "TimedOut"
  | .writeZero => "WriteZero"
  | .interrupted => "Interrupted"
  | .unsupported => "Unsupported"
  | .unexpectedEof => "UnexpectedEof"
  | .outOfMemory => "OutOfMemory"
  | .other => "Other"

/-- The kind of a name, if there is one. -/
def ofName? (name : String) : Option IoErrorKind :=
  all.find? fun kind => kind.name = name

/-- Whether the failure says that the peer is gone. -/
def isDisconnect : IoErrorKind → Bool
  | .unexpectedEof | .brokenPipe | .connectionReset | .connectionAborted => true
  | _ => false

end IoErrorKind

/-- A failure of a transport or of a frame. -/
structure IoError where
  kind : IoErrorKind
  message : String
  deriving Repr, DecidableEq

namespace IoError

/-- Nothing can be moved at the moment. -/
def wouldBlock : IoError := ⟨.wouldBlock, "operation would block"⟩

end IoError

end BrokerSession
