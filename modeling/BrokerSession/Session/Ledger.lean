import BrokerSession.Catalog.ErrorCode

namespace BrokerSession

/-!
# Ledgers

A ledger counts what sessions did: attempts and their outcomes, requests and
responses, bytes in both directions, and the error codes that responses
carried.  The counters are 64-bit words and wrap.
-/

/-- The counters of the sessions that record into it. -/
structure Ledger where
  started : UInt64 := 0
  succeeded : UInt64 := 0
  failed : UInt64 := 0
  requestsSent : UInt64 := 0
  responsesReceived : UInt64 := 0
  bytesSent : UInt64 := 0
  bytesReceived : UInt64 := 0
  errorCodes : Table ErrorCode UInt64 := ∅
  deriving Repr, DecidableEq

namespace Ledger

def recordStarted (ledger : Ledger) : Ledger :=
  { ledger with started := ledger.started + 1 }

def recordSucceeded (ledger : Ledger) : Ledger :=
  { ledger with succeeded := ledger.succeeded + 1 }

def recordFailed (ledger : Ledger) : Ledger :=
  { ledger with failed := ledger.failed + 1 }

def recordRequest (ledger : Ledger) : Ledger :=
  { ledger with requestsSent := ledger.requestsSent + 1 }

/-- A response was decoded; each of its error codes is added up. -/
def recordResponse (ledger : Ledger) (counts : Table ErrorCode Nat) : Ledger :=
  { ledger with
    responsesReceived := ledger.responsesReceived + 1
    errorCodes := counts.entries.foldl
      (fun codes entry =>
        codes.alter entry.1 (·.getD 0 + UInt64.ofNat entry.2))
      ledger.errorCodes }

def recordSent (ledger : Ledger) (count : Nat) : Ledger :=
  { ledger with bytesSent := ledger.bytesSent + UInt64.ofNat count }

def recordReceived (ledger : Ledger) (count : Nat) : Ledger :=
  { ledger with bytesReceived := ledger.bytesReceived + UInt64.ofNat count }

/-- The fraction of finished attempts that failed; zero if none finished. -/
def failureRate (ledger : Ledger) : Float :=
  let finished := ledger.succeeded + ledger.failed
  if finished = 0 then 0.0 else ledger.failed.toFloat / finished.toFloat

end Ledger

end BrokerSession
