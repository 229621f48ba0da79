import BrokerSession.Bytes
import BrokerSession.Channel.IoError

namespace BrokerSession

/-!
# Non-blocking transports

A transport holds the bytes that arrived and the bytes that were accepted for
sending.  Budgets limit what the next calls may move, and queues of forced
outcomes let single calls fail or move nothing.  Reading nothing means that the
peer has closed; moving nothing for now is the failure `wouldBlock`.
-/

/-- An outcome that one call has instead of moving bytes. -/
inductive Outcome where
  /-- The call succeeds without moving a byte. -/
  | zero
  | fail (kind : IoErrorKind)
  deriving Repr, DecidableEq

/-- A byte channel held in memory. -/
structure Transport where
  inbound : Bytes := []
  outbound : Bytes := []
  readBudget : Option Nat := none
  writeBudget : Option Nat := none
  writeInterest : Bool := false
  closed : Bool := false
  readOutcomes : List Outcome := []
  writeOutcomes : List Outcome := []
  deriving Repr, DecidableEq

namespace Outcome

/-- The failure of a forced outcome, if it is one. -/
def failure? : Outcome → Option IoError
  | .zero => none
  | .fail kind => some ⟨kind, "scripted failure"⟩

end Outcome

namespace Transport

def push (transport : Transport) (arriving : Bytes) : Transport :=
  { transport with inbound := transport.inbound ++ arriving }

/-- Take away everything that was accepted for sending so far. -/
def takeOutbound (transport : Transport) : Bytes × Transport :=
  (transport.outbound, { transport with outbound := [] })

def setReadBudget (transport : Transport) (budget : Option Nat) : Transport :=
  { transport with readBudget := budget }

def setWriteBudget (transport : Transport) (budget : Option Nat) : Transport :=
  { transport with writeBudget := budget }

/-- Close the peer's end: reading drains what arrived, writing fails. -/
def close (transport : Transport) : Transport :=
  { transport with closed := true }

/-- Ask, or stop asking, to be told when writing becomes possible. -/
def setWriteInterest (transport : Transport) (interest : Bool) : Transport :=
  { transport with writeInterest := interest }

def forceRead (transport : Transport) (outcome : Outcome) : Transport :=
  { transport with readOutcomes := transport.readOutcomes ++ [outcome] }

def forceWrite (transport : Transport) (outcome : Outcome) : Transport :=
  { transport with writeOutcomes := transport.writeOutcomes ++ [outcome] }

/-- The bytes that a budget admits. -/
def admitted (budget : Option Nat) (bytes : Bytes) : Bytes :=
  match budget with
  | some limit => bytes.take limit
  | none => bytes

/-- Read at most `limit` bytes of what arrived. -/
def readInbound (transport : Transport) (limit : Nat) :
    Except IoError Bytes × Transport :=
  if transport.inbound.isEmpty then
    (if transport.closed then .ok [] else .error .wouldBlock, transport)
  else
    let taken := admitted transport.readBudget (transport.inbound.take limit)
    if taken.isEmpty then (.error .wouldBlock, transport)
    else
      (.ok taken,
        { transport with
          inbound := transport.inbound.drop taken.length
          readBudget := transport.readBudget.map (· - taken.length) })

/-- Read at most `limit` bytes, or meet the next forced outcome. -/
def read (transport : Transport) (limit : Nat) :
    Except IoError Bytes × Transport :=
  match transport.readOutcomes with
  | outcome :: later =>
      (outcome.failure?.elim (.ok []) .error,
        { transport with readOutcomes := later })
  | [] => transport.readInbound limit

/-- Accept bytes for sending; the answer is their number. -/
def writeOutbound (transport : Transport) (bytes : Bytes) :
    Except IoError Nat × Transport :=
  if transport.closed then
    (.error ⟨.brokenPipe, "transport closed"⟩, transport)
  else
    let accepted := admitted transport.writeBudget bytes
    if accepted.isEmpty then (.error .wouldBlock, transport)
    else
      (.ok accepted.length,
        { transport with
          outbound := transport.outbound ++ accepted
          writeBudget := transport.writeBudget.map (· - accepted.length) })

/-- Accept bytes for sending, or meet the next forced outcome. -/
def write (transport : Transport) (bytes : Bytes) :
    Except IoError Nat × Transport :=
  match transport.writeOutcomes with
  | outcome :: later =>
      (outcome.failure?.elim (.ok 0) .error,
        { transport with writeOutcomes := later })
  | [] => transport.writeOutbound bytes

/-- What the owner of a transport, or its peer, may do to it. -/
inductive Step where
  | push (arriving : Bytes)
  | take
  | readBudget (budget : Option Nat)
  | writeBudget (budget : Option Nat)
  | close
  | forceRead (outcome : Outcome)
  | forceWrite (outcome : Outcome)
  deriving Repr, DecidableEq

/-- Do a step; only taking the outbound bytes has a result. -/
def perform (transport : Transport) : Step → Option Bytes × Transport
  | .push arriving => (none, transport.push arriving)
  | .take =>
      let (taken, later) := transport.takeOutbound
      (some taken, later)
  | .readBudget budget => (none, transport.setReadBudget budget)
  | .writeBudget budget => (none, transport.setWriteBudget budget)
  | .close => (none, transport.close)
  | .forceRead outcome => (none, transport.forceRead outcome)
  | .forceWrite outcome => (none, transport.forceWrite outcome)

/-- How many more reads can go on: forced outcomes and bytes that arrived. -/
def readWork (transport : Transport) : Nat :=
  transport.readOutcomes.length + transport.inbound.length

/-- A read that yields bytes leaves less work. -/
theorem readWork_read_of_ok
    {transport later : Transport} {limit : Nat} {taken : Bytes}
    (outcome : transport.read limit = (.ok taken, later))
    (nonempty : taken ≠ []) :
    later.readWork < transport.readWork := by
  unfold read at outcome
  split at outcome
  · next forced queue outcomes =>
      simp only [Prod.mk.injEq] at outcome
      obtain ⟨-, rfl⟩ := outcome
      simp [readWork, outcomes]
  · next outcomes =>
      unfold readInbound at outcome
      split at outcome
      · simp only [Prod.mk.injEq] at outcome
        have answer := outcome.1
        split at answer
        · exact absurd (Except.ok.inj answer).symm nonempty
        · cases answer
      · next arrived =>
          dsimp only at outcome
          split at outcome
          · cases (Prod.mk.inj outcome).1
          · next someTaken =>
              simp only [Prod.mk.injEq] at outcome
              obtain ⟨-, rfl⟩ := outcome
              simp only [readWork, List.length_drop]
              have inboundPositive : 0 < transport.inbound.length := by
                simpa [List.length_pos_iff] using arrived
              have takenPositive :
                  0 < (admitted transport.readBudget
                    (transport.inbound.take limit)).length := by
                simpa [List.length_pos_iff] using someTaken
              omega

/-- An interrupted read has used up a forced outcome. -/
theorem readWork_read_of_interrupted
    {transport later : Transport} {limit : Nat} {failure : IoError}
    (outcome : transport.read limit = (.error failure, later))
    (interrupted : failure.kind = .interrupted) :
    later.readWork < transport.readWork := by
  unfold read at outcome
  split at outcome
  · next forced queue outcomes =>
      simp only [Prod.mk.injEq] at outcome
      obtain ⟨-, rfl⟩ := outcome
      simp [readWork, outcomes]
  · next outcomes =>
      have blocked : failure = .wouldBlock := by
        unfold readInbound at outcome
        split at outcome
        · have answer := (Prod.mk.inj outcome).1
          split at answer
          · cases answer
          · exact (Except.error.inj answer).symm
        · dsimp only at outcome
          split at outcome
          · exact (Except.error.inj (Prod.mk.inj outcome).1).symm
          · cases (Prod.mk.inj outcome).1
      subst blocked
      cases interrupted

/-- Writing never lengthens the queue of forced outcomes. -/
theorem writeOutcomes_write_le (transport : Transport) (bytes : Bytes) :
    (transport.write bytes).2.writeOutcomes.length
      ≤ transport.writeOutcomes.length := by
  unfold write
  split
  · next forced queue outcomes => simp [outcomes]
  · unfold writeOutbound
    split
    · exact Nat.le_refl _
    · dsimp only
      split <;> exact Nat.le_refl _

/-- An interrupted write has used up a forced outcome. -/
theorem writeOutcomes_write_of_interrupted
    {transport later : Transport} {bytes : Bytes} {failure : IoError}
    (outcome : transport.write bytes = (.error failure, later))
    (interrupted : failure.kind = .interrupted) :
    later.writeOutcomes.length < transport.writeOutcomes.length := by
  unfold write at outcome
  split at outcome
  · next forced queue outcomes =>
      simp only [Prod.mk.injEq] at outcome
      obtain ⟨-, rfl⟩ := outcome
      simp [outcomes]
  · next outcomes =>
      unfold writeOutbound at outcome
      split at outcome
      · have answer := Except.error.inj (Prod.mk.inj outcome).1
        subst answer
        cases interrupted
      · dsimp only at outcome
        split at outcome
        · have answer := Except.error.inj (Prod.mk.inj outcome).1
          subst answer
          cases interrupted
        · cases (Prod.mk.inj outcome).1

end Transport

end BrokerSession
