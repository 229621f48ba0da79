import BrokerSession.Proofs.Channel.Usage
import BrokerSession.Proofs.Session.Deeds

namespace BrokerSession.Session

/-!
# What a call does to the transport

Whatever a call on a session does to the transport, it does by single reads and
writes and by asking for interest in writing, with any mechanism and whether or
not the call succeeds.
-/

variable {Client : Type} {before : Transport} {session later : Session Client}

/-- A move to another stage changes the interest in writing at most. -/
theorem uses_setStage (uses : before.Uses session.transport) (stage : Stage) :
    before.Uses (session.setStage stage).transport := by
  unfold setStage
  split
  · exact uses
  · dsimp only
    split
    · exact uses.interest false
    · exact uses

/-- Once a frame is flushed, the interest in writing is gone. -/
theorem uses_settle (uses : before.Uses session.transport) :
    before.Uses session.settle.transport := by
  have settled := uses.interest false
  unfold settle
  cases session.pending with
  | none =>
      exact settled
  | some stage =>
      exact uses_setStage settled stage

/-- To write a part of a frame is to use the transport. -/
theorem uses_writeTo (uses : before.Uses session.transport)
    {outgoing left : Outgoing} {transport : Transport}
    {result : Except IoError Nat}
    (outcome :
      outgoing.writeTo session.transport = (result, left, transport)) :
    before.Uses transport := by
  have writes := outgoing.uses_writeTo session.transport
  rw [outcome] at writes
  exact uses.trans writes

/-- To read a part of a frame is to use the transport. -/
theorem uses_readFrom (uses : before.Uses session.transport)
    {incoming left : Incoming} {transport : Transport}
    {result : Except IoError Nat}
    (outcome :
      incoming.readFrom session.transport = (result, left, transport)) :
    before.Uses transport := by
  have reads := incoming.uses_readFrom session.transport
  rw [outcome] at reads
  exact uses.trans reads

/-- Only deeds on frames and moves go through the transport. -/
theorem Deed.uses (deed : session.Deed later)
    (uses : before.Uses session.transport) : before.Uses later.transport := by
  cases deed with
  | wrote _ outcome =>
      exact uses_writeTo uses outcome
  | read outcome =>
      exact uses_readFrom uses outcome
  | waits =>
      exact uses.interest true
  | settled =>
      exact uses_settle uses
  | moved =>
      exact uses_setStage uses _
  | drew | framed | evaluated | taken | dropped | decoded | agreed =>
      exact uses

/-- Whatever a call does to its transport, it only uses it. -/
theorem isKept_uses (before : Transport) :
    IsKept (fun session : Session Client => before.Uses session.transport) where
  deed deed uses := deed.uses uses
  completes uses := uses_setStage uses .complete
  unsent outcome uses := uses_writeTo uses outcome
  unread outcome uses := uses_readFrom uses outcome
  begins {session} uses := by
    rw [begin]
    split <;> exact uses
  fails uses := uses.interest false

/-- A call goes through the transport of its session by single calls. -/
theorem uses_authenticate [Mechanism Client] (session : Session Client) :
    session.transport.Uses session.authenticate.2.transport :=
  (isKept_uses session.transport).authenticate .nothing

end BrokerSession.Session
