import BrokerSession.Proofs.Channel.Breakage
import BrokerSession.Proofs.Session.Silence

namespace BrokerSession.Session

/-!
# Counting bytes

Every byte that the transport accepts for a session is counted as sent.  The
bytes that it takes from the transport are counted as received by every read
that succeeds; a read that fails in the middle has taken bytes that are never
counted.
-/

variable {Client : Type} {session between later : Session Client}

/-! ## Traffic of deeds -/

/-- The bytes that went through the transport of a session, and its counters. -/
structure Moves (session later : Session Client) (sent taken : Bytes)
    (counted : Nat) : Prop where
  node : later.node = session.node
  outbound : later.transport.outbound = session.transport.outbound ++ sent
  inbound : session.transport.inbound = taken ++ later.transport.inbound
  bytesSent :
    later.ledger.bytesSent =
      session.ledger.bytesSent + UInt64.ofNat sent.length
  bytesReceived :
    later.ledger.bytesReceived =
      session.ledger.bytesReceived + UInt64.ofNat counted

/-- What moves in two parts moves as one, and so does what is counted. -/
theorem Moves.trans {sent taken sentLater takenLater : Bytes}
    {counted countedLater : Nat}
    (earlier : session.Moves between sent taken counted)
    (afterwards : between.Moves later sentLater takenLater countedLater) :
    session.Moves later (sent ++ sentLater) (taken ++ takenLater)
      (counted + countedLater) where
  node := afterwards.node.trans earlier.node
  outbound := by
    rw [afterwards.outbound, earlier.outbound, List.append_assoc]
  inbound := by
    rw [earlier.inbound, afterwards.inbound, List.append_assoc]
  bytesSent := by
    rw [afterwards.bytesSent, earlier.bytesSent, List.length_append,
      UInt64.ofNat_add, UInt64.add_assoc]
  bytesReceived := by
    rw [afterwards.bytesReceived, earlier.bytesReceived, UInt64.ofNat_add,
      UInt64.add_assoc]

/-- A session without traffic. -/
abbrev MovesNothing (session later : Session Client) : Prop :=
  session.Moves later [] [] 0

/-- Where both buffers and both counters are the same, nothing was moved. -/
theorem movesNothing_of_same (node : later.node = session.node)
    (outbound : later.transport.outbound = session.transport.outbound)
    (inbound : later.transport.inbound = session.transport.inbound)
    (bytesSent : later.ledger.bytesSent = session.ledger.bytesSent)
    (bytesReceived :
      later.ledger.bytesReceived = session.ledger.bytesReceived) :
    session.MovesNothing later where
  node := node
  outbound := outbound.trans (List.append_nil _).symm
  inbound := inbound.symm
  bytesSent := bytesSent.trans (UInt64.add_zero _).symm
  bytesReceived := bytesReceived.trans (UInt64.add_zero _).symm

/-- A move to another stage moves no byte. -/
theorem movesNothing_setStage (session : Session Client) (stage : Stage) :
    session.MovesNothing (session.setStage stage) := by
  rw [setStage]
  split
  · exact movesNothing_of_same rfl rfl rfl rfl rfl
  · dsimp only
    split <;> exact movesNothing_of_same rfl rfl rfl rfl rfl

/-- A frame that is flushed moves no further byte. -/
theorem movesNothing_settle (session : Session Client) :
    session.MovesNothing session.settle := by
  have settled :
      session.MovesNothing
        { (session.note .flushed).setWriteInterest false with
          outgoing := none, pending := none } :=
    movesNothing_of_same rfl rfl rfl rfl rfl
  rw [settle]
  cases session.pending with
  | none =>
      exact settled
  | some stage =>
      exact settled.trans (movesNothing_setStage _ stage)

/-- A session whose counters have followed its traffic. -/
def Accounts (session later : Session Client) : Prop :=
  ∃ sent taken, session.Moves later sent taken taken.length

/-- If nothing is moved, nothing is to be counted. -/
theorem MovesNothing.accounts (still : session.MovesNothing later) :
    session.Accounts later :=
  ⟨[], [], still⟩

/-- What is counted step by step is counted in all. -/
theorem Accounts.trans (earlier : session.Accounts between)
    (afterwards : between.Accounts later) : session.Accounts later := by
  obtain ⟨sent, taken, first⟩ := earlier
  obtain ⟨sentLater, takenLater, second⟩ := afterwards
  have both := first.trans second
  rw [← List.length_append] at both
  exact ⟨_, _, both⟩

/-- What a write moves, whether it succeeds or not. -/
theorem moves_writeTo {outgoing left : Outgoing} {transport : Transport}
    {count : Nat} (outcome :
      outgoing.writeTo session.transport = (.ok count, left, transport)) :
    ∃ sent,
      session.Moves
        { session with
          outgoing := some left
          transport := transport
          ledger := session.ledger.recordSent count }
        sent [] 0 := by
  obtain ⟨part, sent, counted⟩ := outgoing.sent_writeTo session.transport
  rw [outcome] at sent counted
  obtain rfl := counted count rfl
  exact ⟨part, rfl, sent.accepted.outbound, sent.accepted.inbound.symm, rfl,
    (UInt64.add_zero _).symm⟩

/-- A read that succeeds is counted. -/
theorem accounts_readFrom {incoming left : Incoming} {transport : Transport}
    {count : Nat} (outcome :
      incoming.readFrom session.transport = (.ok count, left, transport)) :
    session.Accounts
      { session with
        incoming := some left
        transport := transport
        ledger := session.ledger.recordReceived count } := by
  obtain ⟨part, received, counted⟩ :=
    incoming.received_readFrom session.transport
  rw [outcome] at received counted
  obtain rfl := counted count rfl
  exact ⟨[], part, rfl,
    received.yielded.outbound.trans (List.append_nil _).symm,
    received.yielded.inbound, (UInt64.add_zero _).symm, rfl⟩

/-- A write that fails moves nothing. -/
theorem movesNothing_writeTo_of_error {outgoing left : Outgoing}
    {transport : Transport} {failure : IoError}
    (outcome :
      outgoing.writeTo session.transport = (.error failure, left, transport)) :
    session.MovesNothing
      { session with outgoing := some left, transport := transport } := by
  obtain ⟨part, sent, -⟩ := outgoing.sent_writeTo session.transport
  have failed : (outgoing.writeTo session.transport).1 = .error failure := by
    rw [outcome]
  have nothing :=
    outgoing.outbound_writeAfter_of_error 0 session.transport failed
  rw [← Outgoing.writeTo, outcome] at nothing
  rw [outcome] at sent
  exact movesNothing_of_same rfl nothing sent.accepted.inbound rfl rfl

/-- Every deed is accounted for. -/
theorem Deed.accounts (deed : session.Deed later) : session.Accounts later := by
  cases deed with
  | wrote current outcome =>
      obtain ⟨sent, moves⟩ := moves_writeTo outcome
      exact ⟨sent, [], moves⟩
  | read outcome =>
      exact accounts_readFrom outcome
  | waits | drew | evaluated | taken | dropped | decoded | agreed =>
      exact MovesNothing.accounts (movesNothing_of_same rfl rfl rfl rfl rfl)
  | framed header =>
      cases header <;>
        exact MovesNothing.accounts (movesNothing_of_same rfl rfl rfl rfl rfl)
  | settled =>
      exact session.movesNothing_settle.accounts
  | moved =>
      exact (session.movesNothing_setStage _).accounts

/-! ## Traffic of calls -/

/-- A row of deeds counts what it moves. -/
theorem Deeds.accounts (deeds : session.Deeds later) :
    session.Accounts later := by
  induction deeds with
  | refl =>
      exact MovesNothing.accounts (movesNothing_of_same rfl rfl rfl rfl rfl)
  | tail _ deed inductionHypothesis =>
      exact inductionHypothesis.trans deed.accounts

/-- A handler that returns has counted what it moved. -/
theorem Finishes.accounts (finishes : session.Finishes later) :
    session.Accounts later := by
  cases finishes with
  | goesOn deeds =>
      exact Deeds.accounts deeds
  | completes deeds =>
      exact (Deeds.accounts deeds).trans (movesNothing_setStage _ _).accounts

/-- Whether a failure is that the stream ended, or could not be understood. -/
def EndsStream (node : String) (cause : SessionError) : Prop :=
  cause = .connectionClosed node ∨
    ∃ failure, cause = .invalidSaslResponse (.io failure)

/-- A session that has failed to read, without counting what it had taken. -/
def Loses (session : Session Client) (cause : SessionError)
    (later : Session Client) : Prop :=
  EndsStream session.node cause ∧ ∃ sent taken, session.Moves later sent taken 0

/-- What fails is accounted for, but for what the failing read had taken. -/
theorem Breaks.accounts {mayRead : Bool} {cause : SessionError}
    (breaks : session.Breaks mayRead cause later) :
    session.Accounts later ∨ session.Loses cause later := by
  cases breaks with
  | refused deeds =>
      exact Or.inl (Deeds.accounts deeds)
  | writing deeds outcome =>
      exact Or.inl ((Deeds.accounts deeds).trans
        (movesNothing_writeTo_of_error outcome).accounts)
  | @reading incoming left transport failure reads outcome =>
      have failed :
          (incoming.readFrom session.transport).1 = .error failure := by
        rw [outcome]
      have ends :=
        incoming.inbound_readAfter_of_error 0 session.transport failed
      obtain ⟨part, received, -⟩ :=
        incoming.received_readFrom session.transport
      rw [← Incoming.readFrom, outcome] at ends
      rw [outcome] at received
      have outbound := received.yielded.outbound
      rcases ends with untouched | ended | invalid
      · refine Or.inl (MovesNothing.accounts ?_)
        exact movesNothing_of_same rfl outbound untouched rfl rfl
      · refine Or.inr ⟨Or.inl ?_, [], part, ?_⟩
        · rw [if_neg (by rw [ended]; decide), SessionError.ofIo, ended]
          rfl
        · exact ⟨rfl, outbound.trans (List.append_nil _).symm,
            received.yielded.inbound, (UInt64.add_zero _).symm,
            (UInt64.add_zero _).symm⟩
      · refine Or.inr ⟨Or.inr ⟨failure, if_pos invalid⟩, [], part, ?_⟩
        exact ⟨rfl, outbound.trans (List.append_nil _).symm,
          received.yielded.inbound, (UInt64.add_zero _).symm,
          (UInt64.add_zero _).symm⟩

/-- Nothing is read before the handler is called. -/
theorem Resumes.moves (resumes : session.Resumes later) :
    ∃ sent, session.Moves later sent [] 0 := by
  cases resumes with
  | idle =>
      exact ⟨[], movesNothing_of_same rfl rfl rfl rfl rfl⟩
  | flushed current outcome =>
      obtain ⟨sent, moves⟩ := moves_writeTo outcome
      exact ⟨sent ++ [], moves.trans (movesNothing_settle _)⟩

/-- A call that fails loses at most what its last read took. -/
theorem Fails.accounts {cause : SessionError}
    (fails : session.Fails cause later) :
    session.Accounts later ∨ session.Loses cause later := by
  cases fails with
  | unsent current outcome =>
      exact Or.inl (movesNothing_writeTo_of_error outcome).accounts
  | handled resumes _ breaks =>
      refine breaks.accounts.imp (Deeds.accounts resumes.deeds).trans ?_
      rintro ⟨ends, sent, taken, loses⟩
      obtain ⟨sentBefore, moves⟩ := resumes.moves
      rw [moves.node] at ends
      exact ⟨ends, _, _, moves.trans loses⟩

/-- The beginning of a call moves no byte. -/
theorem movesNothing_begin (session : Session Client) :
    session.MovesNothing session.begin := by
  rw [begin]
  split <;> exact movesNothing_of_same rfl rfl rfl rfl rfl

/-- To give a session up moves no byte. -/
theorem movesNothing_fail (session : Session Client) :
    session.MovesNothing session.fail :=
  movesNothing_of_same rfl rfl rfl rfl rfl

variable [Mechanism Client]

/-- A call is accounted for, unless it fails to read. -/
theorem accounts_authenticate (session : Session Client) :
    session.Accounts session.authenticate.2 ∨
      ∃ cause,
        session.authenticate.1 = .error cause ∧
          session.Loses cause session.authenticate.2 := by
  have begins := session.movesNothing_begin
  cases session.call with
  | terminated _ same =>
      rw [same]
      exact Or.inl (movesNothing_of_same rfl rfl rfl rfl rfl).accounts
  | returned _ same leads =>
      rw [same]
      exact Or.inl (begins.accounts.trans leads.finishes.accounts)
  | @threw cause later _ same fails =>
      rw [same]
      have ends := later.movesNothing_fail
      rcases fails.accounts with accounts | ⟨endsStream, sent, taken, loses⟩
      · exact Or.inl ((begins.accounts.trans accounts).trans ends.accounts)
      · rw [begins.node] at endsStream
        have moves := (begins.trans loses).trans ends
        rw [List.append_nil, List.append_nil] at moves
        exact Or.inr ⟨cause, rfl, endsStream, _, _, moves⟩

/-! ## Traffic of runs -/

/-- The bytes that the transport accepts in an operation. -/
def writtenBy (session : Session Client) (operation : Operation) : Bytes :=
  (session.perform operation).2.transport.outbound.drop
    session.transport.outbound.length

/-- The bytes that an operation takes from the transport. -/
def obtainedBy (session : Session Client) (operation : Operation) : Bytes :=
  session.transport.inbound.take
    (session.transport.inbound.length -
      (session.perform operation).2.transport.inbound.length)

/-- All bytes that the transport accepts while operations are done. -/
def written (session : Session Client) : List Operation → Bytes
  | [] => []
  | operation :: later =>
      session.writtenBy operation ++
        written (session.perform operation).2 later

/-- All bytes that operations take from the transport. -/
def obtained (session : Session Client) : List Operation → Bytes
  | [] => []
  | operation :: later =>
      session.obtainedBy operation ++
        obtained (session.perform operation).2 later

/-- What an operation writes is what the peer finds in addition. -/
theorem Moves.writtenBy_eq {operation : Operation} {sent taken : Bytes}
    {counted : Nat}
    (moves :
      session.Moves (session.perform operation).2 sent taken counted) :
    session.writtenBy operation = sent := by
  rw [writtenBy, moves.outbound, List.drop_left]

/-- What an operation obtains is what is gone from the transport. -/
theorem Moves.obtainedBy_eq {operation : Operation} {sent taken : Bytes}
    {counted : Nat}
    (moves :
      session.Moves (session.perform operation).2 sent taken counted) :
    session.obtainedBy operation = taken := by
  rw [obtainedBy, moves.inbound, List.length_append, Nat.add_sub_cancel,
    List.take_left]

/-- What the owner does to a transport is no traffic of the session. -/
theorem nothing_of_onTransport (session : Session Client)
    (operation : Operation)
    (left :
      (session.perform operation).2.transport =
        operation.onTransport session.transport) :
    session.writtenBy operation = [] ∧ session.obtainedBy operation = [] := by
  rw [writtenBy, obtainedBy, left]
  cases operation with
  | authenticate | close =>
      simp [Operation.onTransport]
  | transport step =>
      cases step <;> simp [Operation.onTransport, Transport.perform,
        Transport.push, Transport.takeOutbound, Transport.setReadBudget,
        Transport.setWriteBudget, Transport.close, Transport.forceRead,
        Transport.forceWrite]

/-- An operation that counts what is written, and so many bytes as received. -/
structure Registers (session : Session Client) (operation : Operation)
    (received : Nat) : Prop where
  node : (session.perform operation).2.node = session.node
  bytesSent :
    (session.perform operation).2.ledger.bytesSent =
      session.ledger.bytesSent +
        UInt64.ofNat (session.writtenBy operation).length
  bytesReceived :
    (session.perform operation).2.ledger.bytesReceived =
      session.ledger.bytesReceived + UInt64.ofNat received

/-- An operation registers the bytes that it counts. -/
theorem Moves.registers {operation : Operation} {sent taken : Bytes}
    {counted : Nat}
    (moves :
      session.Moves (session.perform operation).2 sent taken counted) :
    session.Registers operation counted where
  node := moves.node
  bytesSent := by rw [moves.writtenBy_eq, moves.bytesSent]
  bytesReceived := moves.bytesReceived

/-- A call that fails to read, which ends the session. -/
structure Misses (session : Session Client) (cause : SessionError) : Prop where
  failed : session.authenticate.1 = .error cause
  ends : EndsStream session.node cause
  registers : session.Registers .authenticate 0

/-- Every operation counts its traffic, unless it fails to read. -/
theorem registers_perform (session : Session Client) (operation : Operation) :
    session.Registers operation (session.obtainedBy operation).length ∨
      operation = .authenticate ∧ ∃ cause, session.Misses cause := by
  cases operation with
  | authenticate =>
      rcases session.accounts_authenticate with
        ⟨sent, taken, moves⟩ | ⟨cause, failed, ends, sent, taken, moves⟩
      · have moved :
            session.Moves (session.perform .authenticate).2 sent taken
              taken.length :=
          moves
        rw [moved.obtainedBy_eq]
        exact Or.inl moved.registers
      · have moved :
            session.Moves (session.perform .authenticate).2 sent taken 0 :=
          moves
        exact Or.inr ⟨rfl, cause, failed, ends, moved.registers⟩
  | close =>
      have still : session.MovesNothing (session.perform .close).2 := by
        rw [perform, close]
        dsimp only
        split <;> exact movesNothing_of_same rfl rfl rfl rfl rfl
      rw [still.obtainedBy_eq]
      exact Or.inl still.registers
  | transport step =>
      obtain ⟨nothingSent, nothingTaken⟩ :=
        session.nothing_of_onTransport (.transport step) rfl
      rw [nothingTaken]
      refine Or.inl ⟨rfl, ?_, (UInt64.add_zero _).symm⟩
      rw [nothingSent]
      exact (UInt64.add_zero _).symm

/-- A call that fails leaves a session that has failed. -/
theorem isTerminal_authenticate_of_error {cause : SessionError}
    (failed : session.authenticate.1 = .error cause) :
    session.authenticate.2.stage.isTerminal = true := by
  cases session.call with
  | terminated isFailed same =>
      rw [same, isFailed]
      rfl
  | returned _ same =>
      rw [same] at failed
      cases failed
  | threw _ same =>
      rw [same]
      rfl

/-- No byte goes through a session that is over. -/
theorem HasStanding.nothing_of_isTerminal {reported : Prop}
    (standing : session.HasStanding reported)
    (terminal : session.stage.isTerminal = true)
    (operations : List Operation) :
    session.written operations = [] ∧ session.obtained operations = [] := by
  induction operations generalizing session reported with
  | nil =>
      exact ⟨rfl, rfl⟩
  | cons operation later inductionHypothesis =>
      obtain ⟨client, incoming, outgoing, outstanding, left⟩ :=
        standing.isRemnant_perform terminal operation
      obtain ⟨nothingSent, nothingTaken⟩ :=
        session.nothing_of_onTransport operation (by rw [left])
      have stillOver :
          (session.perform operation).2.stage.isTerminal = true := by
        rw [left]
        exact terminal
      obtain ⟨noneSent, noneTaken⟩ :=
        inductionHypothesis (standing.perform operation) stillOver
      rw [written, obtained, nothingSent, nothingTaken, noneSent, noneTaken]
      exact ⟨rfl, rfl⟩

/--
What a run counts as received.

Only the last read of a session is ever left out, if it fails.
-/
inductive Receives (session : Session Client) (operations : List Operation) :
    Nat → Prop where
  | all : Receives session operations (session.obtained operations).length
  | but (earlier later : List Operation) {cause : SessionError}
      (split : operations = earlier ++ .authenticate :: later)
      (misses : (session.run earlier).Misses cause)
      (last :
        session.obtained operations =
          session.obtained (earlier ++ [.authenticate])) :
      Receives session operations (session.obtained earlier).length

/-- What one operation obtains is received before the rest of the run. -/
theorem Receives.cons {operation : Operation} {operations : List Operation}
    {received : Nat}
    (receives : (session.perform operation).2.Receives operations received) :
    session.Receives (operation :: operations)
      ((session.obtainedBy operation).length + received) := by
  cases receives with
  | all =>
      rw [← List.length_append]
      exact .all
  | but earlier later split misses last =>
      rw [← List.length_append]
      refine .but (operation :: earlier) later ?_ misses ?_
      · rw [split]
        rfl
      · rw [List.cons_append, obtained, obtained, last]

/-- A run counts what it wrote, and what it read but for the last read. -/
theorem HasStanding.registers_run {reported : Prop}
    (standing : session.HasStanding reported) (operations : List Operation) :
    (session.run operations).ledger.bytesSent =
        session.ledger.bytesSent +
          UInt64.ofNat (session.written operations).length ∧
      ∃ received,
        session.Receives operations received ∧
          (session.run operations).ledger.bytesReceived =
            session.ledger.bytesReceived + UInt64.ofNat received := by
  induction operations generalizing session reported with
  | nil =>
      exact ⟨(UInt64.add_zero _).symm, 0, .all, (UInt64.add_zero _).symm⟩
  | cons operation later inductionHypothesis =>
      have stood := standing.perform operation
      rw [show session.run (operation :: later) =
        (session.perform operation).2.run later from rfl]
      rcases session.registers_perform operation with
        registers | ⟨rfl, cause, misses⟩
      · obtain ⟨sent, received, receives, counted⟩ := inductionHypothesis stood
        refine ⟨?_, _, receives.cons, ?_⟩
        · rw [sent, registers.bytesSent, written, List.length_append,
            UInt64.ofNat_add, UInt64.add_assoc]
        · rw [counted, registers.bytesReceived, UInt64.ofNat_add,
            UInt64.add_assoc]
      -- The call that failed to read has ended the session for good.
      · have ended := isTerminal_authenticate_of_error misses.failed
        have same := (stood.keepsSilent ended later).ledger
        obtain ⟨noneSent, noneTaken⟩ := stood.nothing_of_isTerminal ended later
        refine ⟨?_, 0, ?_, ?_⟩
        · rw [same, misses.registers.bytesSent, written, noneSent,
            List.append_nil]
        · refine .but [] later rfl misses ?_
          rw [List.nil_append, obtained, obtained, noneTaken]
          rfl
        · rw [same, misses.registers.bytesReceived]

/--
The counters of a run follow its traffic.

With any mechanism, every byte that the transport accepted is counted as sent,
modulo the size of the counter, and every byte that was taken from it as
received, but for those that a failing read had taken before its failure.
-/
theorem ledger_bytes_run (config : Config) (node host : String)
    (subject : Subject) (transport : Transport) (client : Client)
    (operations : List Operation) :
    let session := start config node host subject transport client
    (session.run operations).ledger.bytesSent =
        UInt64.ofNat (session.written operations).length ∧
      ∃ received,
        session.Receives operations received ∧
          (session.run operations).ledger.bytesReceived =
            UInt64.ofNat received := by
  intro session
  obtain ⟨sent, received, receives, counted⟩ :=
    (hasStanding_start config node host subject transport client).registers_run
      operations
  rw [show session.ledger.bytesSent = 0 from rfl, UInt64.zero_add] at sent
  rw [show session.ledger.bytesReceived = 0 from rfl, UInt64.zero_add]
    at counted
  exact ⟨sent, received, receives, counted⟩

/--
A server whose first four bytes are a negative size.

They are taken from the transport by a read that fails, and never counted.
-/
theorem ledger_bytesReceived_ne :
    let client : SaslClient :=
      .plain
        { authorizationId := none, username := "user", password := "secret" }
    let session := start {} "broker:9092" "broker" {} {} client
    let operations : List Operation :=
      [.authenticate, .transport (.push [255, 255, 255, 255]), .authenticate]
    (session.obtained operations).length = 4 ∧
      (session.run operations).ledger.bytesReceived = 0 ∧
      (session.run operations).ledger.bytesReceived ≠
        UInt64.ofNat (session.obtained operations).length := by
  decide +kernel

end BrokerSession.Session
