import BrokerSession.Proofs.Channel.Arrival
import BrokerSession.Proofs.Channel.Steps

namespace BrokerSession

/-!
# Frames received one after the other

A frame is received over any number of reads, each of which may be cut short by
a budget, by a forced outcome or for want of bytes.  Whatever the reads meet,
the frame holds the bytes that were taken for it and nothing else, and no byte
behind its end is taken.  So the frames that are received one after the other
are those that a codec cuts from the same bytes.
-/

/-- A frame under way, and the payloads of those before it. -/
structure Reception where
  incoming : Incoming
  transport : Transport
  received : List Bytes := []
  deriving Repr, DecidableEq

namespace Reception

def start (source : String) (maxSize : Nat) (transport : Transport) :
    Reception where
  incoming := .start source maxSize
  transport := transport

/-- What the receiver, the owner of the transport or its peer may do. -/
inductive Step where
  | read
  /-- Hand a whole payload over and wait for the next frame. -/
  | handOver
  | transport (step : Transport.Step)
  deriving Repr, DecidableEq

def perform (reception : Reception) : Step → Reception
  | .read =>
      let (_, incoming, transport) :=
        reception.incoming.readFrom reception.transport
      { reception with incoming, transport }
  | .handOver =>
      match reception.incoming.payload with
      | none => reception
      | some payload =>
          { reception with
            incoming :=
              .start reception.incoming.source reception.incoming.codec.maxSize
            received := reception.received ++ [payload] }
  | .transport step =>
      { reception with transport := (reception.transport.perform step).2 }

def run (reception : Reception) (steps : List Step) : Reception :=
  steps.foldl perform reception

/-- The bytes that a row of steps lets arrive. -/
def arriving (steps : List Step) : Bytes :=
  steps.flatMap fun
    | .transport step => step.arriving
    | _ => []

/-- The bytes that were taken from the transport so far. -/
def taken (reception : Reception) : Bytes :=
  (reception.received.map FrameCodec.frame).flatten ++
    reception.incoming.consumed

/-! ## What every step keeps -/

/-- A reception of everything that arrived: each byte is in one place. -/
structure Sound (maxSize : Nat) (arrived : Bytes) (reception : Reception) :
    Prop where
  ends : ∃ outcome, reception.incoming.Ends maxSize outcome
  takes :
    ∀ payload ∈ reception.received, FrameCodec.Takes ⟨maxSize⟩ payload
  conserves : arrived = reception.taken ++ reception.transport.inbound

variable {maxSize : Nat} {arrived : Bytes} {reception : Reception}

/-- A reception that starts has lost nothing. -/
theorem sound_start (source : String) (maxSize : Nat) (transport : Transport) :
    Sound maxSize transport.inbound (start source maxSize transport) where
  ends := ⟨.ok 0, .partly (Incoming.isPartial_start source maxSize)⟩
  takes := nofun
  conserves := rfl

/-- A read keeps a reception sound. -/
theorem Sound.read (sound : Sound maxSize arrived reception) :
    Sound maxSize arrived (reception.perform .read) where
  ends := by
    obtain ⟨outcome, ends⟩ := sound.ends
    exact ⟨_, ends.readAfter 0 reception.transport⟩
  takes := sound.takes
  conserves := by
    obtain ⟨part, received, -⟩ :=
      reception.incoming.received_readFrom reception.transport
    have held := received.consumed
    have left := received.yielded.inbound
    rw [sound.conserves, left, taken, taken, perform]
    simp only [held, List.append_assoc]

/-- A payload that is handed over keeps a reception sound. -/
theorem Sound.handOver (sound : Sound maxSize arrived reception) :
    Sound maxSize arrived (reception.perform .handOver) := by
  obtain ⟨outcome, ends⟩ := sound.ends
  rw [perform]
  split
  · exact sound
  · next payload isPayload =>
      obtain ⟨takes, held⟩ := ends.payload_eq_some_iff.mp isPayload
      refine ⟨⟨.ok 0, .partly ?_⟩, ?_, ?_⟩
      · rw [ends.codec]
        exact Incoming.isPartial_start _ _
      · exact List.forall_mem_append.mpr
          ⟨sound.takes, List.forall_mem_singleton.mpr takes⟩
      · rw [sound.conserves, taken, taken, held]
        simp [Incoming.start, Incoming.consumed]

/-- A step keeps a reception sound for what arrives by it. -/
theorem Sound.perform (sound : Sound maxSize arrived reception) (step : Step) :
    Sound maxSize (arrived ++ arriving [step]) (reception.perform step) := by
  cases step with
  | read =>
      rw [show arriving [.read] = [] from rfl, List.append_nil]
      exact sound.read
  | handOver =>
      rw [show arriving [.handOver] = [] from rfl, List.append_nil]
      exact sound.handOver
  | transport step =>
      refine ⟨sound.ends, sound.takes, ?_⟩
      rw [sound.conserves, Reception.perform,
        reception.transport.inbound_perform step]
      simp [arriving, taken]

/-- No run of steps loses a byte or makes one up. -/
theorem Sound.run (sound : Sound maxSize arrived reception)
    (steps : List Step) :
    Sound maxSize (arrived ++ arriving steps) (reception.run steps) := by
  induction steps generalizing arrived reception with
  | nil =>
      rw [show arriving [] = [] from rfl, List.append_nil]
      exact sound
  | cons step others inductionHypothesis =>
      have later := inductionHypothesis (sound.perform step)
      rw [List.append_assoc, arriving, arriving, ← List.flatMap_append] at later
      exact later

/-! ## Frames cut from the same bytes -/

/-- The payloads of everything that arrived begin with those received. -/
theorem Sound.drain_eq (sound : Sound maxSize arrived reception) :
    FrameBuffer.drain ⟨⟨maxSize⟩, arrived⟩ =
      (FrameBuffer.drain ⟨⟨maxSize⟩,
        reception.incoming.consumed ++ reception.transport.inbound⟩).after
          reception.received := by
  rw [sound.conserves, taken, List.append_assoc]
  exact FrameBuffer.drain_frames_append sound.takes _

/-- A codec cuts from what was taken the payloads that are there. -/
theorem Sound.drain_taken (sound : Sound maxSize arrived reception) :
    ∃ failure,
      FrameBuffer.drain ⟨⟨maxSize⟩, reception.taken⟩ =
        ⟨reception.received ++ reception.incoming.payload.toList, failure,
          ⟨⟨maxSize⟩, reception.incoming.buffer⟩⟩ := by
  obtain ⟨outcome, ends⟩ := sound.ends
  rw [taken, FrameBuffer.drain_frames_append sound.takes]
  obtain ⟨failure, cut⟩ := ends.drain_consumed
  rw [cut]
  exact ⟨failure, rfl⟩

/-! ## Reading one frame after the other -/

/-- Read what there is of a frame, and hand it over if it is whole. -/
def receiveOne (reception : Reception) : Reception :=
  reception.run [.read, .handOver]

/-- Read one frame after the other, as often as asked for. -/
def receive (reception : Reception) : (rounds : Nat) → Reception
  | 0 => reception
  | rounds + 1 => reception.receiveOne.receive rounds

/-- To receive one frame keeps a reception sound. -/
theorem Sound.receiveOne (sound : Sound maxSize arrived reception) :
    Sound maxSize arrived reception.receiveOne :=
  sound.read.handOver

/-- The payload of a whole frame is handed over after the others. -/
theorem received_handOver (reception : Reception) :
    (reception.perform .handOver).received =
      reception.received ++ reception.incoming.payload.toList := by
  rw [perform]
  split
  · next nothing =>
      rw [nothing, Option.toList_none, List.append_nil]
  · next payload isPayload =>
      rw [isPayload, Option.toList_some]

/-- To hand a payload over does not touch the transport. -/
theorem transport_handOver (reception : Reception) :
    (reception.perform .handOver).transport = reception.transport := by
  rw [perform]
  split <;> rfl

/-- An unhindered transport is still so after a frame was received. -/
theorem isUnhindered_receiveOne
    (unhindered : reception.transport.IsUnhindered) :
    reception.receiveOne.transport.IsUnhindered := by
  have same : reception.receiveOne.transport =
      (reception.perform .read).transport :=
    transport_handOver (reception.perform .read)
  rw [same]
  exact reception.incoming.isUnhindered_readAfter 0 unhindered

/-- If nothing hinders the reads, the next frame comes if it has arrived. -/
theorem Sound.received_receiveOne (sound : Sound maxSize arrived reception)
    (unhindered : reception.transport.IsUnhindered) :
    reception.receiveOne.received =
      (FrameBuffer.drain ⟨⟨maxSize⟩, arrived⟩).payloads.take
        (reception.received.length + 1) := by
  obtain ⟨outcome, ends⟩ := sound.ends
  have exhausts := ends.exhausts_readAfter 0 unhindered
  have next := (ends.readAfter 0 reception.transport).take_payloads exhausts
  have handedOver : reception.receiveOne.received =
      reception.received ++
        (reception.perform .read).incoming.payload.toList :=
    received_handOver (reception.perform .read)
  have drained := sound.read.drain_eq
  rw [handedOver, drained, FrameBuffer.Drained.after]
  exact ((List.take_length_add_append 1).trans
    (congrArg (reception.received ++ ·) next)).symm

/-- If nothing hinders the reads, the frames come in the order of the cuts. -/
theorem Sound.received_receive (rounds : Nat)
    (sound : Sound maxSize arrived reception)
    (unhindered : reception.transport.IsUnhindered) :
    (reception.receive rounds).received =
      (FrameBuffer.drain ⟨⟨maxSize⟩, arrived⟩).payloads.take
        (reception.received.length + rounds) := by
  induction rounds generalizing reception with
  | zero =>
      rw [sound.drain_eq]
      exact List.take_left.symm
  | succ rounds inductionHypothesis =>
      have one := sound.received_receiveOne unhindered
      rw [receive, inductionHypothesis sound.receiveOne
        (isUnhindered_receiveOne unhindered), one, List.length_take]
      generalize (FrameBuffer.drain ⟨⟨maxSize⟩, arrived⟩).payloads = payloads
      -- The first round may have had no payload left to receive.
      rw [List.take_eq_take_iff]
      omega

/-! ## Receptions without loss -/

/-- What is true of a reception, whatever its reads met. -/
structure IsLossless (maxSize : Nat) (arrived : Bytes) (reception : Reception) :
    Prop where
  /-- Each pass but the last uses up a byte or a forced outcome. -/
  terminates :
    Incoming.readWithin (reception.transport.readWork + 1) reception.incoming 0
        reception.transport =
      some (reception.incoming.readFrom reception.transport)
  /-- Each byte was handed over, or is held, or waits to be read. -/
  conserves :
    arrived =
      (reception.received.map FrameCodec.frame).flatten ++
        reception.incoming.consumed ++ reception.transport.inbound
  emptied :
    reception.incoming.payload ≠ none → reception.incoming.buffer = []
  counts :
    let (outcome, left, later) :=
      reception.incoming.readFrom reception.transport
    ∃ part,
      reception.transport.inbound = part ++ later.inbound ∧
        left.consumed = reception.incoming.consumed ++ part ∧
        ∀ count, outcome = .ok count → count = part.length
  /-- The size that a frame begins with bounds what is taken for it. -/
  bounded :
    ∀ (size : Int32) (rest : Bytes),
      reception.incoming.consumed ++ reception.transport.inbound =
          Bytes.ofInt32 size ++ rest →
        reception.incoming.consumed.length ≤ 4 + size.toInt.toNat ∧
          (size.toInt < 0 ∨ maxSize < size.toInt →
            reception.incoming.consumed.length ≤ 4)
  /-- A size out of range fails the read that takes it and every other. -/
  refuses :
    ∀ size : Int32,
      (size.toInt < 0 ∨ maxSize < size.toInt) →
        let (outcome, left, later) :=
          reception.incoming.readFrom reception.transport
        (left.consumed = Bytes.ofInt32 size →
            outcome = .error (FrameCodec.refusal ⟨maxSize⟩ size)) ∧
          (reception.incoming.consumed = Bytes.ofInt32 size →
            left = reception.incoming ∧ later = reception.transport)
  completes :
    ∀ payload,
      reception.incoming.payload = some payload ↔
        (payload.length ≤ maxSize ∧ payload.length ≤ maxFrameSize) ∧
          reception.incoming.consumed = FrameCodec.frame payload
  /-- Nothing but the end of the frame or of its size stops an easy read. -/
  exhausts :
    reception.transport.IsUnhindered →
      let (_, left, later) := reception.incoming.readFrom reception.transport
      left.payload ≠ none ∨ (∃ size, left.IsRefused maxSize size) ∨
        later.inbound = []
  /-- A codec that is given what was taken cuts the same and keeps the same. -/
  cuts :
    ∃ failure,
      FrameBuffer.drain
          ⟨⟨maxSize⟩,
            (reception.received.map FrameCodec.frame).flatten ++
              reception.incoming.consumed⟩ =
        ⟨reception.received ++ reception.incoming.payload.toList, failure,
          ⟨⟨maxSize⟩, reception.incoming.buffer⟩⟩
  /-- Frame after frame, everything that a codec would cut is received. -/
  follows :
    reception.transport.IsUnhindered →
      ∀ rounds,
        (reception.receive rounds).received =
          (FrameBuffer.drain ⟨⟨maxSize⟩, arrived⟩).payloads.take
            (reception.received.length + rounds)

/-- A sound reception loses no byte and no frame. -/
theorem Sound.isLossless (sound : Sound maxSize arrived reception) :
    IsLossless maxSize arrived reception := by
  obtain ⟨outcome, ends⟩ := sound.ends
  have endsLater := ends.readAfter 0 reception.transport
  exact {
    terminates :=
      Incoming.readWithin_eq_some _ _ _ _ (Nat.le_refl _)
    conserves := sound.conserves
    emptied := ends.emptied
    counts := by
      obtain ⟨part, received, counted⟩ :=
        reception.incoming.received_readFrom reception.transport
      exact ⟨part, received.yielded.inbound, received.consumed, counted⟩
    bounded := fun size rest front => ends.length_consumed_le front
    refuses := by
      intro size outOfRange
      refine ⟨fun held => (endsLater.isRefused outOfRange held).2, ?_⟩
      intro held
      have isRefused := (ends.isRefused outOfRange held).1
      have unread := isRefused.readAfter_eq 0 reception.transport
      exact ⟨congrArg (·.2.1) unread, congrArg (·.2.2) unread⟩
    completes := by
      intro payload
      rw [ends.payload_eq_some_iff, FrameCodec.takes_iff]
    exhausts := fun unhindered => ends.exhausts_readAfter 0 unhindered
    cuts := sound.drain_taken
    follows := fun unhindered rounds =>
      sound.received_receive rounds unhindered }

/--
Whatever arrives when, and whatever the reads meet, a reception loses nothing.

The transport may be in any state at first, and its owner and the peer may do
anything to it between the reads.
-/
theorem isLossless_run (source : String) (maxSize : Nat)
    (transport : Transport) (steps : List Step) :
    IsLossless maxSize (transport.inbound ++ arriving steps)
      ((start source maxSize transport).run steps) :=
  ((sound_start source maxSize transport).run steps).isLossless

/-- A frame whose reads are cut short, and behind it a size that is too large. -/
def refusedReception : Reception :=
  (start "node" 5 { readOutcomes := [.fail .interrupted] }).run
    [.transport (.push [0, 0, 0, 2, 104]), .transport (.readBudget (some 3)),
      .read, .transport (.readBudget none), .read,
      .transport (.push [105, 0, 0, 0, 6, 1]), .read, .handOver, .read]

theorem isLossless_run_of_refused :
    (refusedReception.received = [[104, 105]] ∧
      refusedReception.transport.inbound = [1]) ∧
    ((6 : Int32).toInt < 0 ∨ ((5 : Nat) : Int) < (6 : Int32).toInt) ∧
    refusedReception.incoming.consumed = Bytes.ofInt32 6 ∧
    refusedReception.incoming.readFrom refusedReception.transport =
      (.error (FrameCodec.refusal ⟨5⟩ 6), refusedReception.incoming,
        refusedReception.transport) := by
  have lossless :=
    isLossless_run "node" 5 { readOutcomes := [.fail .interrupted] }
      [.transport (.push [0, 0, 0, 2, 104]), .transport (.readBudget (some 3)),
        .read, .transport (.readBudget none), .read,
        .transport (.push [105, 0, 0, 0, 6, 1]), .read, .handOver, .read]
  have outOfRange :
      (6 : Int32).toInt < 0 ∨ ((5 : Nat) : Int) < (6 : Int32).toInt := by
    decide
  have held : refusedReception.incoming.consumed = Bytes.ofInt32 6 := by
    decide +kernel
  obtain ⟨fails, untouched⟩ := lossless.refuses 6 outOfRange
  obtain ⟨sameFrame, sameTransport⟩ := untouched held
  have failed := fails ((congrArg Incoming.consumed sameFrame).trans held)
  refine ⟨by decide +kernel, outOfRange, held, ?_⟩
  exact Prod.ext failed (Prod.ext sameFrame sameTransport)

end Reception

end BrokerSession
