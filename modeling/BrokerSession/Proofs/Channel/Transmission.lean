import BrokerSession.Proofs.Channel.Breakage
import BrokerSession.Proofs.Channel.Frame
import BrokerSession.Proofs.Channel.Outgoing
import BrokerSession.Proofs.Channel.Steps

namespace BrokerSession

/-!
# Frames on their way out

A frame is sent over any number of writes, each of which may be cut short by a
budget, blocked, interrupted or failed.  Whatever the writes meet, the bytes
that the transport accepted, followed by those still to be written, are the
frame: a byte is neither skipped nor sent twice.
-/

namespace Transport

/-- Behind the bytes that a budget admits, what is left of it admits no more. -/
theorem admitted_rest (budget : Option Nat) (bytes : Bytes) :
    admitted (budget.map (· - (admitted budget bytes).length))
        (bytes.drop (admitted budget bytes).length) =
      [] := by
  cases budget with
  | none =>
      exact List.drop_length
  | some limit =>
      simp only [admitted, Option.map_some, List.length_take,
        List.take_eq_nil_iff, List.drop_eq_nil_iff]
      omega

/-- A transport after it accepted a part and charged it to the budget. -/
def accepting (transport : Transport) (part : Bytes) : Transport :=
  { transport with
    outbound := transport.outbound ++ part
    writeBudget := transport.writeBudget.map (· - part.length) }

theorem accepting_nil (transport : Transport) :
    transport.accepting [] = transport := by
  cases transport with
  | mk inbound outbound readBudget writeBudget =>
      cases writeBudget <;> simp [accepting]

theorem IsWritable.accepting {transport : Transport}
    (writable : transport.IsWritable) (part : Bytes) :
    (transport.accepting part).IsWritable :=
  ⟨writable.unforced, writable.opened⟩

/-- A writable transport accepts what its budget admits, or else blocks. -/
theorem IsWritable.write_eq {transport : Transport}
    (writable : transport.IsWritable) (bytes : Bytes) :
    transport.write bytes =
      if admitted transport.writeBudget bytes = [] then
        (.error .wouldBlock, transport)
      else
        (.ok (admitted transport.writeBudget bytes).length,
          transport.accepting (admitted transport.writeBudget bytes)) := by
  simp only [Transport.write, writable.unforced, writeOutbound,
    writable.opened, Bool.false_eq_true, if_false, List.isEmpty_iff,
    Transport.accepting]

end Transport

namespace Outgoing

/-! ## The end of the writing -/

/-- How many more passes can go on: forced outcomes and bytes not written. -/
def writeWork (outgoing : Outgoing) (transport : Transport) : Nat :=
  transport.writeOutcomes.length + outgoing.remaining.length

/-- A frame without the bytes at its front. -/
def advance (outgoing : Outgoing) (count : Nat) : Outgoing :=
  { outgoing with remaining := outgoing.remaining.drop count }

/-- The writing loop, given up after a number of passes. -/
def writeWithin :
    (passes : Nat) → Outgoing → Nat → Transport →
      Option (Except IoError Nat × Outgoing × Transport)
  | 0, _, _, _ => none
  | passes + 1, outgoing, written, transport =>
      if outgoing.remaining = [] then some (.ok written, outgoing, transport)
      else
        match transport.write outgoing.remaining with
        | (.ok count, later) =>
            if count = 0 then
              some (.error
                { kind := .writeZero
                  message := s!"Failed to write to {outgoing.destination}" },
                outgoing, later)
            else
              writeWithin passes (outgoing.advance count) (written + count)
                later
        | (.error failure, later) =>
            if failure.kind = .interrupted then
              writeWithin passes outgoing written later
            else if failure.kind = .wouldBlock then
              some (.ok written, outgoing, later)
            else
              some (.error failure, outgoing, later)

/-- A write that gets through leaves less work. -/
theorem writeWork_write_of_ok {outgoing : Outgoing}
    {transport later : Transport} {count : Nat}
    (unsent : outgoing.remaining ≠ [])
    (outcome : transport.write outgoing.remaining = (.ok count, later))
    (moved : count ≠ 0) :
    (outgoing.advance count).writeWork later <
      outgoing.writeWork transport := by
  have queue := Transport.writeOutcomes_write_le transport outgoing.remaining
  rw [outcome] at queue
  dsimp only at queue
  have left : 0 < outgoing.remaining.length := List.length_pos_iff.mpr unsent
  simp only [writeWork, advance, List.length_drop]
  omega

/-- Every pass but the last uses up a forced outcome or a byte. -/
theorem writeWithin_eq_some (outgoing : Outgoing) (written : Nat)
    (transport : Transport) :
    ∀ passes, outgoing.writeWork transport ≤ passes →
      writeWithin (passes + 1) outgoing written transport =
        some (outgoing.writeAfter written transport) := by
  fun_induction Outgoing.writeAfter outgoing written transport with
  | case1 outgoing written transport complete =>
      intro passes _
      rw [writeWithin, if_pos complete]
  | case2 outgoing written transport unsent later outcome =>
      intro passes _
      simp only [writeWithin, if_neg unsent, outcome, if_true]
  | case3 outgoing written transport unsent count later outcome moved
      inductionHypothesis =>
      intro passes enough
      -- A pass that goes on leaves less work, so one pass less is enough.
      have less := writeWork_write_of_ok unsent outcome moved
      obtain ⟨others, rfl⟩ : ∃ others, passes = others + 1 :=
        ⟨passes - 1, by omega⟩
      rw [writeWithin]
      simp only [if_neg unsent, outcome, if_neg moved]
      have fewer : (outgoing.advance count).writeWork later ≤ others := by
        omega
      exact inductionHypothesis others fewer
  | case4 outgoing written transport unsent failure later outcome again
      inductionHypothesis =>
      intro passes enough
      have less := Transport.writeOutcomes_write_of_interrupted outcome again
      rw [writeWork] at enough
      obtain ⟨others, rfl⟩ : ∃ others, passes = others + 1 :=
        ⟨passes - 1, by omega⟩
      rw [writeWithin]
      simp only [if_neg unsent, outcome, if_pos again]
      have fewer : outgoing.writeWork later ≤ others := by
        rw [writeWork]
        omega
      exact inductionHypothesis others fewer
  | case5 outgoing written transport unsent failure later outcome again
      blocked =>
      intro passes _
      simp only [writeWithin, if_neg unsent, outcome, if_neg again,
        if_pos blocked]
  | case6 outgoing written transport unsent failure later outcome again
      blocked =>
      intro passes _
      simp only [writeWithin, if_neg unsent, outcome, if_neg again,
        if_neg blocked]

/-! ## Writes that go through -/

/-- Nothing is written of a frame that is complete. -/
theorem writeTo_of_isComplete {outgoing : Outgoing}
    (complete : outgoing.isComplete = true) (transport : Transport) :
    outgoing.writeTo transport = (.ok 0, outgoing, transport) := by
  rw [writeTo, writeAfter, dif_pos (List.isEmpty_iff.mp complete)]

/-- The bytes of a frame that the budget of a transport admits next. -/
def portion (outgoing : Outgoing) (transport : Transport) : Bytes :=
  Transport.admitted transport.writeBudget outgoing.remaining

theorem portion_of_complete {outgoing : Outgoing}
    (complete : outgoing.remaining = []) (transport : Transport) :
    outgoing.portion transport = [] := by
  have beginning :=
    Transport.admitted_prefix transport.writeBudget outgoing.remaining
  rw [complete, List.prefix_nil] at beginning
  rw [portion, complete, beginning]

/-- A portion uses up the budget or the frame. -/
theorem portion_advance (outgoing : Outgoing) (transport : Transport) :
    (outgoing.advance (outgoing.portion transport).length).portion
        (transport.accepting (outgoing.portion transport)) =
      [] :=
  Transport.admitted_rest _ _

/-- Moving an empty portion is doing nothing. -/
theorem eq_of_portion_eq_nil {outgoing : Outgoing} {transport : Transport}
    (nothing : outgoing.portion transport = []) (written : Nat) :
    ((.ok (written + (outgoing.portion transport).length),
        outgoing.advance (outgoing.portion transport).length,
        transport.accepting (outgoing.portion transport)) :
      Except IoError Nat × Outgoing × Transport) =
      (.ok written, outgoing, transport) := by
  rw [nothing, Transport.accepting_nil]
  rfl

/-- Over a writable transport a write moves one portion, and never fails. -/
theorem writeAfter_of_isWritable (outgoing : Outgoing) (written : Nat)
    (transport : Transport) (writable : transport.IsWritable) :
    outgoing.writeAfter written transport =
      (.ok (written + (outgoing.portion transport).length),
        outgoing.advance (outgoing.portion transport).length,
        transport.accepting (outgoing.portion transport)) := by
  fun_induction Outgoing.writeAfter outgoing written transport with
  | case1 outgoing written transport complete =>
      exact (eq_of_portion_eq_nil (portion_of_complete complete transport)
        written).symm
  | case2 outgoing written transport unsent later outcome =>
      exact ((writable.write outcome).2.1 rfl).elim
  | case3 outgoing written transport unsent count later outcome moved
      inductionHypothesis =>
      rw [writable.write_eq] at outcome
      split at outcome
      · cases (Prod.mk.inj outcome).1
      · obtain ⟨answer, rfl⟩ := Prod.mk.inj outcome
        cases answer
        have rest := inductionHypothesis (writable.accepting _)
        -- A portion leaves no budget or no bytes, so nothing else is moved.
        exact rest.trans
          (eq_of_portion_eq_nil (outgoing.portion_advance transport) _)
  | case4 outgoing written transport unsent failure later outcome again =>
      have blocks := (writable.write outcome).2.2 failure rfl
      rw [blocks] at again
      cases again
  | case5 outgoing written transport unsent failure later outcome again
      blocked =>
      rw [writable.write_eq] at outcome
      split at outcome
      · next nothing =>
          obtain ⟨-, rfl⟩ := Prod.mk.inj outcome
          exact (eq_of_portion_eq_nil nothing written).symm
      · cases (Prod.mk.inj outcome).1
  | case6 outgoing written transport unsent failure later outcome again
      blocked =>
      have blocks := (writable.write outcome).2.2 failure rfl
      rw [blocks] at blocked
      exact (blocked rfl).elim

end Outgoing

/-- A frame on its way, and what was taken away of the bytes accepted. -/
structure Transmission where
  outgoing : Outgoing
  transport : Transport
  taken : Bytes := []
  deriving Repr, DecidableEq

namespace Transmission

/-- What the sender, the owner of the transport or its peer may do. -/
inductive Step where
  | write
  | transport (step : Transport.Step)
  deriving Repr, DecidableEq

def perform (transmission : Transmission) : Step → Transmission
  | .write =>
      let (_, outgoing, transport) :=
        transmission.outgoing.writeTo transmission.transport
      { transmission with outgoing, transport }
  | .transport step =>
      let (taken, transport) := transmission.transport.perform step
      { transmission with
        transport, taken := transmission.taken ++ taken.getD [] }

def run (transmission : Transmission) (steps : List Step) : Transmission :=
  steps.foldl perform transmission

/-- Everything that the transport has accepted so far, from whatever frame. -/
def accepted (transmission : Transmission) : Bytes :=
  transmission.taken ++ transmission.transport.outbound

/-! ## What every step keeps -/

/-- The bytes accepted and those still to be written, one after the other. -/
def stream (transmission : Transmission) : Bytes :=
  transmission.accepted ++ transmission.outgoing.remaining

variable {transmission : Transmission}

/-- A write moves bytes over, and a step of the owner moves none of them. -/
theorem stream_perform (transmission : Transmission) (step : Step) :
    (transmission.perform step).stream = transmission.stream := by
  cases step with
  | write =>
      obtain ⟨part, sent, -⟩ :=
        transmission.outgoing.sent_writeTo transmission.transport
      have moved := sent.accepted.outbound
      have left := sent.remaining
      simp only [stream, accepted, perform, moved, left, List.append_assoc]
  | transport step =>
      have same := transmission.transport.outbound_perform step
      simp only [stream, accepted, perform, List.append_assoc] at same ⊢
      rw [← same, List.append_assoc]

theorem stream_run (transmission : Transmission) (steps : List Step) :
    (transmission.run steps).stream = transmission.stream := by
  induction steps generalizing transmission with
  | nil =>
      rfl
  | cons step others inductionHypothesis =>
      exact (inductionHypothesis (transmission.perform step)).trans
        (stream_perform transmission step)

/-- A frame that is complete stays as it is. -/
theorem outgoing_perform_of_isComplete
    (complete : transmission.outgoing.isComplete = true) (step : Step) :
    (transmission.perform step).outgoing = transmission.outgoing := by
  cases step with
  | write =>
      rw [perform,
        transmission.outgoing.writeTo_of_isComplete complete]
  | transport step =>
      rfl

theorem outgoing_run_of_isComplete
    (complete : transmission.outgoing.isComplete = true)
    (steps : List Step) :
    (transmission.run steps).outgoing = transmission.outgoing := by
  induction steps generalizing transmission with
  | nil =>
      rfl
  | cons step others inductionHypothesis =>
      have unchanged := outgoing_perform_of_isComplete complete step
      have later := inductionHypothesis
        ((congrArg Outgoing.isComplete unchanged).trans complete)
      exact later.trans unchanged

/-! ## Transmissions without loss -/

/--
What is true of a frame on its way, whatever its writes met.

`earlier` is what the transport held before the first write.
-/
structure ConservesFrame (earlier payload : Bytes)
    (transmission : Transmission) : Prop where
  /-- Each pass but the last uses up a byte or a forced outcome. -/
  terminates :
    Outgoing.writeWithin
        (transmission.outgoing.writeWork transmission.transport + 1)
        transmission.outgoing 0 transmission.transport =
      some (transmission.outgoing.writeTo transmission.transport)
  /-- Each byte was accepted once or is still to be written. -/
  conserves :
    transmission.accepted ++ transmission.outgoing.remaining =
      earlier ++ (Bytes.bigEndian 4 payload.length ++ payload)
  counts :
    let (outcome, left, later) :=
      transmission.outgoing.writeTo transmission.transport
    ∃ part,
      later.outbound = transmission.transport.outbound ++ part ∧
        transmission.outgoing.remaining = part ++ left.remaining ∧
        ∀ count, outcome = .ok count → count = part.length
  /-- A transport that is open and unforced takes what its budget admits. -/
  delivers :
    transmission.transport.IsWritable →
      let part :=
        Transport.admitted transmission.transport.writeBudget
          transmission.outgoing.remaining
      let (outcome, left, later) :=
        transmission.outgoing.writeTo transmission.transport
      outcome = .ok part.length ∧
        later.outbound = transmission.transport.outbound ++ part ∧
        transmission.outgoing.remaining = part ++ left.remaining
  completes :
    transmission.outgoing.isComplete = true ↔
      transmission.accepted =
        earlier ++ (Bytes.bigEndian 4 payload.length ++ payload)
  /-- Once the frame is complete, no write does anything any more. -/
  rests :
    transmission.outgoing.isComplete = true →
      ∀ others,
        (transmission.run others).outgoing = transmission.outgoing ∧
          (transmission.run others).outgoing.writeTo
              (transmission.run others).transport =
            (.ok 0, transmission.outgoing, (transmission.run others).transport)

/-- A transmission that loses nothing is one whose stream is the frame. -/
theorem conservesFrame_of_stream_eq {earlier payload : Bytes}
    (same : transmission.stream = earlier ++ FrameCodec.frame payload) :
    ConservesFrame earlier payload transmission where
  terminates :=
    Outgoing.writeWithin_eq_some _ _ _ _ (Nat.le_refl _)
  conserves := same
  counts := by
    obtain ⟨part, sent, counted⟩ :=
      transmission.outgoing.sent_writeTo transmission.transport
    exact ⟨part, sent.accepted.outbound, sent.remaining, counted⟩
  delivers := by
    intro writable
    have moved := transmission.outgoing.writeAfter_of_isWritable 0
      transmission.transport writable
    rw [Nat.zero_add] at moved
    have beginning :=
      Transport.admitted_prefix transmission.transport.writeBudget
        transmission.outgoing.remaining
    rw [Outgoing.writeTo, moved]
    exact ⟨rfl, rfl, (List.prefix_iff_eq_append.mp beginning).symm⟩
  completes := by
    rw [Outgoing.isComplete, List.isEmpty_iff]
    change transmission.accepted ++ transmission.outgoing.remaining = _ at same
    constructor
    · intro complete
      rwa [complete, List.append_nil] at same
    · intro whole
      rw [whole] at same
      exact List.append_right_eq_self.mp same
  rests := by
    intro complete others
    have unchanged := outgoing_run_of_isComplete complete others
    refine ⟨unchanged, ?_⟩
    rw [unchanged]
    exact Outgoing.writeTo_of_isComplete complete _

/--
Whatever the writes of a frame meet, no byte is skipped or sent twice.

The transport may be in any state at first, and its owner and the peer may do
anything to it between the writes.
-/
theorem conservesFrame_run (destination : String) (payload : Bytes)
    (fits : payload.length ≤ maxFrameSize) :
    ∃ outgoing,
      Outgoing.ofPayload destination payload = .ok outgoing ∧
        ∀ (transport : Transport) (steps : List Step),
          ConservesFrame transport.outbound payload
            (run { outgoing, transport } steps) := by
  have encoded : FrameCodec.unlimited.encode payload =
      .ok (FrameCodec.frame payload) :=
    FrameCodec.encode_eq_ok_iff.mpr ⟨fits, fits, rfl⟩
  refine ⟨_, except_bind_eq_ok_iff.mpr ⟨_, encoded, rfl⟩, ?_⟩
  intro transport steps
  exact conservesFrame_of_stream_eq (stream_run _ steps)

/-- A frame whose writes are interrupted, cut short and refused. -/
def hinderedSteps : List Step :=
  [.transport (.forceWrite (.fail .interrupted)),
    .transport (.writeBudget (some 3)), .write,
    .transport (.forceWrite .zero), .write, .transport .take,
    .transport (.writeBudget none), .write]

theorem conservesFrame_run_of_hindered :
    ([104, 105] : Bytes).length ≤ maxFrameSize ∧
      ∃ outgoing,
        Outgoing.ofPayload "node" [104, 105] = .ok outgoing ∧
          let last := run { outgoing, transport := {} } hinderedSteps
          ConservesFrame [] [104, 105] last ∧
            last.taken = [0, 0, 0] ∧
            last.accepted = [0, 0, 0, 2, 104, 105] := by
  have fits : ([104, 105] : Bytes).length ≤ maxFrameSize := by
    decide
  obtain ⟨outgoing, made, conserves⟩ :=
    conservesFrame_run "node" [104, 105] fits
  have conserved := conserves {} hinderedSteps
  cases made
  refine ⟨fits, _, rfl, conserved, by decide +kernel, ?_⟩
  exact conserved.completes.mp (by decide +kernel)

end Transmission

end BrokerSession
