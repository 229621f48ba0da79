import BrokerSession.Proofs.Channel.Incoming

namespace BrokerSession

/-!
# Transports that only delay

A transport is patient if its peer has not closed and if every forced outcome
blocks or interrupts.  Writing to such a transport never fails, and reading
from it fails only if a frame announces a size that is out of range.  Without
a budget it stops short only at a forced outcome or when nothing is left to
read.
-/

/-- Whether an outcome only delays the call that meets it. -/
def Outcome.delays : Outcome → Bool
  | .fail .wouldBlock | .fail .interrupted => true
  | _ => false

/-- Whether a failure says that the same call may succeed later. -/
def IoError.Delays (failure : IoError) : Prop :=
  failure.kind = .interrupted ∨ failure.kind = .wouldBlock

theorem Outcome.failure_of_delays {outcome : Outcome}
    (isDelay : outcome.delays = true) :
    ∃ failure, outcome.failure? = some failure ∧ failure.Delays := by
  unfold Outcome.delays at isDelay
  split at isDelay
  · exact ⟨_, rfl, Or.inr rfl⟩
  · exact ⟨_, rfl, Or.inl rfl⟩
  · cases isDelay

namespace Transport

/-- Whether calls may be delayed but do not fail otherwise. -/
structure IsPatient (transport : Transport) : Prop where
  opened : transport.closed = false
  reads : ∀ outcome ∈ transport.readOutcomes, outcome.delays = true
  writes : ∀ outcome ∈ transport.writeOutcomes, outcome.delays = true

variable {transport later : Transport}

/-! ## Single calls -/

/-- A write of some bytes moves some of them, or is delayed. -/
theorem write_of_isPatient {bytes : Bytes} {outcome : Except IoError Nat}
    (patient : transport.IsPatient)
    (wrote : transport.write bytes = (outcome, later)) :
    later.IsPatient ∧ outcome ≠ .ok 0 ∧
      ∀ failure, outcome = .error failure → failure.Delays := by
  unfold write at wrote
  split at wrote
  · next forced queue outcomes =>
      obtain ⟨rfl, rfl⟩ := Prod.mk.inj wrote
      have writes := patient.writes
      rw [outcomes] at writes
      obtain ⟨failure, isFailure, delays⟩ :=
        Outcome.failure_of_delays (writes forced List.mem_cons_self)
      rw [isFailure]
      refine ⟨⟨patient.opened, patient.reads, fun other member =>
        writes other (List.mem_cons_of_mem forced member)⟩, nofun, ?_⟩
      rintro _ ⟨⟩
      exact delays
  · unfold writeOutbound at wrote
    rw [if_neg (by rw [patient.opened]; exact Bool.false_ne_true)] at wrote
    dsimp only at wrote
    split at wrote
    · obtain ⟨rfl, rfl⟩ := Prod.mk.inj wrote
      refine ⟨patient, nofun, ?_⟩
      rintro _ ⟨⟩
      exact Or.inr rfl
    · next someAccepted =>
        obtain ⟨rfl, rfl⟩ := Prod.mk.inj wrote
        refine ⟨⟨patient.opened, patient.reads, patient.writes⟩, ?_, nofun⟩
        simpa using someAccepted

/-- Without a budget a write moves everything or meets a forced outcome. -/
theorem write_of_unlimited {bytes : Bytes} {outcome : Except IoError Nat}
    (patient : transport.IsPatient) (unlimited : transport.writeBudget = none)
    (nonempty : bytes ≠ [])
    (wrote : transport.write bytes = (outcome, later)) :
    later.writeBudget = none ∧
      (outcome = .ok bytes.length ∨
        later.writeOutcomes.length < transport.writeOutcomes.length) := by
  unfold write at wrote
  split at wrote
  · next forced queue outcomes =>
      obtain ⟨rfl, rfl⟩ := Prod.mk.inj wrote
      refine ⟨unlimited, Or.inr ?_⟩
      simp [outcomes]
  · unfold writeOutbound at wrote
    rw [if_neg (by rw [patient.opened]; exact Bool.false_ne_true)] at wrote
    simp only [admitted, unlimited, List.isEmpty_iff, nonempty, if_false]
      at wrote
    obtain ⟨rfl, rfl⟩ := Prod.mk.inj wrote
    exact ⟨rfl, Or.inl rfl⟩

/-- A read of some bytes yields some of them, or is delayed. -/
theorem read_of_isPatient {limit : Nat} {outcome : Except IoError Bytes}
    (patient : transport.IsPatient)
    (readNow : transport.read limit = (outcome, later)) :
    later.IsPatient ∧ outcome ≠ .ok [] ∧
      ∀ failure, outcome = .error failure → failure.Delays := by
  unfold read at readNow
  split at readNow
  · next forced queue outcomes =>
      obtain ⟨rfl, rfl⟩ := Prod.mk.inj readNow
      have reads := patient.reads
      rw [outcomes] at reads
      obtain ⟨failure, isFailure, delays⟩ :=
        Outcome.failure_of_delays (reads forced List.mem_cons_self)
      rw [isFailure]
      refine ⟨⟨patient.opened, fun other member =>
        reads other (List.mem_cons_of_mem forced member), patient.writes⟩,
        nofun, ?_⟩
      rintro _ ⟨⟩
      exact delays
  · unfold readInbound at readNow
    simp only [patient.opened, Bool.false_eq_true, if_false] at readNow
    split at readNow
    · obtain ⟨rfl, rfl⟩ := Prod.mk.inj readNow
      refine ⟨patient, nofun, ?_⟩
      rintro _ ⟨⟩
      exact Or.inr rfl
    · split at readNow
      · obtain ⟨rfl, rfl⟩ := Prod.mk.inj readNow
        refine ⟨patient, nofun, ?_⟩
        rintro _ ⟨⟩
        exact Or.inr rfl
      · next someTaken =>
          obtain ⟨rfl, rfl⟩ := Prod.mk.inj readNow
          refine ⟨⟨rfl, patient.reads, patient.writes⟩, ?_, nofun⟩
          simpa using someTaken

/-- Whether a read has met a forced outcome or left nothing to read. -/
def Drained (before after : Transport) : Prop :=
  after.inbound = [] ∨ after.readOutcomes.length < before.readOutcomes.length

/-- Without a budget a read yields bytes unless there are none or it is forced. -/
theorem read_of_unlimited {limit : Nat} {outcome : Except IoError Bytes}
    (patient : transport.IsPatient) (unlimited : transport.readBudget = none)
    (positive : 0 < limit)
    (readNow : transport.read limit = (outcome, later)) :
    later.readBudget = none ∧
      later.readOutcomes.length ≤ transport.readOutcomes.length ∧
      ((∃ taken, outcome = .ok taken) ∨ transport.Drained later) := by
  unfold read at readNow
  split at readNow
  · next forced queue outcomes =>
      obtain ⟨rfl, rfl⟩ := Prod.mk.inj readNow
      refine ⟨unlimited, ?_, Or.inr (Or.inr ?_)⟩
      · simp [outcomes]
      · simp [outcomes]
  · unfold readInbound at readNow
    simp only [patient.opened, Bool.false_eq_true, if_false] at readNow
    split at readNow
    · next nothing =>
        obtain ⟨rfl, rfl⟩ := Prod.mk.inj readNow
        exact ⟨unlimited, Nat.le_refl _,
          Or.inr (Or.inl (List.isEmpty_iff.mp nothing))⟩
    · next something =>
        have nonempty : transport.inbound.take limit ≠ [] := by
          rw [List.isEmpty_iff] at something
          rw [Ne, List.take_eq_nil_iff]
          exact fun either => either.elim (Nat.ne_of_gt positive) something
        simp only [admitted, unlimited, List.isEmpty_iff, nonempty, if_false]
          at readNow
        obtain ⟨rfl, rfl⟩ := Prod.mk.inj readNow
        exact ⟨rfl, Nat.le_refl _, Or.inl ⟨_, rfl⟩⟩

end Transport

/-! ## Whole frames -/

namespace Outgoing

/-- Over a patient transport a write never fails. -/
theorem writeAfter_of_isPatient (outgoing : Outgoing) (written : Nat)
    (transport : Transport) (patient : transport.IsPatient) :
    (∃ count, (outgoing.writeAfter written transport).1 = .ok count) ∧
      (outgoing.writeAfter written transport).2.2.IsPatient := by
  fun_induction Outgoing.writeAfter outgoing written transport with
  | case1 outgoing written transport =>
      exact ⟨⟨written, rfl⟩, patient⟩
  | case2 outgoing written transport unsent later outcome =>
      exact ((Transport.write_of_isPatient patient outcome).2.1
        rfl).elim
  | case3 outgoing written transport unsent count later outcome moved
      inductionHypothesis =>
      exact inductionHypothesis
        (Transport.write_of_isPatient patient outcome).1
  | case4 outgoing written transport unsent failure later outcome again
      inductionHypothesis =>
      exact inductionHypothesis
        (Transport.write_of_isPatient patient outcome).1
  | case5 outgoing written transport unsent failure later outcome again
      blocked =>
      exact ⟨⟨written, rfl⟩,
        (Transport.write_of_isPatient patient outcome).1⟩
  | case6 outgoing written transport unsent failure later outcome again
      blocked =>
      rcases (Transport.write_of_isPatient patient outcome).2.2
        failure rfl with interrupted | blocks
      · exact (again interrupted).elim
      · exact (blocked blocks).elim

/-- Without a budget a frame is written whole or meets a forced outcome. -/
theorem writeAfter_of_unlimited (outgoing : Outgoing) (written : Nat)
    (transport : Transport) (patient : transport.IsPatient)
    (unlimited : transport.writeBudget = none) :
    (outgoing.writeAfter written transport).2.1.remaining = [] ∨
      (outgoing.writeAfter written transport).2.2.writeOutcomes.length <
        transport.writeOutcomes.length := by
  fun_induction Outgoing.writeAfter outgoing written transport with
  | case1 outgoing written transport unsent =>
      exact Or.inl unsent
  | case2 outgoing written transport unsent later outcome =>
      exact ((Transport.write_of_isPatient patient outcome).2.1
        rfl).elim
  | case3 outgoing written transport unsent count later outcome moved
      inductionHypothesis =>
      have laterPatient :=
        (Transport.write_of_isPatient patient outcome).1
      obtain ⟨stillUnlimited, -⟩ :=
        Transport.write_of_unlimited patient unlimited unsent outcome
      have shrinks := Transport.writeOutcomes_write_le transport
        outgoing.remaining
      rw [outcome] at shrinks
      exact (inductionHypothesis laterPatient stillUnlimited).imp_right
        fun fewer => Nat.lt_of_lt_of_le fewer shrinks
  | case4 outgoing written transport unsent failure later outcome again
      inductionHypothesis =>
      have laterPatient :=
        (Transport.write_of_isPatient patient outcome).1
      obtain ⟨stillUnlimited, -⟩ :=
        Transport.write_of_unlimited patient unlimited unsent outcome
      have shrinks := Transport.writeOutcomes_write_le transport
        outgoing.remaining
      rw [outcome] at shrinks
      exact (inductionHypothesis laterPatient stillUnlimited).imp_right
        fun fewer => Nat.lt_of_lt_of_le fewer shrinks
  | case5 outgoing written transport unsent failure later outcome
  | case6 outgoing written transport unsent failure later outcome =>
      rcases (Transport.write_of_unlimited patient unlimited unsent outcome).2
        with moved | fewer
      · cases moved
      · exact Or.inr fewer

end Outgoing

namespace Incoming

/-- Whether a frame has not arrived whole yet, and has a size in range. -/
structure IsPartial (incoming : Incoming) (maxSize : Nat) : Prop where
  codec : incoming.codec = ⟨maxSize⟩
  payload : incoming.payload = none
  undecided : FrameCodec.decode ⟨maxSize⟩ incoming.buffer = .ok none

theorem IsPartial.consumed_eq {incoming : Incoming} {maxSize : Nat}
    (isPartial : incoming.IsPartial maxSize) :
    incoming.consumed = incoming.buffer := by
  simp only [consumed, isPartial.payload]

theorem isPartial_start (source : String) (maxSize : Nat) :
    (Incoming.start source maxSize).IsPartial maxSize :=
  ⟨rfl, rfl, rfl⟩

/-- A partial frame needs some more bytes, at first those of its head. -/
theorem IsPartial.exists_needed {incoming : Incoming} {maxSize : Nat}
    (isPartial : incoming.IsPartial maxSize) :
    ∃ needed, incoming.needed = .ok needed ∧ 0 < needed := by
  obtain ⟨size?, peeked, cut⟩ := except_bind_eq_ok_iff.mp isPartial.undecided
  rw [needed, isPartial.codec, peeked]
  cases size? with
  | none =>
      have short := FrameCodec.peekSize_eq_none peeked
      exact ⟨_, rfl, Nat.sub_pos_of_lt short⟩
  | some size =>
      refine ⟨_, rfl, ?_⟩
      dsimp only at cut
      split at cut
      · next short =>
          have enough := (FrameCodec.peekSize_eq_some peeked).1
          rw [List.length_take, List.length_drop] at short
          omega
      · cases cut

theorem IsPartial.needed_pos {incoming : Incoming} {maxSize needed : Nat}
    (isPartial : incoming.IsPartial maxSize)
    (asked : incoming.needed = .ok needed) : 0 < needed := by
  obtain ⟨other, otherAsked, positive⟩ := isPartial.exists_needed
  cases otherAsked.symm.trans asked
  exact positive

/-- Whether the head of a frame announces a size out of range. -/
structure IsMalformed (maxSize : Nat) (held : Bytes) (failure : IoError) :
    Prop where
  sized : held.length = frameHeadLength
  refused : FrameCodec.peekSize ⟨maxSize⟩ held = .error failure

/-- A malformed frame stays malformed whatever follows its head. -/
theorem IsMalformed.decode_eq_error {maxSize : Nat} {held : Bytes}
    {failure : IoError} (malformed : IsMalformed maxSize held failure)
    (rest : Bytes) :
    FrameCodec.decode ⟨maxSize⟩ (held ++ rest) = .error failure := by
  rw [FrameCodec.decode_eq_error_iff,
    FrameCodec.peekSize_append (Nat.le_of_eq malformed.sized.symm)]
  exact malformed.refused

/-- The first bytes that make a partial frame malformed complete its head. -/
theorem IsPartial.isMalformed {incoming : Incoming} {maxSize needed : Nat}
    {taken : Bytes} {failure : IoError}
    (isPartial : incoming.IsPartial maxSize)
    (asked : incoming.needed = .ok needed) (bound : taken.length ≤ needed)
    (refused :
      FrameCodec.decode ⟨maxSize⟩ (incoming.buffer ++ taken) =
        .error failure) :
    IsMalformed maxSize (incoming.buffer ++ taken) failure := by
  have unannounced := FrameCodec.decode_eq_error_iff.mp refused
  refine ⟨?_, unannounced⟩
  have enough := (FrameCodec.peekSize_eq_error unannounced).1
  obtain ⟨size?, peeked, cut⟩ := except_bind_eq_ok_iff.mp isPartial.undecided
  rw [Incoming.needed, isPartial.codec, peeked] at asked
  rw [List.length_append] at enough ⊢
  cases size? with
  | none =>
      cases asked
      have short := FrameCodec.peekSize_eq_none peeked
      omega
  | some size =>
      -- A size that was in range stays the announced one.
      have announced := (FrameCodec.peekSize_eq_some peeked).1
      rw [FrameCodec.peekSize_append announced, peeked] at unannounced
      cases unannounced

/-- How a read of a partial frame can end. -/
structure Continues (maxSize : Nat) (transport : Transport)
    (outcome : Except IoError Nat) (left : Incoming) : Prop where
  waits :
    ∀ count, outcome = .ok count → left.payload = none →
      left.IsPartial maxSize
  takes :
    ∀ payload, left.payload = some payload →
      FrameCodec.Takes ⟨maxSize⟩ payload
  /-- A failure is the frame's own, unless the transport may fail. -/
  fails :
    ∀ failure, outcome = .error failure →
      IsMalformed maxSize left.consumed failure ∨ ¬ transport.IsPatient

namespace Continues

variable {maxSize : Nat} {transport later : Transport} {incoming : Incoming}
  {outcome : Except IoError Nat}

/-- A read that leaves a partial frame as it is. -/
theorem stay (isPartial : incoming.IsPartial maxSize)
    (fails : ∀ failure, outcome = .error failure → ¬ transport.IsPatient) :
    Continues maxSize transport outcome incoming where
  waits := fun _ _ _ => isPartial
  takes := by
    intro payload isPayload
    cases isPartial.payload.symm.trans isPayload
  fails := fun failure failed => Or.inr (fails failure failed)

/-- A read that goes on after another one. -/
theorem after (continues : Continues maxSize later outcome incoming)
    (keeps : transport.IsPatient → later.IsPatient) :
    Continues maxSize transport outcome incoming where
  waits := continues.waits
  takes := continues.takes
  fails := fun failure failed =>
    (continues.fails failure failed).imp_right fun impatient patient =>
      impatient (keeps patient)

end Continues

theorem continues_readAfter (incoming : Incoming) (count : Nat)
    (transport : Transport) {maxSize : Nat}
    (isPartial : incoming.IsPartial maxSize) :
    Continues maxSize transport (incoming.readAfter count transport).1
      (incoming.readAfter count transport).2.1 := by
  fun_induction Incoming.readAfter incoming count transport with
  | case1 incoming count transport complete =>
      exact .stay isPartial (by rintro _ ⟨⟩)
  | case2 incoming count transport incomplete failure refused =>
      obtain ⟨needed, asked, -⟩ := isPartial.exists_needed
      cases asked.symm.trans refused
  | case3 incoming count transport incomplete needed asked later outcome =>
      exact .stay isPartial fun _ _ patient =>
        (Transport.read_of_isPatient patient outcome).2.1 rfl
  | case4 incoming count transport incomplete needed asked taken later outcome
      nonempty grown failure refused =>
      obtain ⟨bound, -⟩ := Transport.yielded_of_read_ok outcome
      have noPayload : grown.payload = none := isPartial.payload
      rw [show grown.codec = ⟨maxSize⟩ from isPartial.codec] at refused
      refine ⟨by rintro _ ⟨⟩, ?_, ?_⟩
      · intro payload isPayload
        cases noPayload.symm.trans isPayload
      · rintro _ ⟨⟩
        simp only [consumed, noPayload]
        exact Or.inl (isPartial.isMalformed asked bound refused)
  | case5 incoming count transport incomplete needed asked taken later outcome
      nonempty grown undecided inductionHypothesis =>
      rw [show grown.codec = ⟨maxSize⟩ from isPartial.codec] at undecided
      have grownPartial : grown.IsPartial maxSize :=
        ⟨isPartial.codec, isPartial.payload, undecided⟩
      exact (inductionHypothesis grownPartial).after fun patient =>
        (Transport.read_of_isPatient patient outcome).1
  | case6 incoming count transport incomplete needed asked taken later outcome
      nonempty grown payload rest decoded =>
      rw [show grown.codec = ⟨maxSize⟩ from isPartial.codec] at decoded
      refine ⟨by rintro _ _ ⟨⟩, ?_, by rintro _ ⟨⟩⟩
      rintro _ ⟨⟩
      exact FrameCodec.takes_of_decode decoded
  | case7 incoming count transport incomplete needed asked failure later
      outcome again inductionHypothesis =>
      exact (inductionHypothesis isPartial).after fun patient =>
        (Transport.read_of_isPatient patient outcome).1
  | case8 incoming count transport incomplete needed asked failure later
      outcome again blocked =>
      exact .stay isPartial (by rintro _ ⟨⟩)
  | case9 incoming count transport incomplete needed asked failure later
      outcome again blocked =>
      refine .stay isPartial fun _ _ patient => ?_
      rcases (Transport.read_of_isPatient patient outcome).2.2 failure rfl with
        interrupted | blocks
      · exact again interrupted
      · exact blocked blocks

/-- Reading leaves a patient transport patient. -/
theorem isPatient_readAfter (incoming : Incoming) (count : Nat)
    (transport : Transport) (patient : transport.IsPatient) :
    (incoming.readAfter count transport).2.2.IsPatient := by
  fun_induction Incoming.readAfter incoming count transport with
  | case1 | case2 =>
      exact patient
  | case5 _ _ _ _ _ _ _ _ outcome _ _ _ inductionHypothesis
  | case7 _ _ _ _ _ _ _ _ outcome _ inductionHypothesis =>
      exact inductionHypothesis
        (Transport.read_of_isPatient patient outcome).1
  | case3 _ _ _ _ _ _ _ outcome
  | case4 _ _ _ _ _ _ _ _ outcome
  | case6 _ _ _ _ _ _ _ _ outcome
  | case8 _ _ _ _ _ _ _ _ outcome
  | case9 _ _ _ _ _ _ _ _ outcome =>
      exact (Transport.read_of_isPatient patient outcome).1

/-- Without a budget a frame stays partial only for want of bytes. -/
theorem drained_readAfter (incoming : Incoming) (count : Nat)
    (transport : Transport) {maxSize : Nat}
    (isPartial : incoming.IsPartial maxSize) (patient : transport.IsPatient)
    (unlimited : transport.readBudget = none) {total : Nat}
    (returned : (incoming.readAfter count transport).1 = .ok total)
    (waits : (incoming.readAfter count transport).2.1.payload = none) :
    Transport.Drained transport (incoming.readAfter count transport).2.2 := by
  fun_induction Incoming.readAfter incoming count transport with
  | case1 incoming count transport complete =>
      rw [Incoming.isComplete, isPartial.payload] at complete
      cases complete
  | case2 | case3 | case4 | case9 =>
      cases returned
  | case6 =>
      cases waits
  | case5 incoming count transport incomplete needed asked taken later outcome
      nonempty grown undecided inductionHypothesis =>
      rw [show grown.codec = ⟨maxSize⟩ from isPartial.codec] at undecided
      have grownPartial : grown.IsPartial maxSize :=
        ⟨isPartial.codec, isPartial.payload, undecided⟩
      have positive := isPartial.needed_pos asked
      obtain ⟨stillUnlimited, fewer, -⟩ :=
        Transport.read_of_unlimited patient unlimited positive outcome
      exact (inductionHypothesis grownPartial
        (Transport.read_of_isPatient patient outcome).1 stillUnlimited returned
        waits).imp_right fun less => Nat.lt_of_lt_of_le less fewer
  | case7 incoming count transport incomplete needed asked failure later
      outcome again inductionHypothesis =>
      have positive := isPartial.needed_pos asked
      obtain ⟨stillUnlimited, fewer, -⟩ :=
        Transport.read_of_unlimited patient unlimited positive outcome
      exact (inductionHypothesis isPartial
        (Transport.read_of_isPatient patient outcome).1 stillUnlimited returned
        waits).imp_right fun less => Nat.lt_of_lt_of_le less fewer
  | case8 incoming count transport incomplete needed asked failure later
      outcome again blocked =>
      have positive := isPartial.needed_pos asked
      obtain ⟨-, -, ⟨taken, yields⟩ | drained⟩ :=
        Transport.read_of_unlimited patient unlimited positive outcome
      · cases yields
      · exact drained

end Incoming

end BrokerSession
