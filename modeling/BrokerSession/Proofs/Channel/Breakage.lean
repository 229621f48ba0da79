import BrokerSession.Proofs.Channel.Incoming
import BrokerSession.Proofs.Channel.Usage

namespace BrokerSession

/-!
# Calls that break off

A call may fail after it has moved some bytes.  No outcome is forced any more
once bytes have moved, so that a write which has got through never fails, and a
read fails only at the end of the stream or for a size out of range.
-/

/-- A failure for what the stream says, and not for what was forced. -/
def IoError.IsOfStream (failure : IoError) : Prop :=
  failure.kind = .unexpectedEof ∨ failure.kind = .invalidData

namespace Transport

variable {transport later : Transport}

/-! ## Single calls -/

/-- A read that yields bytes has met no forced outcome, nor will the next. -/
theorem readOutcomes_of_read_ok {limit : Nat} {taken : Bytes}
    (outcome : transport.read limit = (.ok taken, later))
    (nonempty : taken ≠ []) : later.readOutcomes = [] := by
  obtain ⟨count, left⟩ := transport.exists_read limit
  rw [outcome] at left
  have used : later.readOutcomes = transport.readOutcomes.tail :=
    congrArg readOutcomes left
  rw [read] at outcome
  split at outcome
  · next forced queue outcomes =>
      have answer := (Prod.mk.inj outcome).1
      cases forced with
      | zero =>
          cases answer
          exact (nonempty rfl).elim
      | fail kind =>
          cases answer
  · next unforced =>
      rw [used, unforced]
      rfl

theorem readOutcomes_read_of_unforced (unforced : transport.readOutcomes = [])
    (limit : Nat) : (transport.read limit).2.readOutcomes = [] := by
  obtain ⟨count, left⟩ := transport.exists_read limit
  rw [left]
  exact congrArg List.tail unforced

/-- An unforced read can only be blocked. -/
theorem eq_wouldBlock_of_read {limit : Nat} {failure : IoError}
    (unforced : transport.readOutcomes = [])
    (outcome : transport.read limit = (.error failure, later)) :
    failure = .wouldBlock := by
  simp only [read, unforced, readInbound] at outcome
  split at outcome
  · split at outcome
    · cases (Prod.mk.inj outcome).1
    · exact (Except.error.inj (Prod.mk.inj outcome).1).symm
  · split at outcome
    · exact (Except.error.inj (Prod.mk.inj outcome).1).symm
    · cases (Prod.mk.inj outcome).1

/-- Whether every write goes through as far as the budget allows. -/
structure IsWritable (transport : Transport) : Prop where
  unforced : transport.writeOutcomes = []
  opened : transport.closed = false

/-- A write that gets through finds a writable transport and leaves one. -/
theorem isWritable_of_write_ok {bytes : Bytes} {count : Nat}
    (outcome : transport.write bytes = (.ok count, later))
    (moved : count ≠ 0) : later.IsWritable := by
  have closed := (accepted_of_write_ok outcome).2.closed
  rw [write] at outcome
  split at outcome
  · next forced queue outcomes =>
      have answer := (Prod.mk.inj outcome).1
      cases forced with
      | zero =>
          cases answer
          exact (moved rfl).elim
      | fail kind =>
          cases answer
  · next unforced =>
      rw [writeOutbound] at outcome
      split at outcome
      · cases (Prod.mk.inj outcome).1
      · next opened =>
          dsimp only at outcome
          split at outcome
          · cases (Prod.mk.inj outcome).1
          · obtain ⟨-, rfl⟩ := Prod.mk.inj outcome
            exact ⟨unforced, by simpa using opened⟩

/-- A writable transport can only block. -/
theorem IsWritable.write {bytes : Bytes} {outcome : Except IoError Nat}
    (writable : transport.IsWritable)
    (wrote : transport.write bytes = (outcome, later)) :
    later.IsWritable ∧ outcome ≠ .ok 0 ∧
      ∀ failure, outcome = .error failure → failure = .wouldBlock := by
  simp only [Transport.write, writable.unforced, writeOutbound,
    writable.opened, Bool.false_eq_true, if_false] at wrote
  split at wrote
  · obtain ⟨rfl, rfl⟩ := Prod.mk.inj wrote
    refine ⟨writable, ?_, ?_⟩
    · rintro ⟨⟩
    · rintro _ ⟨⟩
      rfl
  · next something =>
      obtain ⟨rfl, rfl⟩ := Prod.mk.inj wrote
      refine ⟨⟨rfl, rfl⟩, ?_, ?_⟩
      · intro nothing
        have none := List.length_eq_zero_iff.mp (Except.ok.inj nothing)
        exact something (List.isEmpty_iff.mpr none)
      · rintro _ ⟨⟩

end Transport

/-! ## Frames -/

/-- Over a writable transport a write never fails. -/
theorem Outgoing.exists_writeAfter_of_isWritable (outgoing : Outgoing)
    (written : Nat) (transport : Transport) (writable : transport.IsWritable) :
    ∃ count, (outgoing.writeAfter written transport).1 = .ok count := by
  fun_induction Outgoing.writeAfter outgoing written transport with
  | case1 outgoing written transport =>
      exact ⟨written, rfl⟩
  | case2 outgoing written transport unsent later outcome =>
      exact ((writable.write outcome).2.1 rfl).elim
  | case3 outgoing written transport unsent count later outcome moved
      inductionHypothesis
  | case4 outgoing written transport unsent failure later outcome again
      inductionHypothesis =>
      exact inductionHypothesis (writable.write outcome).1
  | case5 outgoing written transport unsent failure later outcome again =>
      exact ⟨written, rfl⟩
  | case6 outgoing written transport unsent failure later outcome again
      blocked =>
      have blocks := (writable.write outcome).2.2 failure rfl
      rw [blocks] at blocked
      exact (blocked rfl).elim

/-- A write that fails has not got through with a single byte. -/
theorem Outgoing.outbound_writeAfter_of_error (outgoing : Outgoing)
    (written : Nat) (transport : Transport) {failure : IoError}
    (failed : (outgoing.writeAfter written transport).1 = .error failure) :
    (outgoing.writeAfter written transport).2.2.outbound =
      transport.outbound := by
  fun_induction Outgoing.writeAfter outgoing written transport with
  | case1 | case5 =>
      cases failed
  | case2 outgoing written transport unsent later outcome =>
      have accepted := (Transport.accepted_of_write_ok outcome).2
      simpa using accepted.outbound
  | case3 outgoing written transport unsent count later outcome moved
      inductionHypothesis =>
      -- A part got through, so nothing was forced and the rest at most waits.
      have writable := Transport.isWritable_of_write_ok outcome moved
      obtain ⟨total, succeeded⟩ :=
        exists_writeAfter_of_isWritable
          { outgoing with remaining := outgoing.remaining.drop count }
          (written + count) later writable
      cases failed.symm.trans succeeded
  | case4 outgoing written transport unsent failure later outcome again
      inductionHypothesis =>
      have accepted := Transport.accepted_of_write_error outcome
      rw [inductionHypothesis failed]
      simpa using accepted.outbound
  | case6 outgoing written transport unsent failure later outcome =>
      have accepted := Transport.accepted_of_write_error outcome
      simpa using accepted.outbound

namespace Incoming

theorem isOfStream_of_needed {incoming : Incoming} {failure : IoError}
    (refused : incoming.needed = .error failure) : failure.IsOfStream := by
  rw [needed] at refused
  cases peeked : incoming.codec.peekSize incoming.buffer with
  | error other =>
      rw [peeked] at refused
      cases refused
      exact Or.inr (FrameCodec.peekSize_eq_error peeked).2
  | ok size? =>
      rw [peeked] at refused
      cases size? <;> cases refused

theorem isOfStream_of_decode {codec : FrameCodec} {buffer : Bytes}
    {failure : IoError} (refused : codec.decode buffer = .error failure) :
    failure.IsOfStream :=
  Or.inr
    (FrameCodec.peekSize_eq_error (FrameCodec.decode_eq_error_iff.mp refused)).2

/-- Unforced, a read fails for what the stream says. -/
theorem isOfStream_of_readAfter (incoming : Incoming) (count : Nat)
    (transport : Transport) (unforced : transport.readOutcomes = [])
    {failure : IoError}
    (failed : (incoming.readAfter count transport).1 = .error failure) :
    failure.IsOfStream := by
  fun_induction Incoming.readAfter incoming count transport with
  | case1 | case6 | case8 =>
      cases failed
  | case2 incoming count transport incomplete refusal refused =>
      cases failed
      exact isOfStream_of_needed refused
  | case3 =>
      cases failed
      exact Or.inl rfl
  | case4 incoming count transport incomplete needed asked taken later outcome
      nonempty grown refusal refused =>
      cases failed
      exact isOfStream_of_decode refused
  | case5 incoming count transport incomplete needed asked taken later outcome
      nonempty grown undecided inductionHypothesis =>
      exact inductionHypothesis
        (Transport.readOutcomes_of_read_ok outcome nonempty) failed
  | case7 incoming count transport incomplete needed asked other later
      outcome again inductionHypothesis =>
      have stillUnforced :=
        Transport.readOutcomes_read_of_unforced unforced needed
      rw [outcome] at stillUnforced
      exact inductionHypothesis stillUnforced failed
  | case9 incoming count transport incomplete needed asked other later
      outcome again blocked =>
      rw [Transport.eq_wouldBlock_of_read unforced outcome] at blocked
      exact (blocked rfl).elim

/-- A read that fails has taken nothing, or fails for what the stream says. -/
theorem inbound_readAfter_of_error (incoming : Incoming) (count : Nat)
    (transport : Transport) {failure : IoError}
    (failed : (incoming.readAfter count transport).1 = .error failure) :
    (incoming.readAfter count transport).2.2.inbound = transport.inbound ∨
      failure.IsOfStream := by
  fun_induction Incoming.readAfter incoming count transport with
  | case1 | case6 | case8 =>
      cases failed
  | case2 =>
      exact Or.inl rfl
  | case3 incoming count transport incomplete needed asked later outcome =>
      cases failed
      exact Or.inr (Or.inl rfl)
  | case4 incoming count transport incomplete needed asked taken later outcome
      nonempty grown refusal refused =>
      cases failed
      exact Or.inr (isOfStream_of_decode refused)
  | case5 incoming count transport incomplete needed asked taken later outcome
      nonempty grown undecided inductionHypothesis =>
      -- Something was taken, so no outcome is left that could be forced.
      have unforced := Transport.readOutcomes_of_read_ok outcome nonempty
      exact Or.inr (grown.isOfStream_of_readAfter _ later unforced failed)
  | case7 incoming count transport incomplete needed asked other later
      outcome again inductionHypothesis =>
      have yielded := Transport.yielded_of_read_error outcome
      refine (inductionHypothesis failed).imp_left fun same => ?_
      rw [same, yielded.inbound]
      rfl
  | case9 incoming count transport incomplete needed asked other later
      outcome =>
      have yielded := Transport.yielded_of_read_error outcome
      exact Or.inl yielded.inbound.symm

end Incoming

end BrokerSession
