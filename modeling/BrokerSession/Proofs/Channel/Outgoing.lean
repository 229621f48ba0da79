import BrokerSession.Channel.Outgoing
import BrokerSession.Proofs.Computation

namespace BrokerSession

/-!
# What a write leaves behind

Writing moves bytes from the front of the outgoing frame to the end of what
the transport accepted.  This holds for failing writes too, because a call may
move some bytes before it meets its failure.
-/

namespace Transport

/-- A transport after it accepted some bytes: the reading side is untouched. -/
structure Accepted (before after : Transport) (part : Bytes) : Prop where
  outbound : after.outbound = before.outbound ++ part
  inbound : after.inbound = before.inbound
  readBudget : after.readBudget = before.readBudget
  readOutcomes : after.readOutcomes = before.readOutcomes
  closed : after.closed = before.closed
  writeInterest : after.writeInterest = before.writeInterest

namespace Accepted

theorem nothing (transport : Transport) : Accepted transport transport [] :=
  ⟨(List.append_nil _).symm, rfl, rfl, rfl, rfl, rfl⟩

/-- Two writes accept their parts one after the other. -/
theorem append {before between after : Transport} {first second : Bytes}
    (earlier : Accepted before between first)
    (later : Accepted between after second) :
    Accepted before after (first ++ second) where
  outbound := by
    rw [later.outbound, earlier.outbound, List.append_assoc]
  inbound := later.inbound.trans earlier.inbound
  readBudget := later.readBudget.trans earlier.readBudget
  readOutcomes := later.readOutcomes.trans earlier.readOutcomes
  closed := later.closed.trans earlier.closed
  writeInterest := later.writeInterest.trans earlier.writeInterest

end Accepted

/-- A budget admits a beginning of the bytes. -/
theorem admitted_prefix (budget : Option Nat) (bytes : Bytes) :
    admitted budget bytes <+: bytes := by
  cases budget with
  | none =>
      exact List.prefix_rfl
  | some limit =>
      exact List.take_prefix limit bytes

/-- A call that succeeds accepts as many bytes as it answers. -/
theorem accepted_of_write_ok {transport later : Transport} {bytes : Bytes}
    {count : Nat} (outcome : transport.write bytes = (.ok count, later)) :
    count ≤ bytes.length ∧ Accepted transport later (bytes.take count) := by
  unfold write at outcome
  split at outcome
  · next forced queue outcomes =>
      obtain ⟨answer, rfl⟩ := Prod.mk.inj outcome
      cases forced with
      | zero =>
          cases answer
          exact ⟨Nat.zero_le _, (List.append_nil _).symm, rfl, rfl, rfl, rfl,
            rfl⟩
      | fail kind =>
          cases answer
  · unfold writeOutbound at outcome
    split at outcome
    · cases (Prod.mk.inj outcome).1
    · dsimp only at outcome
      split at outcome
      · cases (Prod.mk.inj outcome).1
      · obtain ⟨answer, rfl⟩ := Prod.mk.inj outcome
        cases answer
        have beginning := admitted_prefix transport.writeBudget bytes
        rw [← List.prefix_iff_eq_take.mp beginning]
        exact ⟨beginning.length_le, rfl, rfl, rfl, rfl, rfl, rfl⟩

/-- A call that fails accepts nothing. -/
theorem accepted_of_write_error {transport later : Transport} {bytes : Bytes}
    {failure : IoError}
    (outcome : transport.write bytes = (.error failure, later)) :
    Accepted transport later [] := by
  unfold write at outcome
  split at outcome
  · obtain ⟨-, rfl⟩ := Prod.mk.inj outcome
    exact ⟨(List.append_nil _).symm, rfl, rfl, rfl, rfl, rfl⟩
  · unfold writeOutbound at outcome
    split at outcome
    · obtain ⟨-, rfl⟩ := Prod.mk.inj outcome
      exact .nothing transport
    · dsimp only at outcome
      split at outcome
      · obtain ⟨-, rfl⟩ := Prod.mk.inj outcome
        exact .nothing transport
      · cases (Prod.mk.inj outcome).1

end Transport

namespace Outgoing

/-- The frame of a payload is what a codec without limits makes of it. -/
theorem encode_of_ofPayload {destination : String} {payload : Bytes}
    {outgoing : Outgoing}
    (made : Outgoing.ofPayload destination payload = .ok outgoing) :
    FrameCodec.unlimited.encode payload = .ok outgoing.remaining := by
  obtain ⟨framed, encoded, returned⟩ := except_bind_eq_ok_iff.mp made
  cases returned
  exact encoded

/-- A frame after a part of it was accepted by the transport. -/
structure Sent (outgoing left : Outgoing) (before after : Transport)
    (part : Bytes) : Prop where
  remaining : outgoing.remaining = part ++ left.remaining
  accepted : before.Accepted after part

/-- Counting on, a write answers with the length of the accepted part. -/
theorem sent_writeAfter (outgoing : Outgoing) (written : Nat)
    (transport : Transport) :
    ∃ part,
      outgoing.Sent (outgoing.writeAfter written transport).2.1 transport
          (outgoing.writeAfter written transport).2.2 part ∧
        ∀ count, (outgoing.writeAfter written transport).1 = .ok count →
          count = written + part.length := by
  fun_induction Outgoing.writeAfter outgoing written transport with
  | case1 outgoing written transport =>
      refine ⟨[], ⟨rfl, .nothing transport⟩, ?_⟩
      intro count answered
      cases answered
      rfl
  | case2 outgoing written transport unsent later outcome =>
      refine ⟨[], ⟨rfl, (Transport.accepted_of_write_ok outcome).2⟩, ?_⟩
      intro count answered
      cases answered
  | case3 outgoing written transport unsent count later outcome moved
      inductionHypothesis =>
      obtain ⟨part, sent, counted⟩ := inductionHypothesis
      obtain ⟨bound, accepted⟩ := Transport.accepted_of_write_ok outcome
      refine ⟨outgoing.remaining.take count ++ part,
        ⟨?_, accepted.append sent.accepted⟩, ?_⟩
      · rw [List.append_assoc, ← sent.remaining, List.take_append_drop]
      · intro total answered
        rw [counted total answered, List.length_append, List.length_take,
          Nat.min_eq_left bound, Nat.add_assoc]
  | case4 outgoing written transport unsent failure later outcome again
      inductionHypothesis =>
      obtain ⟨part, sent, counted⟩ := inductionHypothesis
      have accepted := Transport.accepted_of_write_error outcome
      exact ⟨part, ⟨sent.remaining, accepted.append sent.accepted⟩, counted⟩
  | case5 outgoing written transport unsent failure later outcome again
      blocked =>
      refine ⟨[], ⟨rfl, Transport.accepted_of_write_error outcome⟩, ?_⟩
      intro count answered
      cases answered
      rfl
  | case6 outgoing written transport unsent failure later outcome again
      blocked =>
      refine ⟨[], ⟨rfl, Transport.accepted_of_write_error outcome⟩, ?_⟩
      intro count answered
      cases answered

/-- A write moves a beginning of the frame, and a success answers its length. -/
theorem sent_writeTo (outgoing : Outgoing) (transport : Transport) :
    ∃ part,
      outgoing.Sent (outgoing.writeTo transport).2.1 transport
          (outgoing.writeTo transport).2.2 part ∧
        ∀ count, (outgoing.writeTo transport).1 = .ok count →
          count = part.length := by
  have counted := sent_writeAfter outgoing 0 transport
  simp only [Nat.zero_add] at counted
  exact counted

end Outgoing

end BrokerSession
