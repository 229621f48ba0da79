import BrokerSession.Channel.Incoming
import BrokerSession.Proofs.Channel.Frame
import BrokerSession.Proofs.Channel.Outgoing

namespace BrokerSession

/-!
# What a read leaves behind

Reading moves bytes from the front of what arrived to the incoming frame.  No
byte behind the frame is ever moved, because a read never asks for more than
the frame still needs.
-/

namespace Transport

/-- A transport after it gave up some bytes: the writing side is untouched. -/
structure Yielded (before after : Transport) (part : Bytes) : Prop where
  inbound : before.inbound = part ++ after.inbound
  outbound : after.outbound = before.outbound
  writeBudget : after.writeBudget = before.writeBudget
  writeOutcomes : after.writeOutcomes = before.writeOutcomes
  closed : after.closed = before.closed
  writeInterest : after.writeInterest = before.writeInterest

namespace Yielded

theorem nothing (transport : Transport) : Yielded transport transport [] :=
  ⟨rfl, rfl, rfl, rfl, rfl, rfl⟩

/-- Two reads give up their parts one after the other. -/
theorem append {before between after : Transport} {first second : Bytes}
    (earlier : Yielded before between first)
    (later : Yielded between after second) :
    Yielded before after (first ++ second) where
  inbound := by
    rw [earlier.inbound, later.inbound, List.append_assoc]
  outbound := later.outbound.trans earlier.outbound
  writeBudget := later.writeBudget.trans earlier.writeBudget
  writeOutcomes := later.writeOutcomes.trans earlier.writeOutcomes
  closed := later.closed.trans earlier.closed
  writeInterest := later.writeInterest.trans earlier.writeInterest

end Yielded

private theorem eq_append_drop_of_prefix {part bytes : Bytes}
    (beginning : part <+: bytes) : bytes = part ++ bytes.drop part.length := by
  obtain ⟨others, rfl⟩ := beginning
  rw [List.drop_left]

/-- A call that succeeds gives up the bytes it answers, within its limit. -/
theorem yielded_of_read_ok {transport later : Transport} {limit : Nat}
    {taken : Bytes} (outcome : transport.read limit = (.ok taken, later)) :
    taken.length ≤ limit ∧ Yielded transport later taken := by
  unfold read at outcome
  split at outcome
  · next forced queue outcomes =>
      obtain ⟨answer, rfl⟩ := Prod.mk.inj outcome
      cases forced with
      | zero =>
          cases answer
          exact ⟨Nat.zero_le _, rfl, rfl, rfl, rfl, rfl, rfl⟩
      | fail kind =>
          cases answer
  · unfold readInbound at outcome
    split at outcome
    · obtain ⟨answer, rfl⟩ := Prod.mk.inj outcome
      split at answer
      · cases answer
        exact ⟨Nat.zero_le _, .nothing transport⟩
      · cases answer
    · dsimp only at outcome
      split at outcome
      · cases (Prod.mk.inj outcome).1
      · obtain ⟨answer, rfl⟩ := Prod.mk.inj outcome
        cases answer
        have withinLimit :=
          admitted_prefix transport.readBudget (transport.inbound.take limit)
        have beginning :=
          withinLimit.trans (List.take_prefix limit transport.inbound)
        refine ⟨?_, ?_, rfl, rfl, rfl, rfl, rfl⟩
        · exact Nat.le_trans withinLimit.length_le (List.length_take_le _ _)
        · exact eq_append_drop_of_prefix beginning

/-- A call that fails gives up nothing. -/
theorem yielded_of_read_error {transport later : Transport} {limit : Nat}
    {failure : IoError}
    (outcome : transport.read limit = (.error failure, later)) :
    Yielded transport later [] := by
  unfold read at outcome
  split at outcome
  · obtain ⟨-, rfl⟩ := Prod.mk.inj outcome
    exact ⟨rfl, rfl, rfl, rfl, rfl, rfl⟩
  · unfold readInbound at outcome
    split at outcome
    · obtain ⟨-, rfl⟩ := Prod.mk.inj outcome
      exact .nothing transport
    · dsimp only at outcome
      split at outcome
      · obtain ⟨-, rfl⟩ := Prod.mk.inj outcome
        exact .nothing transport
      · cases (Prod.mk.inj outcome).1

end Transport

namespace Incoming

/-- The bytes that a frame took from its transport so far. -/
def consumed (incoming : Incoming) : Bytes :=
  match incoming.payload with
  | none => incoming.buffer
  | some payload => FrameCodec.frame payload

/-- A frame after some bytes were moved to it from the transport. -/
structure Received (incoming left : Incoming) (before after : Transport)
    (part : Bytes) : Prop where
  consumed : left.consumed = incoming.consumed ++ part
  yielded : before.Yielded after part

theorem consumed_eq_buffer {incoming : Incoming}
    (incomplete : ¬ incoming.isComplete) :
    incoming.consumed = incoming.buffer := by
  have noPayload : incoming.payload = none := by
    simpa [isComplete] using incomplete
  simp only [consumed, noPayload]

/--
Nothing is left behind the frame that the bytes asked for complete.

The bytes still needed are those of the head while the size is unknown, and
those up to the announced end of the frame afterwards.
-/
theorem rest_eq_nil_of_decode {incoming : Incoming} {needed : Nat}
    {taken payload rest : Bytes} (asked : incoming.needed = .ok needed)
    (bound : taken.length ≤ needed) (nonempty : taken ≠ [])
    (decoded :
      incoming.codec.decode (incoming.buffer ++ taken) =
        .ok (some (payload, rest))) :
    rest = [] := by
  obtain ⟨announced, cut⟩ := FrameCodec.decode_eq_some decoded
  have lengths := congrArg List.length cut
  rw [List.length_append, List.length_append, FrameCodec.length_frame]
    at lengths
  have takenPositive : 0 < taken.length := List.length_pos_iff.mpr nonempty
  obtain ⟨size?, peeked, difference⟩ := except_bind_eq_ok_iff.mp asked
  rw [← List.length_eq_zero_iff]
  cases size? with
  | none =>
      cases difference
      have short := FrameCodec.peekSize_eq_none peeked
      omega
  | some size =>
      cases difference
      have enough := (FrameCodec.peekSize_eq_some peeked).1
      rw [FrameCodec.peekSize_append enough, peeked] at announced
      cases announced
      omega

/-- Counting on, a read answers with the length of the moved part. -/
theorem received_readAfter (incoming : Incoming) (count : Nat)
    (transport : Transport) :
    ∃ part,
      incoming.Received (incoming.readAfter count transport).2.1 transport
          (incoming.readAfter count transport).2.2 part ∧
        ∀ total, (incoming.readAfter count transport).1 = .ok total →
          total = count + part.length := by
  fun_induction Incoming.readAfter incoming count transport with
  | case1 incoming count transport complete =>
      refine ⟨[], ⟨(List.append_nil _).symm, .nothing transport⟩, ?_⟩
      intro total answered
      cases answered
      rfl
  | case2 incoming count transport incomplete failure refused =>
      refine ⟨[], ⟨(List.append_nil _).symm, .nothing transport⟩, ?_⟩
      intro total answered
      cases answered
  | case3 incoming count transport incomplete needed asked later outcome =>
      have yielded := (Transport.yielded_of_read_ok outcome).2
      refine ⟨[], ⟨(List.append_nil _).symm, yielded⟩, ?_⟩
      intro total answered
      cases answered
  | case4 incoming count transport incomplete needed asked taken later outcome
      nonempty grown failure refused =>
      have yielded := (Transport.yielded_of_read_ok outcome).2
      have incompleteGrown : ¬ grown.isComplete := incomplete
      refine ⟨taken, ⟨?_, yielded⟩, ?_⟩
      · rw [consumed_eq_buffer incomplete]
        exact consumed_eq_buffer incompleteGrown
      intro total answered
      cases answered
  | case5 incoming count transport incomplete needed asked taken later outcome
      nonempty grown undecided inductionHypothesis =>
      obtain ⟨part, received, counted⟩ := inductionHypothesis
      have yielded := (Transport.yielded_of_read_ok outcome).2
      refine ⟨taken ++ part, ⟨?_, yielded.append received.yielded⟩, ?_⟩
      · have incompleteGrown : ¬ grown.isComplete := incomplete
        rw [received.consumed, consumed_eq_buffer incompleteGrown,
          consumed_eq_buffer incomplete]
        exact List.append_assoc ..
      · intro total answered
        rw [counted total answered, List.length_append, Nat.add_assoc]
  | case6 incoming count transport incomplete needed asked taken later outcome
      nonempty grown payload rest decoded =>
      obtain ⟨bound, yielded⟩ := Transport.yielded_of_read_ok outcome
      obtain rfl := rest_eq_nil_of_decode asked bound nonempty decoded
      obtain ⟨-, cut⟩ := FrameCodec.decode_eq_some decoded
      refine ⟨taken, ⟨?_, yielded⟩, ?_⟩
      · rw [List.append_nil] at cut
        rw [consumed_eq_buffer incomplete]
        exact cut.symm
      · intro total answered
        cases answered
        rfl
  | case7 incoming count transport incomplete needed asked failure later
      outcome again inductionHypothesis =>
      obtain ⟨part, received, counted⟩ := inductionHypothesis
      have yielded := Transport.yielded_of_read_error outcome
      exact ⟨part, ⟨received.consumed, yielded.append received.yielded⟩,
        counted⟩
  | case8 incoming count transport incomplete needed asked failure later
      outcome again blocked =>
      have yielded := Transport.yielded_of_read_error outcome
      refine ⟨[], ⟨(List.append_nil _).symm, yielded⟩, ?_⟩
      intro total answered
      cases answered
      rfl
  | case9 incoming count transport incomplete needed asked failure later
      outcome again blocked =>
      have yielded := Transport.yielded_of_read_error outcome
      refine ⟨[], ⟨(List.append_nil _).symm, yielded⟩, ?_⟩
      intro total answered
      cases answered

/-- A read moves bytes to the frame, and a success answers their number. -/
theorem received_readFrom (incoming : Incoming) (transport : Transport) :
    ∃ part,
      incoming.Received (incoming.readFrom transport).2.1 transport
          (incoming.readFrom transport).2.2 part ∧
        ∀ total, (incoming.readFrom transport).1 = .ok total →
          total = part.length := by
  have counted := received_readAfter incoming 0 transport
  simp only [Nat.zero_add] at counted
  exact counted

end Incoming

end BrokerSession
