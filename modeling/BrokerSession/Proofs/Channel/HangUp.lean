import BrokerSession.Proofs.Channel.Arrival

namespace BrokerSession

/-!
# Peers that have hung up

A peer has hung up if it has closed and nothing delays the calls on the
transport any more.  No write gets through then, and a read finds either the
next frame, or that its size is out of range, or that the stream has ended.
-/

namespace Transport

/-- Whether the peer has closed, with nothing left that could hide it. -/
structure HasHungUp (transport : Transport) : Prop
    extends IsUnhindered transport where
  closed : transport.closed = true
  unforcedWrites : transport.writeOutcomes = []

/-- The failure of a write to a closed peer. -/
def closedFailure : IoError := ⟨.brokenPipe, "transport closed"⟩

namespace HasHungUp

variable {transport : Transport}

theorem write_eq (hungUp : transport.HasHungUp) (bytes : Bytes) :
    transport.write bytes = (.error closedFailure, transport) := by
  rw [write, hungUp.unforcedWrites]
  exact if_pos hungUp.closed

/-- A read is served from what has arrived, and ends with it. -/
theorem read_eq (hungUp : transport.HasHungUp) {limit : Nat}
    (positive : 0 < limit) :
    transport.read limit =
      (.ok (transport.inbound.take limit),
        { transport with inbound := transport.inbound.drop limit }) := by
  rcases transport with ⟨inbound, outbound, readBudget, writeBudget, interest,
    closed, readOutcomes, writeOutcomes⟩
  obtain ⟨⟨unlimited, unforced⟩, isClosed, -⟩ := hungUp
  dsimp only at unlimited unforced isClosed
  subst unlimited unforced isClosed
  simp only [read, readInbound, admitted, List.isEmpty_iff]
  by_cases nothing : inbound = []
  · rw [if_pos nothing, nothing, List.take_nil, List.drop_nil]
    rfl
  · have nonempty : inbound.take limit ≠ [] := by
      rw [Ne, List.take_eq_nil_iff]
      exact fun either => either.elim (Nat.ne_of_gt positive) nothing
    rw [if_neg nothing, if_neg nonempty, List.length_take,
      ← List.drop_eq_drop_min]
    rfl

/-- The peer stays away, however much of what it sent is read. -/
theorem drop (hungUp : transport.HasHungUp) (limit : Nat) :
    HasHungUp
      { transport with inbound := transport.inbound.drop limit } :=
  { hungUp with }

end HasHungUp

end Transport

/-- What is unsent stays unsent once the peer has hung up. -/
theorem Outgoing.writeTo_of_hasHungUp {outgoing : Outgoing}
    {transport : Transport} (hungUp : transport.HasHungUp)
    (unsent : outgoing.remaining ≠ []) :
    outgoing.writeTo transport =
      (.error Transport.closedFailure, outgoing, transport) := by
  rw [writeTo, writeAfter, dif_neg unsent]
  split
  · next count later outcome =>
      cases (hungUp.write_eq _).symm.trans outcome
  · next failure later outcome =>
      cases (hungUp.write_eq _).symm.trans outcome
      rfl

/-- How a read ends, given the next frame in what the peer has left. -/
inductive Transport.Serves (transport : Transport) :
    Except IoError (Option (Bytes × Bytes)) →
      Except IoError Nat × Incoming × Transport → Prop where
  | whole {payload rest : Bytes} {count : Nat} {left : Incoming}
      (isPayload : left.payload = some payload) :
      Serves transport (.ok (some (payload, rest)))
        (.ok count, left, { transport with inbound := rest })
  | ended {left : Incoming} {later : Transport} :
      Serves transport (.ok none) (.error left.endOfStream, left, later)
  | refused {failure : IoError} {left : Incoming} {later : Transport} :
      Serves transport (.error failure) (.error failure, left, later)

/-- What was taken before does not matter to how a read ends. -/
theorem Transport.Serves.of_drop {transport : Transport} {waiting : Bytes}
    {found : Except IoError (Option (Bytes × Bytes))}
    {result : Except IoError Nat × Incoming × Transport}
    (serves : Serves { transport with inbound := waiting } found result) :
    transport.Serves found result := by
  cases serves with
  | whole isPayload =>
      exact .whole isPayload
  | ended =>
      exact .ended
  | refused =>
      exact .refused

/-- The next frame is read, or it never will be. -/
theorem Incoming.IsPartial.serves_readAfter {incoming : Incoming}
    {maxSize : Nat} (isPartial : incoming.IsPartial maxSize) (count : Nat)
    (transport : Transport) (hungUp : transport.HasHungUp) :
    transport.Serves
      (FrameCodec.decode ⟨maxSize⟩ (incoming.buffer ++ transport.inbound))
      (incoming.readAfter count transport) := by
  -- A read only moves bytes between the two parts that hold the frame.
  have together (incoming : Incoming) (transport : Transport) (needed : Nat) :
      incoming.buffer ++ transport.inbound.take needed ++
          transport.inbound.drop needed =
        incoming.buffer ++ transport.inbound := by
    rw [List.append_assoc, List.take_append_drop]
  fun_induction Incoming.readAfter incoming count transport with
  | case1 incoming count transport complete =>
      rw [isComplete, isPartial.payload] at complete
      cases complete
  | case2 incoming count transport incomplete failure refused =>
      obtain ⟨needed, asked, -⟩ := isPartial.exists_needed
      cases asked.symm.trans refused
  | case3 incoming count transport incomplete needed asked later outcome =>
      have positive := isPartial.needed_pos asked
      rw [hungUp.read_eq positive] at outcome
      have emptied := Except.ok.inj (Prod.mk.inj outcome).1
      have nothing : transport.inbound = [] :=
        (List.take_eq_nil_iff.mp emptied).resolve_left (Nat.ne_of_gt positive)
      rw [nothing, List.append_nil, isPartial.undecided]
      exact .ended
  | case4 incoming count transport incomplete needed asked taken later outcome
      nonempty grown failure refused =>
      obtain ⟨bound, -⟩ := Transport.yielded_of_read_ok outcome
      rw [hungUp.read_eq (isPartial.needed_pos asked)] at outcome
      obtain ⟨⟨⟩, -⟩ := Prod.mk.inj outcome
      rw [show grown.codec = ⟨maxSize⟩ from isPartial.codec] at refused
      have malformed := isPartial.isMalformed asked bound refused
      rw [← together, malformed.decode_eq_error]
      exact .refused
  | case5 incoming count transport incomplete needed asked taken later outcome
      nonempty grown undecided inductionHypothesis =>
      rw [hungUp.read_eq (isPartial.needed_pos asked)] at outcome
      obtain ⟨⟨⟩, rfl⟩ := Prod.mk.inj outcome
      rw [show grown.codec = ⟨maxSize⟩ from isPartial.codec] at undecided
      rw [← together incoming transport needed]
      exact (inductionHypothesis
        ⟨isPartial.codec, isPartial.payload, undecided⟩
        (hungUp.drop needed)).of_drop
  | case6 incoming count transport incomplete needed asked taken later outcome
      nonempty grown payload rest decoded =>
      obtain ⟨bound, -⟩ := Transport.yielded_of_read_ok outcome
      have emptied := rest_eq_nil_of_decode asked bound nonempty decoded
      rw [hungUp.read_eq (isPartial.needed_pos asked)] at outcome
      obtain ⟨⟨⟩, rfl⟩ := Prod.mk.inj outcome
      rw [show grown.codec = ⟨maxSize⟩ from isPartial.codec] at decoded
      have takes := FrameCodec.takes_of_decode decoded
      have isFrame := (FrameCodec.decode_eq_some decoded).2
      rw [emptied, List.append_nil] at isFrame
      rw [← together incoming transport needed,
        show incoming.buffer ++ transport.inbound.take needed =
          FrameCodec.frame payload from isFrame, takes.decode_eq]
      exact .whole rfl
  | case7 incoming count transport incomplete needed asked failure later
      outcome
  | case8 incoming count transport incomplete needed asked failure later
      outcome
  | case9 incoming count transport incomplete needed asked failure later
      outcome =>
      cases (hungUp.read_eq (isPartial.needed_pos asked)).symm.trans outcome

end BrokerSession
