import BrokerSession.Proofs.Channel.Patience

namespace BrokerSession

/-!
# Transports that move nothing

A transport cannot be read if nothing that arrived may be read now and the peer
has not closed.  It is idle if, moreover, nothing can be written.  A call on
such a transport at most uses up forced outcomes, so that the transport stays as
it was for every later call.
-/

namespace Transport

/-- Whether no read yields a byte or finds that the peer has closed. -/
structure CannotRead (transport : Transport) : Prop where
  opened : transport.closed = false
  nothing : transport.inbound = [] ∨ transport.readBudget = some 0
  reads : ∀ outcome ∈ transport.readOutcomes, outcome.delays = true

/-- Whether no call moves a byte in either direction. -/
structure IsIdle (transport : Transport) : Prop extends CannotRead transport where
  noRoom : transport.writeBudget = some 0
  writes : ∀ outcome ∈ transport.writeOutcomes, outcome.delays = true

/-- A transport after calls that moved nothing. -/
structure Kept (before after : Transport) : Prop where
  inbound : after.inbound = before.inbound
  outbound : after.outbound = before.outbound
  readBudget : after.readBudget = before.readBudget
  writeBudget : after.writeBudget = before.writeBudget
  closed : after.closed = before.closed
  reads : after.readOutcomes <:+ before.readOutcomes
  writes : after.writeOutcomes <:+ before.writeOutcomes

namespace Kept

variable {before between after : Transport}

theorem refl (transport : Transport) : Kept transport transport :=
  ⟨rfl, rfl, rfl, rfl, rfl, List.suffix_rfl, List.suffix_rfl⟩

theorem trans (earlier : Kept before between) (later : Kept between after) :
    Kept before after where
  inbound := later.inbound.trans earlier.inbound
  outbound := later.outbound.trans earlier.outbound
  readBudget := later.readBudget.trans earlier.readBudget
  writeBudget := later.writeBudget.trans earlier.writeBudget
  closed := later.closed.trans earlier.closed
  reads := later.reads.trans earlier.reads
  writes := later.writes.trans earlier.writes

/-- Whether writing is asked for does not matter. -/
theorem setWriteInterest (kept : Kept before after) (interest : Bool) :
    Kept before (after.setWriteInterest interest) :=
  { kept with }

theorem cannotRead (kept : Kept before after) (cannot : before.CannotRead) :
    after.CannotRead where
  opened := kept.closed.trans cannot.opened
  nothing := by
    rw [kept.inbound, kept.readBudget]
    exact cannot.nothing
  reads := fun outcome member =>
    cannot.reads outcome (kept.reads.subset member)

theorem isIdle (kept : Kept before after) (idle : before.IsIdle) :
    after.IsIdle where
  toCannotRead := kept.cannotRead idle.toCannotRead
  noRoom := kept.writeBudget.trans idle.noRoom
  writes := fun outcome member =>
    idle.writes outcome (kept.writes.subset member)

end Kept

variable {transport later : Transport}

/-- A read of a transport that cannot be read is delayed. -/
theorem CannotRead.read (cannot : transport.CannotRead) {limit : Nat}
    {outcome : Except IoError Bytes}
    (readNow : transport.read limit = (outcome, later)) :
    transport.Kept later ∧
      ∃ failure, outcome = .error failure ∧ failure.Delays := by
  unfold Transport.read at readNow
  split at readNow
  · next forced queue outcomes =>
      obtain ⟨rfl, rfl⟩ := Prod.mk.inj readNow
      have reads := cannot.reads
      rw [outcomes] at reads
      obtain ⟨failure, isFailure, delays⟩ :=
        Outcome.failure_of_delays (reads forced List.mem_cons_self)
      rw [isFailure]
      refine ⟨{ Kept.refl transport with reads := ?_ }, failure, rfl, delays⟩
      rw [outcomes]
      exact List.suffix_cons forced queue
  · have blocked : transport.readInbound limit = (.error .wouldBlock, transport) := by
      simp only [readInbound, cannot.opened, Bool.false_eq_true, if_false]
      rcases cannot.nothing with nothing | noBudget
      · simp [nothing]
      · simp [noBudget, admitted]
    obtain ⟨rfl, rfl⟩ := Prod.mk.inj (blocked.symm.trans readNow)
    exact ⟨.refl transport, .wouldBlock, rfl, Or.inr rfl⟩

/-- A write to an idle transport is delayed. -/
theorem IsIdle.write (idle : transport.IsIdle) {bytes : Bytes}
    {outcome : Except IoError Nat}
    (wrote : transport.write bytes = (outcome, later)) :
    transport.Kept later ∧
      ∃ failure, outcome = .error failure ∧ failure.Delays := by
  unfold Transport.write at wrote
  split at wrote
  · next forced queue outcomes =>
      obtain ⟨rfl, rfl⟩ := Prod.mk.inj wrote
      have writes := idle.writes
      rw [outcomes] at writes
      obtain ⟨failure, isFailure, delays⟩ :=
        Outcome.failure_of_delays (writes forced List.mem_cons_self)
      rw [isFailure]
      refine ⟨{ Kept.refl transport with writes := ?_ }, failure, rfl, delays⟩
      rw [outcomes]
      exact List.suffix_cons forced queue
  · have blocked :
        transport.writeOutbound bytes = (.error .wouldBlock, transport) := by
      simp [writeOutbound, idle.opened, idle.noRoom, admitted]
    obtain ⟨rfl, rfl⟩ := Prod.mk.inj (blocked.symm.trans wrote)
    exact ⟨.refl transport, .wouldBlock, rfl, Or.inr rfl⟩

end Transport

/-! ## Whole frames -/

/-- Nothing is read of a partial frame from a transport that cannot be read. -/
theorem Incoming.readAfter_of_cannotRead {incoming : Incoming} {maxSize : Nat}
    (isPartial : incoming.IsPartial maxSize) {transport : Transport}
    (cannot : transport.CannotRead) (count : Nat) :
    ∃ later,
      incoming.readAfter count transport = (.ok count, incoming, later) ∧
        transport.Kept later := by
  obtain ⟨wanted, isWanted, -⟩ := isPartial.exists_needed
  fun_induction Incoming.readAfter incoming count transport with
  | case1 incoming count transport complete =>
      exact ⟨transport, rfl, .refl transport⟩
  | case2 incoming count transport incomplete failure refused =>
      cases refused.symm.trans isWanted
  | case3 incoming count transport incomplete needed asked later outcome
  | case4 incoming count transport incomplete needed asked taken later outcome
  | case5 incoming count transport incomplete needed asked taken later outcome
  | case6 incoming count transport incomplete needed asked taken later
      outcome =>
      obtain ⟨-, failure, ⟨⟩, -⟩ := cannot.read outcome
  | case7 incoming count transport incomplete needed asked failure later
      outcome again inductionHypothesis =>
      have kept := (cannot.read outcome).1
      obtain ⟨last, isLast, keptAgain⟩ :=
        inductionHypothesis isPartial (kept.cannotRead cannot) isWanted
      exact ⟨last, isLast, kept.trans keptAgain⟩
  | case8 incoming count transport incomplete needed asked failure later
      outcome again blocked =>
      exact ⟨later, rfl, (cannot.read outcome).1⟩
  | case9 incoming count transport incomplete needed asked failure later
      outcome again blocked =>
      obtain ⟨-, _, ⟨⟩, interrupted | blocks⟩ := cannot.read outcome
      · exact (again interrupted).elim
      · exact (blocked blocks).elim

/-- Nothing is written of a frame to an idle transport. -/
theorem Outgoing.writeAfter_of_isIdle (outgoing : Outgoing)
    {transport : Transport} (idle : transport.IsIdle) (count : Nat) :
    ∃ later,
      outgoing.writeAfter count transport = (.ok count, outgoing, later) ∧
        transport.Kept later := by
  fun_induction Outgoing.writeAfter outgoing count transport with
  | case1 outgoing written transport flushed =>
      exact ⟨transport, rfl, .refl transport⟩
  | case2 outgoing written transport unsent later outcome
  | case3 outgoing written transport unsent count later outcome =>
      obtain ⟨-, failure, ⟨⟩, -⟩ := idle.write outcome
  | case4 outgoing written transport unsent failure later outcome again
      inductionHypothesis =>
      have kept := (idle.write outcome).1
      obtain ⟨last, isLast, keptAgain⟩ :=
        inductionHypothesis (kept.isIdle idle)
      exact ⟨last, isLast, kept.trans keptAgain⟩
  | case5 outgoing written transport unsent failure later outcome again
      blocked =>
      exact ⟨later, rfl, (idle.write outcome).1⟩
  | case6 outgoing written transport unsent failure later outcome again
      blocked =>
      obtain ⟨-, _, ⟨⟩, interrupted | blocks⟩ := idle.write outcome
      · exact (again interrupted).elim
      · exact (blocked blocks).elim

end BrokerSession
