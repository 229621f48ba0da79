import BrokerSession.Channel.Incoming
import BrokerSession.Channel.Outgoing

namespace BrokerSession

/-!
# Uses of a transport

The owner of a transport reads, writes and asks to be told when writing becomes
possible.  However these calls follow each other, bytes only ever go to the end
of what was accepted and come from the front of what arrived, and no outcome is
ever forced on a later call.
-/

namespace Transport

/-- What a read leaves, whether it succeeds or not. -/
theorem exists_read (transport : Transport) (limit : Nat) :
    ∃ count,
      (transport.read limit).2 =
        { transport with
          inbound := transport.inbound.drop count
          readBudget := transport.readBudget.map (· - count)
          readOutcomes := transport.readOutcomes.tail } := by
  have nothing :
      transport.readOutcomes = [] →
        transport =
          { transport with
            inbound := transport.inbound.drop 0
            readBudget := transport.readBudget.map (· - 0)
            readOutcomes := transport.readOutcomes.tail } := by
    intro unforced
    simp only [unforced, List.tail_nil, List.drop_zero, Nat.sub_zero,
      Option.map_id']
    rw [← unforced]
  rw [read]
  split
  · next outcome later forced =>
      exact ⟨0, by simp [forced]⟩
  · next unforced =>
      rw [readInbound]
      split
      · exact ⟨0, nothing unforced⟩
      · dsimp only
        split
        · exact ⟨0, nothing unforced⟩
        · exact ⟨_, by rw [unforced]; rfl⟩

/-- What a write leaves, whether it succeeds or not. -/
theorem exists_write (transport : Transport) (bytes : Bytes) :
    ∃ accepted : Bytes,
      (transport.write bytes).2 =
        { transport with
          outbound := transport.outbound ++ accepted
          writeBudget := transport.writeBudget.map (· - accepted.length)
          writeOutcomes := transport.writeOutcomes.tail } := by
  have nothing :
      transport.writeOutcomes = [] →
        transport =
          { transport with
            outbound := transport.outbound ++ []
            writeBudget :=
              transport.writeBudget.map (· - ([] : Bytes).length)
            writeOutcomes := transport.writeOutcomes.tail } := by
    intro unforced
    simp only [unforced, List.tail_nil, List.append_nil, List.length_nil,
      Nat.sub_zero, Option.map_id']
    rw [← unforced]
  rw [write]
  split
  · next outcome later forced =>
      exact ⟨[], by simp [forced]⟩
  · next unforced =>
      rw [writeOutbound]
      split
      · exact ⟨[], nothing unforced⟩
      · dsimp only
        split
        · exact ⟨[], nothing unforced⟩
        · exact ⟨_, by rw [unforced]; rfl⟩

/-- What single calls of its owner make of a transport. -/
inductive Uses (before : Transport) : Transport → Prop where
  | nothing : Uses before before
  | read {after : Transport} (uses : Uses before after) (limit : Nat) :
      Uses before (after.read limit).2
  | write {after : Transport} (uses : Uses before after) (bytes : Bytes) :
      Uses before (after.write bytes).2
  | interest {after : Transport} (uses : Uses before after)
      (interest : Bool) :
      Uses before (after.setWriteInterest interest)

/-- Whether every call does what the bytes and the budgets allow. -/
structure IsUnforced (transport : Transport) : Prop where
  reads : transport.readOutcomes = []
  writes : transport.writeOutcomes = []

/-- Whether no budget limits a call. -/
structure IsUnlimited (transport : Transport) : Prop where
  reading : transport.readBudget = none
  writing : transport.writeBudget = none

namespace Uses

variable {before between after : Transport}

theorem trans (earlier : before.Uses between) (later : between.Uses after) :
    before.Uses after := by
  induction later with
  | nothing =>
      exact earlier
  | read _ limit inductionHypothesis =>
      exact inductionHypothesis.read limit
  | write _ bytes inductionHypothesis =>
      exact inductionHypothesis.write bytes
  | interest _ interest inductionHypothesis =>
      exact inductionHypothesis.interest interest

/-- What was accepted stays in front of what is accepted later. -/
theorem outbound_prefix (uses : before.Uses after) :
    before.outbound <+: after.outbound := by
  induction uses with
  | nothing =>
      exact List.prefix_rfl
  | @read after _ limit inductionHypothesis =>
      obtain ⟨count, left⟩ := after.exists_read limit
      rw [left]
      exact inductionHypothesis
  | @write after _ bytes inductionHypothesis =>
      obtain ⟨accepted, left⟩ := after.exists_write bytes
      rw [left]
      exact inductionHypothesis.trans (List.prefix_append _ _)
  | interest _ _ inductionHypothesis =>
      exact inductionHypothesis

/-- What is left to read is the end of what there was. -/
theorem inbound_suffix (uses : before.Uses after) :
    after.inbound <:+ before.inbound := by
  induction uses with
  | nothing =>
      exact List.suffix_rfl
  | @read after _ limit inductionHypothesis =>
      obtain ⟨count, left⟩ := after.exists_read limit
      rw [left]
      exact (List.drop_suffix _ _).trans inductionHypothesis
  | @write after _ bytes inductionHypothesis =>
      obtain ⟨accepted, left⟩ := after.exists_write bytes
      rw [left]
      exact inductionHypothesis
  | interest _ _ inductionHypothesis =>
      exact inductionHypothesis

/-- Calls do not force an outcome on later calls. -/
theorem isUnforced (uses : before.Uses after) (unforced : before.IsUnforced) :
    after.IsUnforced := by
  induction uses with
  | nothing =>
      exact unforced
  | @read after _ limit inductionHypothesis =>
      obtain ⟨count, left⟩ := after.exists_read limit
      rw [left]
      exact ⟨congrArg List.tail inductionHypothesis.reads,
        inductionHypothesis.writes⟩
  | @write after _ bytes inductionHypothesis =>
      obtain ⟨accepted, left⟩ := after.exists_write bytes
      rw [left]
      exact ⟨inductionHypothesis.reads,
        congrArg List.tail inductionHypothesis.writes⟩
  | interest _ _ inductionHypothesis =>
      exact ⟨inductionHypothesis.reads, inductionHypothesis.writes⟩

/-- Calls do not set a budget. -/
theorem isUnlimited (uses : before.Uses after)
    (unlimited : before.IsUnlimited) : after.IsUnlimited := by
  induction uses with
  | nothing =>
      exact unlimited
  | @read after _ limit inductionHypothesis =>
      obtain ⟨count, left⟩ := after.exists_read limit
      rw [left]
      exact ⟨congrArg (Option.map _) inductionHypothesis.reading,
        inductionHypothesis.writing⟩
  | @write after _ bytes inductionHypothesis =>
      obtain ⟨accepted, left⟩ := after.exists_write bytes
      rw [left]
      exact ⟨inductionHypothesis.reading,
        congrArg (Option.map _) inductionHypothesis.writing⟩
  | interest _ _ inductionHypothesis =>
      exact ⟨inductionHypothesis.reading, inductionHypothesis.writing⟩

end Uses

end Transport

/-! ## Whole frames -/

/-- Reading a frame is a row of reads. -/
theorem Incoming.uses_readFrom (incoming : Incoming) (transport : Transport) :
    transport.Uses (incoming.readFrom transport).2.2 := by
  rw [readFrom]
  generalize 0 = count
  fun_induction Incoming.readAfter incoming count transport with
  | case1 | case2 =>
      exact .nothing
  | case3 incoming count transport incomplete needed asked later outcome
  | case4 incoming count transport incomplete needed asked taken later outcome
  | case6 incoming count transport incomplete needed asked taken later outcome
  | case8 incoming count transport incomplete needed asked failure later outcome
  | case9 incoming count transport incomplete needed asked failure later
      outcome =>
      have once : transport.Uses (transport.read needed).2 :=
        .read .nothing needed
      rw [outcome] at once
      exact once
  | case5 incoming count transport incomplete needed asked taken later outcome
      some grown cut inductionHypothesis
  | case7 incoming count transport incomplete needed asked failure later outcome
      again inductionHypothesis =>
      have once : transport.Uses (transport.read needed).2 :=
        .read .nothing needed
      rw [outcome] at once
      exact once.trans inductionHypothesis

/-- Writing a frame is a row of writes. -/
theorem Outgoing.uses_writeTo (outgoing : Outgoing) (transport : Transport) :
    transport.Uses (outgoing.writeTo transport).2.2 := by
  rw [writeTo]
  generalize 0 = written
  fun_induction Outgoing.writeAfter outgoing written transport with
  | case1 =>
      exact .nothing
  | case2 outgoing written transport unsent later outcome
  | case5 outgoing written transport unsent failure later outcome
  | case6 outgoing written transport unsent failure later outcome =>
      have once : transport.Uses (transport.write outgoing.remaining).2 :=
        .write .nothing outgoing.remaining
      rw [outcome] at once
      exact once
  | case3 outgoing written transport unsent count later outcome moved
      inductionHypothesis
  | case4 outgoing written transport unsent failure later outcome again
      inductionHypothesis =>
      have once : transport.Uses (transport.write outgoing.remaining).2 :=
        .write .nothing outgoing.remaining
      rw [outcome] at once
      exact once.trans inductionHypothesis

end BrokerSession
