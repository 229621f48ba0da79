import BrokerSession.Proofs.Broker.Opening
import BrokerSession.Proofs.Broker.Progress

namespace BrokerSession

/-!
# Completion

A session and a broker that know the same password come to an end together,
whatever becomes of the bytes between them on the way: no call ever fails, the
broker is asked nothing but what it has to be asked, and once nothing that goes
on is put off for ever the session is complete and the server satisfied.
-/

open Journal Session

namespace Link

/-! ## Taking turns -/

/-- Everybody takes their turn, and so many bytes arrive at once. -/
def takingTurns (count time : Nat) : Step :=
  match time % 4 with
  | 0 => .call
  | 1 => .carry
  | 2 => .serve
  | _ => .deliver count

variable {link : Link}

theorem isUnlimited_takingTurns
    (unlimited : link.session.transport.IsUnlimited) (count time : Nat) :
    (link.after (takingTurns count) time).session.transport.IsUnlimited := by
  induction time with
  | zero =>
      exact unlimited
  | succ time inductionHypothesis =>
      rw [Link.after, takingTurns]
      split
      · exact (uses_authenticate _).isUnlimited inductionHypothesis
      · exact ⟨inductionHypothesis.reading, inductionHypothesis.writing⟩
      · rw [perform]
        split <;> exact inductionHypothesis
      · exact ⟨inductionHypothesis.reading, inductionHypothesis.writing⟩

/-- Taking turns is fair, however few bytes arrive at once. -/
theorem isFair_takingTurns (unlimited : link.session.transport.IsUnlimited)
    {count : Nat} (positive : 0 < count) :
    link.IsFair (takingTurns count) := by
  constructor
  case calls =>
    exact fun now => ⟨now * 4, by omega, by simp [takingTurns]⟩
  case carries =>
    exact fun now => ⟨now * 4 + 1, by omega, by simp [takingTurns]⟩
  case serves =>
    exact fun now => ⟨now * 4 + 2, by omega, by simp [takingTurns]⟩
  case delivers =>
    exact fun now =>
      ⟨now * 4 + 3, count, by omega, positive, by simp [takingTurns]⟩
  case lifted =>
    refine ⟨0, fun time _ => ?_⟩
    have stillUnlimited := isUnlimited_takingTurns unlimited count time
    exact ⟨stillUnlimited.reading, stillUnlimited.writing⟩

/-! ## Honest brokers -/

/-- What becomes of a link whose broker is asked some requests and no more. -/
structure Completes (link : Link) (schedule : Nat → Step)
    (requests : List Asked) : Prop where
  succeeds :
    ∀ time, (link.after schedule time).session.authenticate.1 = .ok ()
  asks :
    ∀ time,
      (link.after schedule time).broker.received <+:
        link.broker.received ++ requests.map .ok
  /-- In the end the session is complete and everything was asked. -/
  completes :
    link.IsFair schedule →
      ∃ start, ∀ time, start ≤ time →
        let reached := link.after schedule time
        reached.session.isComplete = true ∧
          reached.broker.received =
            link.broker.received ++ requests.map .ok ∧
          reached.broker.server.isSatisfied = true

end Link

end BrokerSession
