import BrokerSession.Proofs.Session.Runs

namespace BrokerSession.Session

/-!
# The first failure of a run

A session that fails in a run stays failed, so that the first failure is the
one that tells what happened to it.  Whatever is done to the transport of the
session afterwards does not concern it any more.
-/

variable {origin : Origin} {session : Session SaslClient} {point : Point}

/-- The first failure that operations report, one done after the other. -/
def firstError (session : Session SaslClient) :
    List Operation → Option SessionError
  | [] => none
  | operation :: later =>
      match (session.perform operation).1 with
      | .error cause => some cause
      | .ok _ => firstError (session.perform operation).2 later

/-- How a session has fared, given the first failure that was reported. -/
inductive Fares (origin : Origin) (session : Session SaslClient) :
    Option SessionError → Prop where
  | advances (advances : Advances origin session) : Fares origin session none
  | failed {cause : SessionError} (failed : Failed origin session)
      (throws : Throws origin cause session) :
      Fares origin session (some cause)

theorem Sound.advances_of_ne (sound : Sound origin session)
    (notFailed : session.stage ≠ .failed) : Advances origin session := by
  cases sound with
  | advances advances =>
      exact advances
  | failed failed =>
      exact (notFailed failed.stage).elim

theorem Sound.failed_of_eq (sound : Sound origin session)
    (isFailed : session.stage = .failed) : Failed origin session := by
  cases sound with
  | advances advances =>
      exact (advances.stage_ne_failed isFailed).elim
  | failed failed =>
      exact failed

/-- The transport of a session that has failed may still be used. -/
theorem Throws.move {cause : SessionError}
    (throws : Throws origin cause session) (step : Transport.Step) :
    Throws
      (origin.after ((session.transport.perform step).1.getD [])
        [.transport step])
      cause { session with transport := (session.transport.perform step).2 } := by
  obtain ⟨point, unsent, held, script, conserves, stops⟩ := throws
  refine ⟨point, unsent, held, script, conserves.move step, ?_⟩
  cases stops with
  | refused refuses =>
      exact .refused refuses
  | broken impatient busy isFailure =>
      exact .broken (fun patient => impatient patient.1) busy isFailure

/-- A session that has failed stays failed, whatever is done to it. -/
theorem stage_perform_of_failed (failed : session.stage = .failed)
    (operation : Operation) :
    (session.perform operation).2.stage = .failed := by
  cases operation with
  | authenticate =>
      simp only [Session.perform, authenticate_of_failed failed]
      exact failed
  | close =>
      simp only [Session.perform, close, failed]
      split <;> rfl
  | transport step =>
      exact failed

/-- No operation changes what a failed session has thrown. -/
theorem Throws.perform {cause : SessionError}
    (throws : Throws origin cause session) (failed : session.stage = .failed)
    (operation : Operation) :
    Throws (origin.after (session.handed operation) [operation]) cause
      (session.perform operation).2 := by
  cases operation with
  | authenticate =>
      rw [handed_authenticate, origin.after_own rfl rfl]
      simp only [Session.perform, authenticate_of_failed failed]
      exact throws
  | close =>
      rw [show session.handed .close = [] from rfl, origin.after_own rfl rfl]
      have terminal : session.stage.isTerminal = true := by
        rw [failed]
        rfl
      simp only [Session.perform, close, terminal, if_true]
      exact throws
  | transport step =>
      exact throws.move step

/-- What a session has thrown remains what it has failed with. -/
theorem Fares.run_of_failed {cause : SessionError}
    (failed : Failed origin session) (throws : Throws origin cause session)
    (operations : List Operation) :
    Fares (origin.after (session.takenAway operations) operations)
      (session.run operations) (some cause) := by
  induction operations generalizing origin session with
  | nil =>
      rw [takenAway, Origin.after_nil]
      exact .failed failed throws
  | cons operation later inductionHypothesis =>
      have sound := (Sound.failed failed).perform operation
      have stillFailed :=
        sound.failed_of_eq (stage_perform_of_failed failed.stage operation)
      have moved :=
        inductionHypothesis stillFailed (throws.perform failed.stage operation)
      rw [Origin.after_append] at moved
      rw [takenAway]
      exact moved

/-- Unless it is closed, a session only fails with a failure it reports. -/
theorem Advances.fares_run (advances : Advances origin session)
    (operations : List Operation)
    (neverClosed : ∀ operation ∈ operations, operation ≠ .close) :
    Fares (origin.after (session.takenAway operations) operations)
      (session.run operations) (session.firstError operations) := by
  induction operations generalizing origin session with
  | nil =>
      rw [takenAway, Origin.after_nil]
      exact .advances advances
  | cons operation later inductionHypothesis =>
      have others : ∀ other ∈ later, other ≠ .close := fun other member =>
        neverClosed other (List.mem_cons_of_mem operation member)
      rw [takenAway, ← Origin.after_append]
      cases operation with
      | close =>
          exact (neverClosed .close List.mem_cons_self rfl).elim
      | transport step =>
          have sound := (Sound.advances advances).move step
          exact inductionHypothesis
            (sound.advances_of_ne advances.stage_ne_failed) others
      | authenticate =>
          rw [handed_authenticate, origin.after_own rfl rfl]
          rcases advances.authenticate with ⟨succeeded, goesOn⟩ |
            ⟨cause, reported, throws, failed⟩
          · have sameError :
                session.firstError (.authenticate :: later) =
                  session.authenticate.2.firstError later := by
              simp only [firstError, Session.perform, succeeded, Except.map]
            rw [sameError]
            exact inductionHypothesis goesOn others
          · have isFirst :
                session.firstError (.authenticate :: later) = some cause := by
              simp only [firstError, Session.perform, reported, Except.map]
            rw [isFirst]
            exact .run_of_failed failed throws later

end BrokerSession.Session
