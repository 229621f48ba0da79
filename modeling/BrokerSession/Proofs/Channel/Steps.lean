import BrokerSession.Proofs.Channel.Patience

namespace BrokerSession

/-!
# Steps of the owner

Between two calls the owner of a transport, or its peer, may let bytes arrive,
take away what was accepted, set a budget, close, or force the outcome of a later
call.  No step touches the bytes in front of those that it adds.
-/

namespace Transport

/-- The bytes that a step lets arrive. -/
def Step.arriving : Step → Bytes
  | .push arriving => arriving
  | _ => []

/-- Whether calls after a step are at most delayed by it. -/
def Step.isPatient : Step → Bool
  | .close => false
  | .forceRead outcome | .forceWrite outcome => outcome.delays
  | _ => true

/-- Patient steps leave a patient transport patient. -/
theorem IsPatient.perform {transport : Transport} (patient : transport.IsPatient)
    {step : Step} (isPatient : step.isPatient = true) :
    (transport.perform step).2.IsPatient := by
  cases step with
  | close =>
      cases isPatient
  | forceRead outcome =>
      exact ⟨patient.opened,
        List.forall_mem_append.mpr
          ⟨patient.reads, List.forall_mem_singleton.mpr isPatient⟩,
        patient.writes⟩
  | forceWrite outcome =>
      exact ⟨patient.opened, patient.reads,
        List.forall_mem_append.mpr
          ⟨patient.writes, List.forall_mem_singleton.mpr isPatient⟩⟩
  | push | take | readBudget | writeBudget =>
      exact ⟨patient.opened, patient.reads, patient.writes⟩

/-- No step changes whether the session wants to write. -/
theorem writeInterest_perform (transport : Transport) (step : Step) :
    (transport.perform step).2.writeInterest = transport.writeInterest := by
  cases step <;> rfl

/-- What a step takes away is a beginning of what was accepted. -/
theorem outbound_perform (transport : Transport) (step : Step) :
    (transport.perform step).1.getD [] ++ (transport.perform step).2.outbound =
      transport.outbound := by
  cases step with
  | take =>
      exact List.append_nil transport.outbound
  | push | readBudget | writeBudget | close | forceRead | forceWrite =>
      rfl

/-- What arrives comes after what is there to be read. -/
theorem inbound_perform (transport : Transport) (step : Step) :
    (transport.perform step).2.inbound =
      transport.inbound ++ step.arriving := by
  cases step with
  | push arriving =>
      rfl
  | take | readBudget | writeBudget | close | forceRead | forceWrite =>
      exact (List.append_nil transport.inbound).symm

end Transport

end BrokerSession
