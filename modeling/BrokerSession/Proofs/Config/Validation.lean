import BrokerSession.Channel.Frame
import BrokerSession.Config.Basic
import BrokerSession.Schema.Primitive

namespace BrokerSession.Config

/-!
# Usable configurations

A configuration is usable exactly if it keeps every rule.  A frame can then
hold all that a session takes, and a request header the client id.
-/

/-- What a configuration that breaks no rule is like. -/
structure IsUsable (config : Config) : Prop where
  named : ¬ Text.isBlank config.mechanism
  receives : config.maxReceiveSize ≠ 0
  bounded : config.maxReceiveSize ≤ maxFrameSize
  connects : config.connectionTimeoutMs ≠ 0
  authenticates : config.authenticationTimeoutMs ≠ 0
  identified :
    ∀ clientId ∈ config.clientId,
      clientId.utf8ByteSize ≤ Encode.maxStringLength

/-- Validation accepts exactly the configurations that can be used. -/
theorem validate_eq_ok_iff {config : Config} :
    config.validate = .ok () ↔ config.IsUsable := by
  rw [validate]
  constructor
  · intro valid
    split at valid
    · cases valid
    split at valid
    · cases valid
    split at valid
    · cases valid
    split at valid
    · cases valid
    next named receives bounded limited =>
      rw [not_or] at limited
      refine ⟨named, receives, Nat.not_lt.mp bounded, limited.1, limited.2, ?_⟩
      intro clientId isClientId
      rw [Option.mem_def] at isClientId
      rw [isClientId] at valid
      dsimp only at valid
      split at valid
      · cases valid
      · next fits =>
          exact Nat.not_lt.mp fits
  · intro usable
    have bounded : ¬ 2147483647 < config.maxReceiveSize :=
      Nat.not_lt.mpr usable.bounded
    rw [if_neg usable.named, if_neg usable.receives, if_neg bounded,
      if_neg (not_or.mpr ⟨usable.connects, usable.authenticates⟩)]
    cases isClientId : config.clientId with
    | none =>
        rfl
    | some clientId =>
        exact if_neg (Nat.not_lt.mpr (usable.identified clientId isClientId))

end BrokerSession.Config
