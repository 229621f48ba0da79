import BrokerSession.Session.Advance

namespace BrokerSession.SessionM

/-!
# Reasoning about handlers

A handler either returns or throws, and keeps its effects in both cases.
`Ensures` states what holds of the session afterwards; the rules below take a
handler apart step by step.  The steps that use the transport or the mechanism
have a rule of their own, so that nothing else has to look into them.
-/

variable {Client Content Next : Type}

/-- What holds after a computation that returns, or that throws. -/
def Ensures (action : SessionM Client Content) (before : Session Client)
    (returned : Content → Session Client → Prop)
    (thrown : SessionError → Session Client → Prop) : Prop :=
  match action.run before with
  | .ok content after => returned content after
  | .error cause after => thrown cause after

variable {before : Session Client}
  {returned : Content → Session Client → Prop}
  {thrown : SessionError → Session Client → Prop}

/-- What is returned is ensured of the session as it is. -/
theorem ensures_pure {content : Content} :
    Ensures (pure content) before returned thrown ↔ returned content before :=
  Iff.rfl

/-- What comes second starts where the first one ends. -/
theorem ensures_bind {first : SessionM Client Next}
    {next : Next → SessionM Client Content} :
    Ensures (first >>= next) before returned thrown ↔
      Ensures first before
        (fun content between => Ensures (next content) between returned thrown)
        thrown := by
  rw [Ensures, Ensures, EStateM.run_bind]
  cases first.run before <;> rfl

/-- To convert what is returned leaves the session as it is. -/
theorem ensures_map {first : SessionM Client Next} {convert : Next → Content} :
    Ensures (convert <$> first) before returned thrown ↔
      Ensures first before (fun content => returned (convert content))
        thrown := by
  rw [Ensures, Ensures]
  simp only [EStateM.run, Functor.map, EStateM.map]
  cases first before <;> rfl

/-- What is discarded is not told to anybody. -/
theorem ensures_discard {first : SessionM Client Next}
    {returned : PUnit → Session Client → Prop} :
    Ensures (discard first) before returned thrown ↔
      Ensures first before (fun _ => returned ⟨⟩) thrown :=
  ensures_map

/-- A look returns the session and leaves it as it is. -/
theorem ensures_get {returned : Session Client → Session Client → Prop} :
    Ensures get before returned thrown ↔ returned before before :=
  Iff.rfl

/-- A session is replaced by the one that is put in its place. -/
theorem ensures_set {returned : PUnit → Session Client → Prop}
    {after : Session Client} :
    Ensures (set after) before returned thrown ↔ returned ⟨⟩ after :=
  Iff.rfl

/-- A change is made at once. -/
theorem ensures_modify {returned : PUnit → Session Client → Prop}
    {change : Session Client → Session Client} :
    Ensures (modify change) before returned thrown ↔
      returned ⟨⟩ (change before) :=
  Iff.rfl

/-- What holds afterwards may be stated less precisely. -/
theorem Ensures.weaken {action : SessionM Client Content}
    {laterReturned : Content → Session Client → Prop}
    {laterThrown : SessionError → Session Client → Prop}
    (ensures : Ensures action before returned thrown)
    (fromReturned :
      ∀ content after, returned content after → laterReturned content after)
    (fromThrown : ∀ cause after, thrown cause after → laterThrown cause after) :
    Ensures action before laterReturned laterThrown := by
  rw [Ensures] at ensures ⊢
  cases outcome : action.run before with
  | ok content after =>
      rw [outcome] at ensures
      exact fromReturned content after ensures
  | error cause after =>
      rw [outcome] at ensures
      exact fromThrown cause after ensures

/-- A sequence is followed from what its first part ensures. -/
theorem Ensures.bind {first : SessionM Client Next}
    {next : Next → SessionM Client Content}
    {between : Next → Session Client → Prop}
    (ensures : Ensures first before between thrown)
    (fromBetween :
      ∀ content after, between content after →
        Ensures (next content) after returned thrown) :
    Ensures (first >>= next) before returned thrown :=
  ensures_bind.mpr
    (ensures.weaken fromBetween fun _ _ threw => threw)

/-! ## Steps -/

section Steps

open Session

variable {session : Session Client}

/-- A frame that is being written is flushed, kept for later, or given up. -/
theorem ensures_flush_iff {outgoing : Outgoing}
    {returned : Bool → Session Client → Prop}
    (isOutgoing : session.outgoing = some outgoing) :
    Ensures flush session returned thrown ↔
      match outgoing.writeTo session.transport with
      | (.error cause, left, transport) =>
          thrown (.ofIo session.node cause)
            { session with outgoing := some left, transport := transport }
      | (.ok count, left, transport) =>
          let recorded :=
            { session with
              outgoing := some left
              transport := transport
              ledger := session.ledger.recordSent count }
          if left.isComplete then returned true recorded.settle
          else returned false (recorded.setWriteInterest true) := by
  rw [flush, ensures_bind, ensures_get]
  simp only [isOutgoing]
  rcases outgoing.writeTo session.transport with ⟨outcome, left, transport⟩
  cases outcome with
  | error cause =>
      rfl
  | ok count =>
      rw [ensures_bind, ensures_set, ensures_bind, ensures_modify]
      by_cases complete : left.isComplete = true
      · simp only [complete, if_true]
        rfl
      · simp only [complete]
        rfl

/-- A frame is taken if it is complete, or else kept as far as it was read. -/
theorem ensures_receiveFrame_iff {incoming : Incoming}
    {returned : Option Bytes → Session Client → Prop}
    (isIncoming :
      session.incoming.getD
          (.start session.node session.config.maxReceiveSize) = incoming) :
    Ensures receiveFrame session returned thrown ↔
      match incoming.readFrom session.transport with
      | (.error cause, left, transport) =>
          thrown
            (if cause.kind = .invalidData then .invalidSaslResponse (.io cause)
              else .ofIo session.node cause)
            { session with incoming := some left, transport := transport }
      | (.ok count, left, transport) =>
          let recorded :=
            { session with
              incoming := some left
              transport := transport
              ledger := session.ledger.recordReceived count }
          match left.payload with
          | none => returned none recorded
          | some payload =>
              returned (some payload)
                { recorded.note (.taken payload) with incoming := none } := by
  rw [receiveFrame, ensures_bind, ensures_get]
  simp only [isIncoming]
  rcases incoming.readFrom session.transport with ⟨outcome, left, transport⟩
  rw [ensures_bind, ensures_set]
  cases outcome with
  | error cause =>
      by_cases isInvalid : cause.kind = .invalidData
      · simp only [isInvalid, if_true]
        rfl
      · simp only [isInvalid, if_false]
        rfl
  | ok count =>
      simp only [ensures_bind, ensures_modify]
      cases left.payload <;> rfl

/-- The mechanism is asked, unless the server has to speak first. -/
theorem ensures_nextToken_iff [Mechanism Client] {challenge : Bytes}
    {isInitial : Bool} {returned : Option Bytes → Session Client → Prop} :
    Ensures (nextToken challenge isInitial) session returned thrown ↔
      if isInitial && !Mechanism.hasInitialResponse session.client then
        returned (some challenge) session
      else
        match Mechanism.evaluate session.client challenge with
        | (.error cause, client) =>
            thrown (.mechanism session.config.mechanism session.host cause)
              { session.note (.evaluated challenge (.error cause)) with
                client := client }
        | (.ok token, client) =>
            returned token
              { session.note (.evaluated challenge (.ok token)) with
                client := client } := by
  rw [nextToken, ensures_bind, ensures_get]
  split
  · rfl
  · rcases Mechanism.evaluate session.client challenge with ⟨outcome, client⟩
    cases outcome <;> rfl

end Steps

/-! ## Calls -/

/-- A call advances the session, and gives it up if that fails. -/
theorem Ensures.authenticate [Mechanism Client] {session : Session Client}
    {returned : Session Client → Prop}
    {thrown : SessionError → Session Client → Prop}
    (ensures :
      Ensures Session.advance session.begin (fun _ => returned) thrown)
    (notFailed : session.stage ≠ .failed) :
    (∃ later,
        session.authenticate = (.ok (), later) ∧ returned later) ∨
      ∃ cause later,
        session.authenticate = (.error cause, later.fail) ∧
          thrown cause later := by
  rw [Ensures] at ensures
  rw [Session.authenticate, if_neg notFailed]
  cases outcome : Session.advance.run session.begin with
  | ok content later =>
      rw [outcome] at ensures
      exact Or.inl ⟨later, rfl, ensures⟩
  | error cause later =>
      rw [outcome] at ensures
      exact Or.inr ⟨cause, later, rfl, ensures⟩

end BrokerSession.SessionM
