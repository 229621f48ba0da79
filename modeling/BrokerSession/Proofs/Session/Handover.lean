import BrokerSession.Proofs.Session.Negotiation
import BrokerSession.Proofs.Session.Runs

namespace BrokerSession.Session

/-!
# What a complete session hands over

Once a session is complete its transport is handed over to whatever comes next.
The bytes that the session took from it are whole frames, so that everything
behind the last of them is still there.  A PLAIN client that sends raw tokens
is the exception: it owes its server nothing after its first token, and it is
complete although the beginning of a frame may have been taken.
-/

open Journal

variable {origin : Origin} {session : Session SaslClient} {point : Point}

/-- What became of the bytes that have arrived at a complete session. -/
structure HandsOver (first final : Session SaslClient) (arriving : Bytes) :
    Prop where
  /-- What is between the taken frames and the rest is no frame yet. -/
  partition :
    ∃ held,
      first.transport.inbound ++ arriving =
          ((payloads final.journal).map FrameCodec.frame).flatten ++ held ++
            final.transport.inbound ∧
        FrameCodec.decode ⟨first.config.maxReceiveSize⟩ held = .ok none
  /-- Wrapped tokens, or those of a SCRAM client, leave nothing in between. -/
  whole :
    final.authenticateVersion.isSome = true ∨
        (∃ client, first.client = .scram client) →
      first.transport.inbound ++ arriving =
          ((payloads final.journal).map FrameCodec.frame).flatten ++
            final.transport.inbound ∧
        final.incoming = none

/-- A frame that needs no answer is a raw one. -/
theorem notAwaiting_of_wrapped {journal : List Event} {exchange : Exchange}
    (script : Script exchange point journal) (final : IsFinal point.activity)
    (wrapped : point.terms.authenticateVersion.isSome = true) :
    point.activity.isAwaiting = false := by
  have fits := script.headerFits
  generalize point.activity = activity at final fits ⊢
  cases final with
  | silent | challenged =>
      rfl
  | awaiting token =>
      have unwrapped : false = point.terms.authenticateVersion.isSome := fits.1
      cases unwrapped.trans wrapped

/-- A SCRAM client is complete only once the server has had the last word. -/
theorem notAwaiting_of_scram {journal : List Event} {exchange : Exchange}
    {client : ScramClient} (script : Script exchange point journal)
    (isScram : exchange.client = .scram client)
    (fresh : exchange.client.IsFresh)
    (complete : Mechanism.isComplete point.client = true) :
    point.activity.isAwaiting = false := by
  rcases script.not_isComplete_of_scram isScram fresh with
    refused | ⟨-, silent | incomplete⟩
  · rw [refused]
    rfl
  · rw [silent]
    rfl
  · cases incomplete.symm.trans complete

/-- The bytes of a complete session are taken frames and what it left. -/
theorem Finished.handsOver (finished : Finished origin session)
    (fresh : origin.exchange.client.IsFresh) :
    ∃ held,
      origin.arrived =
          ((payloads session.journal).map FrameCodec.frame).flatten ++ held ++
            session.transport.inbound ∧
        FrameCodec.decode ⟨origin.exchange.config.maxReceiveSize⟩ held =
          .ok none ∧
        (session.authenticateVersion.isSome = true ∨
            (∃ client, origin.exchange.client = .scram client) →
          held = [] ∧ session.incoming = none) := by
  obtain ⟨point, held, script, terms, complete, final, conserves, abandons⟩ :=
    finished.ending
  refine ⟨held, conserves.received, abandons.undecided, ?_⟩
  intro settled
  refine abandons.nothing ?_
  rcases settled with wrapped | ⟨client, isScram⟩
  · have version :
        session.authenticateVersion = point.terms.authenticateVersion :=
      congrArg Terms.authenticateVersion terms
    rw [version] at wrapped
    exact notAwaiting_of_wrapped script final wrapped
  · exact notAwaiting_of_scram script isScram fresh complete

/-- Whatever led to success, the bytes behind the last frame are left. -/
theorem handsOver_of_complete (config : Config) (node host : String)
    (subject : Subject) (transport : Transport) {client : SaslClient}
    (fresh : client.IsFresh) (operations : List Operation)
    (complete :
      ((start config node host subject transport client).run
          operations).stage =
        .complete) :
    let session := start config node host subject transport client
    HandsOver session (session.run operations)
      (operations.flatMap Operation.arriving) := by
  intro session
  have sound :=
    (sound_start config node host subject transport fresh).run operations
  obtain ⟨held, partition, undecided, whole⟩ :=
    (sound.finished complete).handsOver fresh
  refine ⟨⟨held, partition, undecided⟩, ?_⟩
  intro settled
  obtain ⟨rfl, notReading⟩ := whole settled
  rw [List.append_nil] at partition
  exact ⟨partition, notReading⟩

/-- A session with wrapped tokens whose peer sends on at once. -/
theorem handsOver_of_complete_wrapped :
    let client : SaslClient :=
      .plain
        { authorizationId := none, username := "user", password := "secret" }
    let versions : Bytes :=
      [0, 0, 0, 22, 255, 255, 255, 255, 0, 0, 0, 0, 0, 2, 0, 17, 0, 0, 0, 0, 0,
        36, 0, 0, 0, 0]
    let handshake : Bytes :=
      [0, 0, 0, 17, 0, 0, 0, 0, 0, 0, 0, 0, 0, 1, 0, 5, 80, 76, 65, 73, 78]
    let admission : Bytes := [0, 0, 0, 12, 0, 0, 0, 1, 0, 0, 255, 255, 0, 0, 0, 0]
    let session := start {} "broker:9092" "broker" {} {} client
    let operations : List Operation :=
      [.authenticate, .transport (.push versions), .authenticate,
        .transport (.push (handshake ++ admission.take 3)), .authenticate,
        .authenticate, .transport (.push (admission.drop 3 ++ [0, 0, 0])),
        .authenticate]
    client.IsFresh ∧ (session.run operations).stage = .complete ∧
      (session.run operations).transport.inbound = [0, 0, 0] ∧
      HandsOver session (session.run operations)
        (operations.flatMap Operation.arriving) := by
  intro client versions handshake admission session operations
  have fresh : client.IsFresh := rfl
  have complete : (session.run operations).stage = .complete := by
    decide +kernel
  have left : (session.run operations).transport.inbound = [0, 0, 0] := by
    decide +kernel
  have handsOver :=
    handsOver_of_complete {} "broker:9092" "broker" {} {} fresh operations
      complete
  exact ⟨fresh, complete, left, handsOver⟩

/-- A session with raw tokens that keeps the beginning of what comes next. -/
theorem keepsBeginning_of_raw :
    let client : SaslClient :=
      .plain
        { authorizationId := none, username := "user", password := "secret" }
    let session :=
      start { handshakeRequestEnable := false } "broker:9092" "broker" {} {}
        client
    let operations : List Operation :=
      [.authenticate, .transport (.push [0, 0]), .authenticate]
    let final := session.run operations
    client.IsFresh ∧ final.stage = .complete ∧
      final.incoming.isSome = true ∧
      ∀ taken : List Bytes,
        (taken.map FrameCodec.frame).flatten ++ final.transport.inbound ≠
          session.transport.inbound ++
            operations.flatMap Operation.arriving := by
  intro client session operations final
  have nothingLeft : final.transport.inbound = [] := by
    decide +kernel
  refine ⟨rfl, by decide +kernel, by decide +kernel, ?_⟩
  intro taken
  rw [nothingLeft, List.append_nil]
  cases taken with
  | nil =>
      exact nofun
  | cons payload others =>
      -- A frame is longer than the two bytes that have arrived.
      intro same
      have lengths := congrArg List.length same
      rw [List.map_cons, List.flatten_cons, List.length_append,
        FrameCodec.length_frame] at lengths
      have arrived :
          (session.transport.inbound ++
            operations.flatMap Operation.arriving).length = 2 :=
        rfl
      rw [arrived, frameHeadLength] at lengths
      omega

end BrokerSession.Session
