import BrokerSession.Proofs.Session.Pace
import BrokerSession.Proofs.Session.Runs

namespace BrokerSession.Session

/-!
# The outbound stream

Whatever the transport does, the peer sees the frames of a session in the
order they were made, each of them whole before the next one begins.
-/

open Journal

variable {origin : Origin} {session : Session SaslClient}

/-- The frames of a journal as the peer sees them, given what it received. -/
structure Delivered (journal : List Event) (accepted : Bytes) : Prop where
  /-- Nothing is lost, repeated or reordered. -/
  beginning : accepted <+: (frames journal).flatten
  /-- Only the last frame may still be incomplete. -/
  whole : (frames journal).dropLast.flatten <+: accepted
  /-- A frame that counts as flushed is complete. -/
  flushed :
    ∀ before header frame after,
      journal = before ++ .framed header frame :: .flushed :: after →
        (frames before).flatten ++ frame <+: accepted

/-- Whatever is known about later frames, an earlier one is a beginning. -/
theorem prefix_flatten_frames (before later : List Event)
    (header : Option RequestHeader) (frame rest : Bytes) :
    (frames before).flatten ++ frame <+:
      (frames (before ++ .framed header frame :: later)).flatten ++ rest := by
  refine ⟨(frames later).flatten ++ rest, ?_⟩
  rw [frames_append_cons]
  simp

/-- Without unsent bytes every frame is there. -/
theorem delivered_flatten (journal : List Event) :
    Delivered journal (frames journal).flatten where
  beginning := List.prefix_rfl
  whole := by
    obtain ⟨last, together⟩ := List.dropLast_prefix (frames journal)
    exact ⟨last.flatten, by rw [← List.flatten_append, together]⟩
  flushed := by
    rintro before header frame after rfl
    have within := prefix_flatten_frames before (.flushed :: after) header
      frame []
    rwa [List.append_nil] at within

/-- With unsent bytes the journal ends with the frame they belong to. -/
theorem delivered_of_prefix {earlier : List Event}
    {header : Option RequestHeader} {frame part : Bytes}
    (beginning : part <+: frame) :
    Delivered (earlier ++ [.framed header frame])
      ((frames earlier).flatten ++ part) where
  beginning := by
    simpa using beginning
  whole := by
    simp
  flushed := by
    intro before other made after split
    rcases Script.eq_or_split_of_append_singleton split with
      ⟨rfl, -⟩ | ⟨middle, -, rfl⟩
    · have nothingAfter := congrArg List.length split
      simp at nothingAfter
    · exact prefix_flatten_frames before middle other made part

/-- The accepted bytes are delivered, the unsent ones are what is missing. -/
theorem Conserves.exists_delivered {outbound inbound unsent held : Bytes}
    {journal : List Event}
    (conserves : Conserves origin outbound inbound journal unsent held) :
    ∃ accepted,
      origin.lead ++ outbound = origin.base ++ accepted ∧
        accepted ++ unsent = (frames journal).flatten ∧
        Delivered journal accepted := by
  have sent := conserves.sent
  rcases conserves.partly with rfl |
    ⟨earlier, header, frame, rfl, part, rfl⟩
  · rw [List.append_nil] at sent
    exact ⟨(frames journal).flatten, sent, List.append_nil _,
      delivered_flatten journal⟩
  · refine ⟨(frames earlier).flatten ++ part, ?_, by simp,
      delivered_of_prefix (List.prefix_append part unsent)⟩
    have together :
        origin.lead ++ outbound ++ unsent =
          origin.base ++ ((frames earlier).flatten ++ part) ++ unsent := by
      simpa using sent
    exact List.append_cancel_right together

/-- Nothing is dropped unless the session has failed. -/
theorem Sound.exists_conserves (sound : Sound origin session) :
    ∃ unsent held,
      Conserves origin session.transport.outbound session.transport.inbound
          session.journal unsent held ∧
        (session.stage ≠ .failed → unsent = session.unsent) := by
  cases sound with
  | advances advances =>
      rcases advances with ⟨point, tracks, -⟩ | finished
      · exact ⟨session.unsent, session.held, tracks.conserves, fun _ => rfl⟩
      · obtain ⟨held, conserves⟩ := finished.conserves
        refine ⟨[], held, conserves, fun _ => ?_⟩
        rw [unsent, finished.outgoing]
        rfl
  | failed failed =>
      obtain ⟨unsent, held, conserves⟩ := failed.leaves.conserves
      exact ⟨unsent, held, conserves,
        fun notFailed => (notFailed failed.stage).elim⟩

/-- What a session has sent and taken since its start. -/
structure SendsInOrder (first final : Session SaslClient)
    (taken arriving : Bytes) : Prop where
  /-- Unless it has failed, a session still holds whatever is missing. -/
  delivered :
    ∃ accepted,
      taken ++ final.transport.outbound = first.transport.outbound ++ accepted ∧
        Delivered final.journal accepted ∧
        (final.stage ≠ .failed →
          accepted ++ final.unsent = (frames final.journal).flatten)
  /-- What was taken are frames that have arrived. -/
  received :
    ((payloads final.journal).map FrameCodec.frame).flatten <+:
      first.transport.inbound ++ arriving
  sized :
    ∀ frame ∈ frames final.journal,
      ∃ payload : Bytes,
        payload.length ≤ maxFrameSize ∧ frame = FrameCodec.frame payload
  /-- Before a frame is made, the one before it was flushed and answered. -/
  answered :
    ∀ before header frame after,
      final.journal = before ++ .framed header frame :: after →
        Script.IsSettled before
  numbered :
    (requests final.journal).map RequestHeader.correlationId =
      (List.range (requests final.journal).length).map Script.idAt
  /-- One more call makes and takes at most one frame. -/
  paced : final.Extends 1 1 final.authenticate.2
  /-- Nothing but such a call makes or takes frames. -/
  quiet :
    ∀ operation, operation ≠ .authenticate →
      (final.perform operation).2.journal = final.journal

/-- Every run of a session with a fresh mechanism sends its frames in order. -/
theorem sendsInOrder_of_isFresh (config : Config) (node host : String)
    (subject : Subject) (transport : Transport) {client : SaslClient}
    (fresh : client.IsFresh) (operations : List Operation) :
    let session := start config node host subject transport client
    SendsInOrder session (session.run operations)
      (session.takenAway operations)
      (operations.flatMap Operation.arriving) := by
  intro session
  have sound :=
    (sound_start config node host subject transport fresh).run operations
  obtain ⟨point, script⟩ := sound.leaves.script
  obtain ⟨unsent, held, conserves, kept⟩ := sound.exists_conserves
  obtain ⟨accepted, isAccepted, together, delivered⟩ :=
    conserves.exists_delivered
  constructor
  case delivered =>
    refine ⟨accepted, isAccepted, delivered, ?_⟩
    intro notFailed
    rw [← kept notFailed]
    exact together
  case received =>
    have received := conserves.received
    rw [List.append_assoc] at received
    exact ⟨_, received.symm⟩
  case sized =>
    exact script.exists_payload_of_mem_frames
  case answered =>
    exact script.isSettled_before_framed
  case numbered =>
    exact script.correlationIds_eq.1
  case paced =>
    exact extends_authenticate _
  case quiet =>
    intro operation other
    exact journal_perform_of_ne other _

/-- A transport that at first accepts three bytes of the first frame. -/
theorem sendsInOrder_of_isFresh_plain :
    let client : SaslClient :=
      .plain
        { authorizationId := none, username := "user", password := "secret" }
    let session := start {} "broker:9092" "broker" {} {} client
    let operations : List Operation :=
      [.transport (.writeBudget (some 3)), .authenticate, .transport .take,
        .transport (.writeBudget none), .authenticate, .close]
    client.IsFresh ∧ session.takenAway operations = [0, 0, 0] ∧
      SendsInOrder session (session.run operations)
        (session.takenAway operations)
        (operations.flatMap Operation.arriving) := by
  intro client session operations
  have fresh : client.IsFresh := rfl
  refine ⟨fresh, by decide +kernel, ?_⟩
  exact sendsInOrder_of_isFresh {} "broker:9092" "broker" {} {} fresh operations

end BrokerSession.Session
