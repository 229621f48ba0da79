import BrokerSession.Proofs.Session.Ensures
import BrokerSession.Proofs.Session.History
import BrokerSession.Proofs.Session.Refusal

namespace BrokerSession.Session

/-!
# Sessions on their script

A session tracks a point of its exchange if its fields say what the point says
and if no byte was lost in either direction: the accepted bytes and the unsent
rest are the frames of the journal, and the bytes that arrived are the frames
taken, the frame being read and what is still in the transport.  A session that
throws says at which point it stopped and why.
-/

open Journal SessionM

/-- What a session started from, and what went through its transport since. -/
structure Origin where
  exchange : Exchange
  /-- The bytes that the transport had accepted before the session. -/
  base : Bytes
  /-- The accepted bytes that were taken away from the transport. -/
  lead : Bytes
  /-- All bytes that have arrived. -/
  arrived : Bytes
  /-- Whether calls on the transport could only ever be delayed. -/
  patient : Prop
  /-- Whether nobody had asked to write before the session. -/
  unasked : Prop

/-- The versions that a session goes by. -/
def terms (session : Session SaslClient) : Terms where
  handshakeVersion := session.handshakeVersion
  authenticateVersion := session.authenticateVersion

/-- What is still to be written of the frame being written. -/
def unsent (session : Session SaslClient) : Bytes :=
  session.outgoing.elim [] Outgoing.remaining

/-- The bytes of the frame being read. -/
def held (session : Session SaslClient) : Bytes :=
  session.incoming.elim [] Incoming.consumed

/-- The bytes on both sides of a transport against a journal of frames. -/
structure Conserves (origin : Origin) (outbound inbound : Bytes)
    (journal : List Event) (unsent held : Bytes) : Prop where
  sent :
    origin.lead ++ outbound ++ unsent =
      origin.base ++ (frames journal).flatten
  /-- Nothing else happens while the last frame is partly unsent. -/
  partly :
    unsent = [] ∨
      ∃ earlier header frame,
        journal = earlier ++ [.framed header frame] ∧ unsent <:+ frame
  received :
    origin.arrived =
      ((payloads journal).map FrameCodec.frame).flatten ++ held ++ inbound
  takes :
    ∀ payload ∈ payloads journal,
      FrameCodec.Takes ⟨origin.exchange.config.maxReceiveSize⟩ payload

/-- What is being read is partial, and is read only while it is awaited. -/
def Reads (origin : Origin) (incoming : Option Incoming)
    (activity : Activity) : Prop :=
  ∀ reading ∈ incoming,
    reading.IsPartial origin.exchange.config.maxReceiveSize ∧
      activity.isAwaiting = true

/-- A session at a point of its exchange. -/
structure Tracks (origin : Origin) (session : Session SaslClient)
    (point : Point) : Prop where
  script : Script origin.exchange point session.journal
  config : session.config = origin.exchange.config
  node : session.node = origin.exchange.node
  host : session.host = origin.exchange.host
  client : session.client = point.client
  terms : session.terms = point.terms
  correlationId : session.correlationId = point.nextId
  outstanding : session.outstanding = point.activity.header?
  outgoing : session.outgoing.isSome = point.activity.isWriting
  reading : Reads origin session.incoming point.activity
  patient : origin.patient → session.transport.IsPatient
  interest :
    origin.unasked → session.outgoing = none →
      session.transport.writeInterest = false
  conserves :
    Conserves origin session.transport.outbound session.transport.inbound
      session.journal session.unsent session.held

/-- What remains true of a session that goes no further. -/
structure Leaves (origin : Origin) (session : Session SaslClient) : Prop where
  script : ∃ point, Script origin.exchange point session.journal
  conserves :
    ∃ unsent held,
      Conserves origin session.transport.outbound session.transport.inbound
        session.journal unsent held

/-- The failure with which a session stops, given the bytes it leaves. -/
inductive Stops (origin : Origin) (point : Point) (journal : List Event) :
    Bytes → Bytes → SessionError → Prop where
  | refused {held : Bytes} {cause : SessionError}
      (refuses : origin.exchange.Refuses point journal held cause) :
      Stops origin point journal [] held cause
  /-- The transport has failed, as a patient one does not. -/
  | broken {unsent held : Bytes} {cause : SessionError}
      (impatient : ¬ origin.patient)
      (busy :
        point.activity.isWriting = true ∨ point.activity.isAwaiting = true)
      (isFailure :
        ∃ failure,
          cause = .ofIo origin.exchange.node failure ∨
            cause = .invalidSaslResponse (.io failure)) :
      Stops origin point journal unsent held cause

/-- What is true of a session that has thrown a failure. -/
def Throws (origin : Origin) (cause : SessionError)
    (session : Session SaslClient) : Prop :=
  ∃ point unsent held,
    Script origin.exchange point session.journal ∧
      Conserves origin session.transport.outbound session.transport.inbound
        session.journal unsent held ∧
      Stops origin point session.journal unsent held cause

variable {origin : Origin} {session : Session SaslClient} {point : Point}

theorem Throws.leaves {cause : SessionError}
    (throws : Throws origin cause session) : Leaves origin session := by
  obtain ⟨point, unsent, held, script, conserves, -⟩ := throws
  exact ⟨⟨point, script⟩, unsent, held, conserves⟩

theorem Tracks.leaves (tracks : Tracks origin session point) :
    Leaves origin session :=
  ⟨⟨point, tracks.script⟩, ⟨_, _, tracks.conserves⟩⟩

/-- A session that is not writing has nothing unsent. -/
theorem Tracks.outgoing_eq_none (tracks : Tracks origin session point)
    (notWriting : point.activity.isWriting = false) :
    session.outgoing = none := by
  have absent := tracks.outgoing
  rw [notWriting] at absent
  exact Option.isSome_eq_false_iff.mp absent |> Option.isNone_iff_eq_none.mp

theorem Tracks.unsent_eq_nil (tracks : Tracks origin session point)
    (notWriting : point.activity.isWriting = false) : session.unsent = [] := by
  rw [unsent, tracks.outgoing_eq_none notWriting]
  rfl

theorem reads_none {activity : Activity} : Reads origin none activity := by
  rintro _ ⟨⟩

/-- A session that awaits nothing is not reading a frame. -/
theorem Tracks.incoming_eq_none (tracks : Tracks origin session point)
    (notAwaiting : point.activity.isAwaiting = false) :
    session.incoming = none := by
  cases reading : session.incoming with
  | none =>
      rfl
  | some incoming =>
      cases notAwaiting.symm.trans (tracks.reading incoming reading).2

theorem Tracks.reads (tracks : Tracks origin session point)
    (notAwaiting : point.activity.isAwaiting = false) (activity : Activity) :
    Reads origin session.incoming activity := by
  rw [tracks.incoming_eq_none notAwaiting]
  exact reads_none

theorem Tracks.held_eq_nil (tracks : Tracks origin session point)
    (notAwaiting : point.activity.isAwaiting = false) : session.held = [] := by
  rw [held, tracks.incoming_eq_none notAwaiting]
  rfl

/-- A refusal between two frames leaves no bytes behind. -/
theorem Tracks.throws {cause : SessionError}
    (tracks : Tracks origin session point)
    (notWriting : point.activity.isWriting = false)
    (notAwaiting : point.activity.isAwaiting = false)
    (refuses :
      origin.exchange.Refuses point session.journal [] cause) :
    Throws origin cause session := by
  have conserves := tracks.conserves
  rw [tracks.unsent_eq_nil notWriting, tracks.held_eq_nil notAwaiting]
    at conserves
  exact ⟨point, [], [], tracks.script, conserves, .refused refuses⟩

/-- Events other than frames made and taken do not concern the bytes. -/
theorem Conserves.append {outbound inbound unsent held : Bytes}
    {journal : List Event} {event : Event}
    (conserves : Conserves origin outbound inbound journal unsent held)
    (noFrame : event.framing? = none) (noPayload : event.payload? = none)
    (flushed : unsent = []) :
    Conserves origin outbound inbound (journal ++ [event]) unsent held := by
  have sameFrames : frames (journal ++ [event]) = frames journal := by
    rw [frames_append, frames_singleton, noFrame]
    exact List.append_nil _
  have samePayloads : payloads (journal ++ [event]) = payloads journal := by
    rw [payloads_append, payloads_singleton, noPayload]
    exact List.append_nil _
  constructor
  · rw [sameFrames]
    exact conserves.sent
  · exact Or.inl flushed
  · rw [samePayloads]
    exact conserves.received
  · rw [samePayloads]
    exact conserves.takes

/-! ## Stages -/

/-- A change of stage leaves a session at its point. -/
theorem Tracks.setStage (tracks : Tracks origin session point)
    (stage : Stage) : Tracks origin (session.setStage stage) point := by
  unfold Session.setStage
  split
  · exact { tracks with }
  · dsimp only
    split
    · exact
        { tracks with
          patient := fun patient => { tracks.patient patient with }
          interest := fun _ _ => rfl }
    · exact { tracks with }

/-- Without a frame being written a change of stage is made at once. -/
theorem stage_setStage {Client : Type} {session : Session Client}
    (idle : session.outgoing = none) (stage : Stage) :
    (session.setStage stage).stage = stage ∧
      (session.setStage stage).pending = none := by
  simp only [Session.setStage, idle]
  split
  · next isSome =>
      cases isSome
  · split
    · exact ⟨rfl, rfl⟩
    · exact ⟨rfl, rfl⟩

/-- Nothing is to be written once a session is complete. -/
theorem writeInterest_setStage_complete {Client : Type}
    {session : Session Client} (idle : session.outgoing = none) :
    (session.setStage .complete).transport.writeInterest = false := by
  simp only [Session.setStage, idle]
  rfl

/-- While a frame is being written a change of stage is kept pending. -/
theorem stage_setStage_of_writing {Client : Type} {session : Session Client}
    (busy : session.outgoing.isSome = true) (stage : Stage) :
    (session.setStage stage).stage = session.stage ∧
      (session.setStage stage).pending = some stage := by
  simp only [Session.setStage, busy]
  exact ⟨rfl, rfl⟩

/-- A handler that leaves the stage as it is. -/
def Stays (session later : Session SaslClient) : Prop :=
  later.stage = session.stage ∧ later.pending = session.pending

end BrokerSession.Session
