import BrokerSession.Channel.Frame
import BrokerSession.Proofs.Bytes
import BrokerSession.Proofs.Computation

namespace BrokerSession.FrameCodec

/-!
# The shape of a frame

What a codec makes is the size of a payload followed by the payload, and what
it cuts off the front of a buffer has had this shape.
-/

/-- A payload behind its four-byte size. -/
def frame (payload : Bytes) : Bytes :=
  Bytes.bigEndian frameHeadLength payload.length ++ payload

@[simp] theorem length_frame (payload : Bytes) :
    (frame payload).length = frameHeadLength + payload.length := by
  simp [frame]

/-- No frame is empty, because its size is a part of it. -/
theorem frame_ne_nil (payload : Bytes) : frame payload ≠ [] := by
  intro empty
  have length := length_frame payload
  rw [empty, List.length_nil, frameHeadLength] at length
  omega

/-- A codec frames exactly the payloads whose size it admits. -/
theorem encode_eq_ok_iff {codec : FrameCodec} {payload framed : Bytes} :
    codec.encode payload = .ok framed ↔
      payload.length ≤ codec.maxSize ∧ payload.length ≤ maxFrameSize ∧
        framed = frame payload := by
  rw [encode]
  by_cases fits : payload.length ≤ codec.maxSize ∧ payload.length ≤ maxFrameSize
  · simp [fits, frame, eq_comm]
  · rw [if_neg fits]
    constructor
    · intro encoded
      cases encoded
    · rintro ⟨belowMax, belowLargest, -⟩
      exact (fits ⟨belowMax, belowLargest⟩).elim

/-- A size is announced by the first four bytes. -/
theorem peekSize_eq_some {codec : FrameCodec} {buffer : Bytes} {size : Nat}
    (peeked : codec.peekSize buffer = .ok (some size)) :
    frameHeadLength ≤ buffer.length ∧
      buffer.take frameHeadLength = Bytes.bigEndian frameHeadLength size := by
  simp only [peekSize] at peeked
  split at peeked
  · cases peeked
  · next enough =>
      split at peeked
      · cases peeked
      · next inRange =>
          cases peeked
          have sized : (buffer.take frameHeadLength).length = 4 := by
            rw [List.length_take, frameHeadLength] at enough ⊢
            omega
          have nonneg : 0 ≤ Bytes.toInt32 (buffer.take frameHeadLength) := by
            have notNegative := (not_or.mp inRange).1
            simpa using notNegative
          refine ⟨?_, ?_⟩
          · rw [List.length_take] at enough
            omega
          · have written := Bytes.ofInt32_of_nonneg nonneg
            rw [Bytes.ofInt32_toInt32 sized] at written
            exact written

/-- Without a size the head is incomplete. -/
theorem peekSize_eq_none {codec : FrameCodec} {buffer : Bytes}
    (peeked : codec.peekSize buffer = .ok none) :
    buffer.length < frameHeadLength := by
  simp only [peekSize] at peeked
  split at peeked
  · next short =>
      rw [List.length_take] at short
      omega
  · split at peeked <;> cases peeked

/-- A size that is announced stays announced while more bytes arrive. -/
theorem peekSize_append {codec : FrameCodec} {buffer : Bytes}
    (enough : frameHeadLength ≤ buffer.length) (arriving : Bytes) :
    codec.peekSize (buffer ++ arriving) = codec.peekSize buffer := by
  rw [peekSize, peekSize, List.take_append_of_le_length enough]

/-- A payload is cut off behind the size that the buffer announces. -/
theorem decode_eq_some {codec : FrameCodec} {buffer payload rest : Bytes}
    (decoded : codec.decode buffer = .ok (some (payload, rest))) :
    codec.peekSize buffer = .ok (some payload.length) ∧
      buffer = frame payload ++ rest := by
  obtain ⟨size?, peeked, cut⟩ := except_bind_eq_ok_iff.mp decoded
  cases size? with
  | none =>
      cases cut
  | some size =>
      simp only at cut
      split at cut
      · cases cut
      · next enough =>
          cases cut
          have head := (peekSize_eq_some peeked).2
          have sized :
              ((buffer.drop frameHeadLength).take size).length = size := by
            rw [List.length_take] at enough ⊢
            omega
          rw [sized]
          refine ⟨peeked, ?_⟩
          rw [frame, sized, ← head, List.append_assoc, List.take_append_drop,
            List.take_append_drop]

/-- Cutting fails exactly if the announced size is refused. -/
theorem decode_eq_error_iff {codec : FrameCodec} {buffer : Bytes}
    {failure : IoError} :
    codec.decode buffer = .error failure ↔
      codec.peekSize buffer = .error failure := by
  rw [decode]
  cases codec.peekSize buffer with
  | error other =>
      simp [bind, Except.bind]
  | ok size? =>
      cases size? with
      | none =>
          constructor <;> (intro failed; cases failed)
      | some size =>
          simp only [bind, Except.bind]
          split <;> constructor <;> (intro failed; cases failed)

/-- Only a size that is there can be refused. -/
theorem peekSize_eq_error {codec : FrameCodec} {buffer : Bytes}
    {failure : IoError} (refused : codec.peekSize buffer = .error failure) :
    frameHeadLength ≤ buffer.length ∧ failure.kind = .invalidData := by
  simp only [peekSize] at refused
  split at refused
  · cases refused
  · next enough =>
      split at refused
      · cases refused
        refine ⟨?_, rfl⟩
        rw [List.length_take] at enough
        omega
      · cases refused

/-! ## Frames in a row -/

/-- Whether a codec takes a payload that comes behind its own size. -/
def Takes (codec : FrameCodec) (payload : Bytes) : Prop :=
  codec.peekSize (frame payload) = .ok (some payload.length)

/-- A codec takes what it admits, if the size can be announced. -/
theorem takes_of_le {codec : FrameCodec} {payload : Bytes}
    (admitted : payload.length ≤ codec.maxSize)
    (fits : payload.length ≤ maxFrameSize) : codec.Takes payload := by
  have bound : payload.length < 2 ^ 31 := by
    rw [maxFrameSize] at fits
    omega
  have head :
      (frame payload).take frameHeadLength =
        Bytes.ofInt32 (.ofNat payload.length) := by
    rw [Bytes.ofInt32_ofNat bound, frame]
    exact List.take_left' (Bytes.length_bigEndian _ _)
  have isSize : (Int32.ofNat payload.length).toNatClampNeg = payload.length :=
    Int32.toNatClampNeg_ofNat_of_lt bound
  have nonneg : ¬ Int32.ofNat payload.length < 0 := by
    rw [Int32.lt_iff_toInt_lt, Int32.toInt_ofNat_of_lt bound]
    exact Int.not_lt.mpr (Int.natCast_nonneg _)
  simp only [Takes, peekSize, head, Bytes.length_ofInt32,
    Bytes.toInt32_ofInt32, isSize]
  rw [if_neg (by decide), if_neg]
  exact not_or.mpr ⟨nonneg, Nat.not_lt.mpr admitted⟩

/-- What was cut off a buffer is a payload that the codec takes. -/
theorem takes_of_decode {codec : FrameCodec} {buffer payload rest : Bytes}
    (decoded : codec.decode buffer = .ok (some (payload, rest))) :
    codec.Takes payload := by
  obtain ⟨peeked, rfl⟩ := decode_eq_some decoded
  rwa [peekSize_append (by rw [length_frame]; omega)] at peeked

/-- A frame is cut off whatever follows it. -/
theorem Takes.decode_eq {codec : FrameCodec} {payload : Bytes}
    (takes : codec.Takes payload) (rest : Bytes) :
    codec.decode (frame payload ++ rest) = .ok (some (payload, rest)) := by
  have peeked : codec.peekSize (frame payload ++ rest) =
      .ok (some payload.length) := by
    rw [peekSize_append (by rw [length_frame]; omega)]
    exact takes
  have body : (frame payload ++ rest).drop frameHeadLength = payload ++ rest := by
    rw [frame, List.append_assoc]
    exact List.drop_left' (Bytes.length_bigEndian _ _)
  rw [decode, peeked]
  simp [bind, Except.bind, body, pure, Except.pure]

/-- Two frames at the front of the same bytes are the same frame. -/
theorem Takes.eq_of_append_eq {codec : FrameCodec}
    {first second firstRest secondRest : Bytes}
    (takesFirst : codec.Takes first) (takesSecond : codec.Takes second)
    (same : frame first ++ firstRest = frame second ++ secondRest) :
    first = second ∧ firstRest = secondRest := by
  have decoded := takesFirst.decode_eq firstRest
  rw [same, takesSecond.decode_eq secondRest] at decoded
  cases decoded
  exact ⟨rfl, rfl⟩

/-- Of two rows of frames at the front of the same bytes one begins the other. -/
theorem prefix_or_prefix_of_flatten_eq {codec : FrameCodec}
    {first second : List Bytes} {firstRest secondRest : Bytes}
    (takesFirst : ∀ payload ∈ first, codec.Takes payload)
    (takesSecond : ∀ payload ∈ second, codec.Takes payload)
    (same :
      (first.map frame).flatten ++ firstRest =
        (second.map frame).flatten ++ secondRest) :
    first <+: second ∨ second <+: first := by
  induction first generalizing second with
  | nil =>
      exact Or.inl List.nil_prefix
  | cons payload others inductionHypothesis =>
      cases second with
      | nil =>
          exact Or.inr List.nil_prefix
      | cons other laterOthers =>
          simp only [List.map_cons, List.flatten_cons, List.append_assoc]
            at same
          obtain ⟨rfl, sameRest⟩ :=
            (takesFirst payload List.mem_cons_self).eq_of_append_eq
              (takesSecond other List.mem_cons_self) same
          have compared := inductionHypothesis
            (fun member isMember =>
              takesFirst member (List.mem_cons_of_mem payload isMember))
            (fun member isMember =>
              takesSecond member (List.mem_cons_of_mem payload isMember))
            sameRest
          simpa only [List.prefix_cons_inj] using compared

end BrokerSession.FrameCodec
