import BrokerSession.Channel.FrameBuffer
import BrokerSession.Proofs.Channel.Frame

namespace BrokerSession

/-!
# Frames out of a stream

A stream arrives in pieces, and after each piece frames are cut off for as long
as one is whole.  The frames depend on the stream alone and not on where it was
cut into pieces: an unfinished frame waits in the buffer as it is, and a size
out of range stays in front of everything that follows it.
-/

namespace FrameCodec

/-- Whether a codec makes frames of a payload. -/
def admits (codec : FrameCodec) (payload : Bytes) : Bool :=
  payload.length ≤ codec.maxSize ∧ payload.length ≤ maxFrameSize

/-- The failure of a frame whose size is out of range. -/
def refusal (codec : FrameCodec) (size : Int32) : IoError where
  kind := .invalidData
  message := s!"Invalid frame size {size.toInt} (maximum {codec.maxSize})"

theorem takes_of_admits {codec : FrameCodec} {payload : Bytes}
    (admitted : codec.admits payload) : codec.Takes payload := by
  have bounds := of_decide_eq_true admitted
  exact takes_of_le bounds.1 bounds.2

/-- A size in front is announced if it is in range, and refused if it is not. -/
theorem peekSize_ofInt32_append (codec : FrameCodec) (size : Int32)
    (others : Bytes) :
    codec.peekSize (Bytes.ofInt32 size ++ others) =
      if size.toInt < 0 ∨ codec.maxSize < size.toInt then
        .error (codec.refusal size)
      else .ok (some size.toInt.toNat) := by
  have head :
      (Bytes.ofInt32 size ++ others).take frameHeadLength =
        Bytes.ofInt32 size :=
    List.take_left' (Bytes.length_ofInt32 size)
  have outOfRange :
      (size < 0 ∨ codec.maxSize < size.toNatClampNeg) ↔
        (size.toInt < 0 ∨ codec.maxSize < size.toInt) :=
    or_congr Int32.lt_iff_toInt_lt Int.lt_toNat
  simp only [peekSize, head, Bytes.length_ofInt32, Bytes.toInt32_ofInt32,
    outOfRange]
  rfl

theorem decode_of_outOfRange {codec : FrameCodec} {size : Int32}
    (outOfRange : size.toInt < 0 ∨ codec.maxSize < size.toInt)
    (others : Bytes) :
    codec.decode (Bytes.ofInt32 size ++ others) =
      .error (codec.refusal size) := by
  rw [decode_eq_error_iff, peekSize_ofInt32_append, if_pos outOfRange]

end FrameCodec

namespace FrameBuffer

/-! ## Single steps -/

/-- A buffer after frames were cut off its front, counting what it was fed. -/
structure Yields (before : FrameBuffer) (entered : Bytes)
    (payloads : List Bytes) (after : FrameBuffer) : Prop where
  codec : after.codec = before.codec
  takes : ∀ payload ∈ payloads, before.codec.Takes payload
  bytes :
    before.bytes ++ entered =
      (payloads.map FrameCodec.frame).flatten ++ after.bytes

namespace Yields

theorem nothing (buffer : FrameBuffer) : buffer.Yields [] [] buffer :=
  ⟨rfl, nofun, List.append_nil _⟩

theorem fed (buffer : FrameBuffer) (arriving : Bytes) :
    buffer.Yields arriving [] (buffer.feed arriving) :=
  ⟨rfl, nofun, rfl⟩

theorem trans {before between after : FrameBuffer} {entered others : Bytes}
    {payloads later : List Bytes}
    (yields : before.Yields entered payloads between)
    (goesOn : between.Yields others later after) :
    before.Yields (entered ++ others) (payloads ++ later) after where
  codec := goesOn.codec.trans yields.codec
  takes := by
    intro payload member
    rcases List.mem_append.mp member with isEarlier | isLater
    · exact yields.takes payload isEarlier
    · exact yields.codec ▸ goesOn.takes payload isLater
  bytes := by
    rw [← List.append_assoc, yields.bytes, List.append_assoc, goesOn.bytes,
      List.map_append, List.flatten_append, List.append_assoc]

end Yields

/-- The payload of a step that cut a frame off. -/
def yielded : Except IoError (Option Bytes) → List Bytes
  | .ok (some payload) => [payload]
  | _ => []

/-- A frame that is cut off stood at the front of the buffer. -/
theorem yields_decode (buffer : FrameBuffer) :
    buffer.Yields [] (yielded buffer.decode.1) buffer.decode.2 := by
  rw [decode]
  split
  · next payload rest decoded =>
      refine ⟨rfl, ?_, ?_⟩
      · exact List.forall_mem_singleton.mpr (FrameCodec.takes_of_decode decoded)
      · simpa [yielded] using (FrameCodec.decode_eq_some decoded).2
  · exact .nothing buffer
  · exact .nothing buffer

/-- A frame is cut off whatever follows it. -/
theorem decode_frame_append {codec : FrameCodec} {payload : Bytes}
    (takes : codec.Takes payload) (rest : Bytes) :
    decode ⟨codec, FrameCodec.frame payload ++ rest⟩ =
      (.ok (some payload), ⟨codec, rest⟩) := by
  rw [decode, takes.decode_eq rest]

/-- Without a frame nothing is cut off. -/
theorem decode_eq_self {buffer later : FrameBuffer}
    {outcome : Except IoError (Option Bytes)}
    (tried : buffer.decode = (outcome, later))
    (nothing : yielded outcome = []) : later = buffer := by
  rw [decode] at tried
  split at tried <;> cases tried
  · cases nothing
  · rfl
  · rfl

/-- The codec of the buffer decides whether a payload is framed at its end. -/
theorem encode_eq (buffer : FrameBuffer) (payload : Bytes) :
    buffer.encode payload =
      if buffer.codec.admits payload then
        (.ok (), buffer.feed (FrameCodec.frame payload))
      else
        (.error
          { kind := .invalidInput
            message :=
              s!"Frame of {payload.length} bytes exceeds maximum size" },
          buffer) := by
  rw [encode, FrameCodec.encode]
  by_cases fits :
      payload.length ≤ buffer.codec.maxSize ∧ payload.length ≤ maxFrameSize
  · simp [FrameCodec.admits, FrameCodec.frame, fits]
  · simp only [FrameCodec.admits, fits, if_false, decide_false,
      Bool.false_eq_true]

/-! ## Cutting off all that is whole -/

/-- Payloads that were cut off, and how the last cut ended. -/
structure Drained where
  payloads : List Bytes
  /-- Why the last cut yielded no frame, unless the frame was unfinished. -/
  failure : Option IoError
  left : FrameBuffer
  deriving Repr, DecidableEq

/-- The same behind payloads that were cut off before. -/
def Drained.after (drained : Drained) (earlier : List Bytes) : Drained :=
  { drained with payloads := earlier ++ drained.payloads }

@[simp] theorem Drained.after_after (drained : Drained)
    (first second : List Bytes) :
    (drained.after second).after first = drained.after (first ++ second) := by
  simp [Drained.after]

/-- Cut frames off until none comes. -/
def drain (buffer : FrameBuffer) : Drained :=
  match _cut : buffer.decode with
  | (.ok (some payload), later) => later.drain.after [payload]
  | (.ok none, later) => ⟨[], none, later⟩
  | (.error failure, later) => ⟨[], some failure, later⟩
termination_by buffer.bytes.length
decreasing_by
  have yields := buffer.yields_decode
  rw [_cut] at yields
  have lengths := congrArg List.length yields.bytes
  simp only [yielded, List.map_cons, List.map_nil, List.flatten_cons,
    List.flatten_nil, List.append_nil, List.length_append,
    FrameCodec.length_frame, frameHeadLength] at lengths
  omega

/-- Cutting goes on behind a frame and ends without one. -/
theorem drain_eq (buffer : FrameBuffer) :
    buffer.drain =
      match buffer.decode with
      | (.ok (some payload), later) => later.drain.after [payload]
      | (.ok none, later) => ⟨[], none, later⟩
      | (.error failure, later) => ⟨[], some failure, later⟩ := by
  rw [drain]
  split
  · next cut => rw [cut]
  · next tried => rw [tried]
  · next tried => rw [tried]

/-- There is nothing to cut off an empty buffer. -/
theorem drain_empty (codec : FrameCodec) :
    drain { codec } = ⟨[], none, { codec }⟩ := by
  rw [drain_eq]
  rfl

/-- What is cut off and what is left make up the buffer. -/
theorem yields_drain (buffer : FrameBuffer) :
    buffer.Yields [] buffer.drain.payloads buffer.drain.left := by
  fun_induction drain buffer with
  | case1 buffer payload later cut inductionHypothesis =>
      have first := buffer.yields_decode
      rw [cut] at first
      exact first.trans inductionHypothesis
  | case2 buffer later tried =>
      cases decode_eq_self tried rfl
      exact .nothing buffer
  | case3 buffer failure later tried =>
      cases decode_eq_self tried rfl
      exact .nothing buffer

/-- Once no frame is whole, there is none to cut off. -/
theorem drain_left (buffer : FrameBuffer) :
    buffer.drain.left.drain = { buffer.drain with payloads := [] } := by
  fun_induction drain buffer with
  | case1 buffer payload later cut inductionHypothesis =>
      exact inductionHypothesis
  | case2 buffer later tried =>
      cases decode_eq_self tried rfl
      rw [drain_eq, tried]
  | case3 buffer failure later tried =>
      cases decode_eq_self tried rfl
      rw [drain_eq, tried]

/-- A row of whole frames is cut off before what follows it. -/
theorem drain_frames_append {codec : FrameCodec} {payloads : List Bytes}
    (takes : ∀ payload ∈ payloads, codec.Takes payload) (rest : Bytes) :
    drain ⟨codec, (payloads.map FrameCodec.frame).flatten ++ rest⟩ =
      (drain ⟨codec, rest⟩).after payloads := by
  induction payloads with
  | nil =>
      rfl
  | cons payload others inductionHypothesis =>
      obtain ⟨takesFirst, takesOthers⟩ := List.forall_mem_cons.mp takes
      rw [List.map_cons, List.flatten_cons, List.append_assoc, drain_eq,
        decode_frame_append takesFirst]
      simp only [inductionHypothesis takesOthers, Drained.after_after]
      rfl

/-- Cutting frames off early changes nothing about those that come later. -/
theorem Yields.drain_feed {before after : FrameBuffer} {entered : Bytes}
    {payloads : List Bytes} (yields : before.Yields entered payloads after) :
    (before.feed entered).drain = after.drain.after payloads := by
  have made :
      before.feed entered =
        ⟨before.codec,
          (payloads.map FrameCodec.frame).flatten ++ after.bytes⟩ := by
    rw [feed, yields.bytes]
  rw [made, drain_frames_append yields.takes, ← yields.codec]

/-! ## Streams in pieces -/

/-- A piece arrives, and every frame that is whole by then is cut off. -/
def Drained.feed (drained : Drained) (piece : Bytes) : Drained :=
  (drained.left.feed piece).drain.after drained.payloads

/-- A stream arrives piece by piece at an empty buffer. -/
def feedAll (codec : FrameCodec) (pieces : List Bytes) : Drained :=
  pieces.foldl Drained.feed ⟨[], none, { codec }⟩

/-- Pieces that follow have the effect of their bytes together. -/
theorem Drained.foldl_feed {drained : Drained} (pieces : List Bytes)
    (isDrained : drained.left.drain = { drained with payloads := [] }) :
    pieces.foldl Drained.feed drained = drained.feed pieces.flatten := by
  induction pieces generalizing drained with
  | nil =>
      have unfed : drained.left.feed [] = drained.left := by
        simp only [FrameBuffer.feed, List.append_nil]
      simp [Drained.feed, unfed, isDrained, Drained.after]
  | cons piece others inductionHypothesis =>
      have isDrainedNow :
          (drained.feed piece).left.drain =
            { drained.feed piece with payloads := [] } :=
        drain_left (drained.left.feed piece)
      have earlier :=
        ((drained.left.feed piece).yields_drain.trans
          (.fed _ others.flatten)).drain_feed
      rw [List.nil_append, List.append_nil] at earlier
      have regrouped :
          drained.left.feed (piece ++ others.flatten) =
            (drained.left.feed piece).feed others.flatten := by
        simp only [FrameBuffer.feed, List.append_assoc]
      rw [List.foldl_cons, inductionHypothesis isDrainedNow]
      simp only [Drained.feed, List.flatten_cons, regrouped, earlier,
        Drained.after_after]
      rfl

/-- Only the stream matters, not the pieces in which it arrives. -/
theorem feedAll_eq_drain (codec : FrameCodec) (pieces : List Bytes) :
    feedAll codec pieces = drain { codec, bytes := pieces.flatten } := by
  rw [feedAll, Drained.foldl_feed pieces (drain_empty codec)]
  rfl

/-! ## Steps in any order -/

/-- The bytes that a step adds to a buffer; a refused payload adds none. -/
def Step.entering (codec : FrameCodec) : Step → Bytes
  | .feed arriving => arriving
  | .decode => []
  | .encode payload =>
      if codec.admits payload then FrameCodec.frame payload else []

/-- The bytes that a row of steps adds to a buffer. -/
def entering (codec : FrameCodec) (steps : List Step) : Bytes :=
  (steps.map (Step.entering codec)).flatten

/-- The payloads that a row of steps yields, and the buffer that it leaves. -/
def run (buffer : FrameBuffer) : List Step → List Bytes × FrameBuffer
  | [] => ([], buffer)
  | step :: others =>
      let (outcome, next) := buffer.perform step
      let (later, left) := next.run others
      (yielded outcome ++ later, left)

theorem yields_perform (buffer : FrameBuffer) (step : Step) :
    buffer.Yields (step.entering buffer.codec)
      (yielded (buffer.perform step).1) (buffer.perform step).2 := by
  cases step with
  | feed arriving =>
      exact .fed buffer arriving
  | decode =>
      exact buffer.yields_decode
  | encode payload =>
      simp only [perform, encode_eq, Step.entering]
      split
      · exact .fed buffer (FrameCodec.frame payload)
      · exact .nothing buffer

/-- No run loses a byte or makes one up. -/
theorem yields_run (buffer : FrameBuffer) (steps : List Step) :
    buffer.Yields (entering buffer.codec steps) (buffer.run steps).1
      (buffer.run steps).2 := by
  induction steps generalizing buffer with
  | nil =>
      exact .nothing buffer
  | cons step others inductionHypothesis =>
      have first := buffer.yields_perform step
      have later := inductionHypothesis (buffer.perform step).2
      rw [first.codec] at later
      exact first.trans later

/-! ## Sizes out of range -/

/-- Whether the size at the front of a buffer is out of range. -/
structure IsRefused (buffer : FrameBuffer) (size : Int32) : Prop where
  front : Bytes.ofInt32 size <+: buffer.bytes
  outOfRange : size.toInt < 0 ∨ buffer.codec.maxSize < size.toInt

theorem IsRefused.decode_eq {buffer : FrameBuffer} {size : Int32}
    (refused : buffer.IsRefused size) :
    buffer.decode = (.error (buffer.codec.refusal size), buffer) := by
  obtain ⟨others, isFront⟩ := refused.front
  rw [decode, ← isFront,
    FrameCodec.decode_of_outOfRange refused.outOfRange others]

/-- Every step leaves a size that is refused at the front. -/
theorem IsRefused.perform {buffer : FrameBuffer} {size : Int32}
    (refused : buffer.IsRefused size) (step : Step) :
    yielded (buffer.perform step).1 = [] ∧
      (buffer.perform step).2.IsRefused size := by
  have yields := buffer.yields_perform step
  have nothing : yielded (buffer.perform step).1 = [] := by
    cases step with
    | feed arriving =>
        rfl
    | decode =>
        rw [FrameBuffer.perform, refused.decode_eq]
        rfl
    | encode payload =>
        simp only [FrameBuffer.perform, encode_eq]
        split <;> rfl
  rw [nothing] at yields
  refine ⟨nothing, ?_, ?_⟩
  · have grown : buffer.bytes <+: (buffer.perform step).2.bytes :=
      ⟨_, yields.bytes⟩
    exact refused.front.trans grown
  · rw [yields.codec]
    exact refused.outOfRange

theorem IsRefused.run {buffer : FrameBuffer} {size : Int32}
    (refused : buffer.IsRefused size) (steps : List Step) :
    (buffer.run steps).1 = [] ∧ (buffer.run steps).2.IsRefused size := by
  induction steps generalizing buffer with
  | nil =>
      exact ⟨rfl, refused⟩
  | cons step others inductionHypothesis =>
      obtain ⟨nothing, stillRefused⟩ := refused.perform step
      obtain ⟨nothingLater, refusedLater⟩ := inductionHypothesis stillRefused
      refine ⟨?_, refusedLater⟩
      exact List.append_eq_nil_iff.mpr ⟨nothing, nothingLater⟩

/-! ## Frames of the codec itself -/

/-- Frame payloads one after the other, as far as they are admitted. -/
def encodeAll (codec : FrameCodec) (payloads : List Bytes) : FrameBuffer :=
  payloads.foldl (fun buffer payload => (buffer.encode payload).2) { codec }

theorem foldl_encode (buffer : FrameBuffer) (payloads : List Bytes) :
    payloads.foldl (fun buffer payload => (buffer.encode payload).2) buffer =
      buffer.feed
        ((payloads.filter buffer.codec.admits).map FrameCodec.frame).flatten
      := by
  induction payloads generalizing buffer with
  | nil =>
      simp [feed]
  | cons payload others inductionHypothesis =>
      rw [List.foldl_cons, inductionHypothesis, encode_eq]
      by_cases admitted : buffer.codec.admits payload
      · simp [admitted, feed]
      · simp [admitted]

/-- Payloads come back from their frames, however these are cut. -/
theorem feedAll_encodeAll {codec : FrameCodec} {payloads pieces : List Bytes}
    (cut : pieces.flatten = (encodeAll codec payloads).bytes) :
    feedAll codec pieces =
      ⟨payloads.filter codec.admits, none, { codec }⟩ := by
  have takes : ∀ payload ∈ payloads.filter codec.admits, codec.Takes payload :=
    fun payload member =>
      FrameCodec.takes_of_admits (List.mem_filter.mp member).2
  rw [feedAll_eq_drain, cut, encodeAll, foldl_encode]
  have behind := drain_frames_append takes []
  rw [List.append_nil] at behind
  rw [feed, List.nil_append, behind, drain_empty, Drained.after,
    List.append_nil]

/--
Frames do not depend on how their stream is cut.

Pieces that arrive one after the other yield the payloads, the buffer and the
last outcome of the stream as a whole.  After them, and after every run of
steps, what was cut off and what is left make up what was added.  A size out of
range stays in front of whatever follows and makes every cut fail.  A codec
frames exactly the payloads that it admits, and these come back from their
frames.
-/
theorem frames_ignore_cuts (codec : FrameCodec) :
    (∀ pieces : List Bytes,
      feedAll codec pieces = feedAll codec [pieces.flatten] ∧
        pieces.flatten =
          ((feedAll codec pieces).payloads.map FrameCodec.frame).flatten ++
            (feedAll codec pieces).left.bytes) ∧
    (∀ steps,
      entering codec steps =
        ((run { codec } steps).1.map FrameCodec.frame).flatten ++
          (run { codec } steps).2.bytes) ∧
    (∀ (size : Int32) (others : Bytes) (steps : List Step),
      (size.toInt < 0 ∨ codec.maxSize < size.toInt) →
        let (payloads, left) := run ⟨codec, Bytes.ofInt32 size ++ others⟩ steps
        payloads = [] ∧
          left.bytes =
            Bytes.ofInt32 size ++ others ++ entering codec steps ∧
          left.decode = (.error (codec.refusal size), left)) ∧
    (∀ held payload : Bytes,
      encode ⟨codec, held⟩ payload =
        if payload.length ≤ codec.maxSize ∧ payload.length ≤ maxFrameSize then
          (.ok (), ⟨codec, held ++ FrameCodec.frame payload⟩)
        else
          (.error
            { kind := .invalidInput
              message :=
                s!"Frame of {payload.length} bytes exceeds maximum size" },
            ⟨codec, held⟩)) ∧
    (∀ payloads pieces : List Bytes,
      pieces.flatten = (encodeAll codec payloads).bytes →
        feedAll codec pieces =
          ⟨payloads.filter codec.admits, none, { codec }⟩) := by
  refine ⟨?_, ?_, ?_, ?_, fun _ _ => feedAll_encodeAll⟩
  · intro pieces
    rw [feedAll_eq_drain, feedAll_eq_drain, List.flatten_singleton]
    have kept := (yields_drain { codec, bytes := pieces.flatten }).bytes
    rw [List.append_nil] at kept
    exact ⟨rfl, kept⟩
  · intro steps
    exact (yields_run { codec } steps).bytes
  · intro size others steps outOfRange
    have refused : IsRefused ⟨codec, Bytes.ofInt32 size ++ others⟩ size :=
      ⟨List.prefix_append _ _, outOfRange⟩
    have yields := yields_run ⟨codec, Bytes.ofInt32 size ++ others⟩ steps
    obtain ⟨nothing, refusedLater⟩ := refused.run steps
    have sameCodec := yields.codec
    have grown := yields.bytes
    rw [nothing] at grown
    refine ⟨nothing, grown.symm, ?_⟩
    rw [refusedLater.decode_eq, sameCodec]
  · intro held payload
    rw [encode_eq]
    simp only [FrameCodec.admits, decide_eq_true_eq]
    rfl

/-- A stream of frames of at most five bytes, cut in a head and in a payload. -/
theorem frames_ignore_cuts_of_five :
    feedAll ⟨5⟩ [[0, 0], [0, 2, 104], [105, 0]] =
        feedAll ⟨5⟩ [[0, 0, 0, 2, 104, 105, 0]] ∧
      ((6 : Int32).toInt < 0 ∨ ((5 : Nat) : Int) < (6 : Int32).toInt) ∧
      (run ⟨⟨5⟩, [0, 0, 0, 6]⟩ [.feed [1], .decode, .feed [2]]).2.decode =
        (.error (FrameCodec.refusal ⟨5⟩ 6), ⟨⟨5⟩, [0, 0, 0, 6, 1, 2]⟩) ∧
      [[0, 0, 0], [2, 104], [105, 0, 0, 0, 0]].flatten =
        (encodeAll ⟨5⟩ [[104, 105], [1, 2, 3, 4, 5, 6], []]).bytes ∧
      feedAll ⟨5⟩ [[0, 0, 0], [2, 104], [105, 0, 0, 0, 0]] =
        ⟨[[104, 105], []], none, ⟨⟨5⟩, []⟩⟩ := by
  obtain ⟨cutAnywhere, -, refuses, -, comeBack⟩ := frames_ignore_cuts ⟨5⟩
  have outOfRange :
      (6 : Int32).toInt < 0 ∨ ((5 : Nat) : Int) < (6 : Int32).toInt := by
    decide
  have framed :
      [[0, 0, 0], [2, 104], [105, 0, 0, 0, 0]].flatten =
        (encodeAll ⟨5⟩ [[104, 105], [1, 2, 3, 4, 5, 6], []]).bytes := by
    rfl
  exact ⟨(cutAnywhere _).1, outOfRange,
    (refuses 6 [] [.feed [1], .decode, .feed [2]] outOfRange).2.2, framed,
    comeBack _ _ framed⟩

end FrameBuffer

end BrokerSession
