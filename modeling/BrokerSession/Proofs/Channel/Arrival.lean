import BrokerSession.Proofs.Channel.Feeding
import BrokerSession.Proofs.Channel.Patience

namespace BrokerSession

/-!
# How far a frame has arrived

A frame that is being received is not whole yet, or whole, or refused for its
size.  A read ends after a bounded number of passes, whatever the transport
answers, and leaves the frame in one of these conditions: a failure of the
transport takes no byte from the frame and adds none to it.
-/

namespace FrameCodec

/-- A codec takes exactly the payloads that it admits. -/
theorem takes_iff {codec : FrameCodec} {payload : Bytes} :
    codec.Takes payload ↔
      payload.length ≤ codec.maxSize ∧ payload.length ≤ maxFrameSize := by
  constructor
  · intro takes
    have enough : 4 ≤ (frame payload).length := by
      rw [length_frame, frameHeadLength]
      omega
    obtain ⟨size, others, shape⟩ := Bytes.exists_eq_ofInt32_append enough
    rw [Takes, shape, peekSize_ofInt32_append] at takes
    split at takes
    · cases takes
    · next inRange =>
        have isSize := Option.some.inj (Except.ok.inj takes)
        have bound := size.toInt_lt
        rw [maxFrameSize]
        omega
  · rintro ⟨admitted, fits⟩
    exact takes_of_le admitted fits

theorem decode_ofInt32_of_outOfRange {codec : FrameCodec} {size : Int32}
    (outOfRange : size.toInt < 0 ∨ codec.maxSize < size.toInt) :
    codec.decode (Bytes.ofInt32 size) = .error (codec.refusal size) := by
  have refuses := decode_of_outOfRange outOfRange []
  rw [List.append_nil] at refuses
  exact refuses

end FrameCodec

namespace Transport

/-- Whether a read yields what has arrived, as far as it was asked for. -/
structure IsUnhindered (transport : Transport) : Prop where
  unlimited : transport.readBudget = none
  unforced : transport.readOutcomes = []

theorem IsUnhindered.read {transport later : Transport}
    (unhindered : transport.IsUnhindered) {limit : Nat}
    {outcome : Except IoError Bytes}
    (readNow : transport.read limit = (outcome, later)) :
    later.IsUnhindered := by
  rw [Transport.read, unhindered.unforced] at readNow
  simp only [readInbound, admitted, unhindered.unlimited] at readNow
  split at readNow
  · obtain ⟨-, rfl⟩ := Prod.mk.inj readNow
    exact unhindered
  · split at readNow
    · obtain ⟨-, rfl⟩ := Prod.mk.inj readNow
      exact unhindered
    · obtain ⟨-, rfl⟩ := Prod.mk.inj readNow
      exact ⟨rfl, unhindered.unforced⟩

/-- Without budget and forced outcomes a read fails only for want of bytes. -/
theorem IsUnhindered.read_cases {transport later : Transport}
    (unhindered : transport.IsUnhindered) {limit : Nat} (positive : 0 < limit)
    {outcome : Except IoError Bytes}
    (readNow : transport.read limit = (outcome, later)) :
    (∃ taken, taken ≠ [] ∧ outcome = .ok taken) ∨ later.inbound = [] := by
  rw [Transport.read, unhindered.unforced] at readNow
  simp only [readInbound, admitted, unhindered.unlimited] at readNow
  split at readNow
  · next nothing =>
      obtain ⟨-, rfl⟩ := Prod.mk.inj readNow
      exact Or.inr (List.isEmpty_iff.mp nothing)
  · next something =>
      have nonempty : transport.inbound.take limit ≠ [] := by
        rw [List.isEmpty_iff] at something
        rw [Ne, List.take_eq_nil_iff]
        exact fun either => either.elim (Nat.ne_of_gt positive) something
      simp only [List.isEmpty_iff, nonempty, if_false] at readNow
      obtain ⟨rfl, rfl⟩ := Prod.mk.inj readNow
      exact Or.inl ⟨_, nonempty, rfl⟩

end Transport

namespace Incoming

/-! ## The end of the reading -/

/-- The reading loop, given up after a number of passes. -/
def readWithin :
    (passes : Nat) → Incoming → Nat → Transport →
      Option (Except IoError Nat × Incoming × Transport)
  | 0, _, _, _ => none
  | passes + 1, incoming, count, transport =>
      if incoming.isComplete then some (.ok count, incoming, transport)
      else
        match incoming.needed with
        | .error failure => some (.error failure, incoming, transport)
        | .ok needed =>
            match transport.read needed with
            | (.ok taken, later) =>
                if taken = [] then
                  some (.error incoming.endOfStream, incoming, later)
                else
                  let grown :=
                    { incoming with buffer := incoming.buffer ++ taken }
                  match grown.codec.decode grown.buffer with
                  | .error failure => some (.error failure, grown, later)
                  | .ok none =>
                      readWithin passes grown (count + taken.length) later
                  | .ok (some (payload, rest)) =>
                      some (.ok (count + taken.length),
                        { grown with buffer := rest, payload := some payload },
                        later)
            | (.error failure, later) =>
                if failure.kind = .interrupted then
                  readWithin passes incoming count later
                else if failure.kind = .wouldBlock then
                  some (.ok count, incoming, later)
                else
                  some (.error failure, incoming, later)

/-- Every pass but the last uses up a forced outcome or a byte. -/
theorem readWithin_eq_some (incoming : Incoming) (count : Nat)
    (transport : Transport) :
    ∀ passes, transport.readWork ≤ passes →
      readWithin (passes + 1) incoming count transport =
        some (incoming.readAfter count transport) := by
  fun_induction Incoming.readAfter incoming count transport with
  | case1 incoming count transport complete =>
      intro passes _
      rw [readWithin, if_pos complete]
  | case2 incoming count transport incomplete failure refused =>
      intro passes _
      rw [readWithin, if_neg incomplete, refused]
  | case3 incoming count transport incomplete needed asked later outcome =>
      intro passes _
      simp only [readWithin, if_neg incomplete, asked, outcome, if_true]
  | case4 incoming count transport incomplete needed asked taken later outcome
      nonempty grown failure refused =>
      intro passes _
      simp only [readWithin, if_neg incomplete, asked, outcome,
        if_neg nonempty]
      rw [refused]
  | case5 incoming count transport incomplete needed asked taken later outcome
      nonempty grown undecided inductionHypothesis =>
      intro passes enough
      -- A pass that goes on leaves less work, so one pass less is enough.
      have less := Transport.readWork_read_of_ok outcome nonempty
      obtain ⟨others, rfl⟩ : ∃ others, passes = others + 1 :=
        ⟨passes - 1, by omega⟩
      rw [readWithin]
      simp only [if_neg incomplete, asked, outcome, if_neg nonempty]
      rw [undecided]
      exact inductionHypothesis others (by omega)
  | case6 incoming count transport incomplete needed asked taken later outcome
      nonempty grown payload rest decoded =>
      intro passes _
      simp only [readWithin, if_neg incomplete, asked, outcome,
        if_neg nonempty]
      rw [decoded]
  | case7 incoming count transport incomplete needed asked failure later
      outcome again inductionHypothesis =>
      intro passes enough
      have less := Transport.readWork_read_of_interrupted outcome again
      obtain ⟨others, rfl⟩ : ∃ others, passes = others + 1 :=
        ⟨passes - 1, by omega⟩
      rw [readWithin]
      simp only [if_neg incomplete, asked, outcome, if_pos again]
      exact inductionHypothesis others (by omega)
  | case8 incoming count transport incomplete needed asked failure later
      outcome again blocked =>
      intro passes _
      simp only [readWithin, if_neg incomplete, asked, outcome, if_neg again,
        if_pos blocked]
  | case9 incoming count transport incomplete needed asked failure later
      outcome again blocked =>
      intro passes _
      simp only [readWithin, if_neg incomplete, asked, outcome, if_neg again,
        if_neg blocked]

/-! ## Whole and refused frames -/

/-- Whether a frame is whole, with nothing left of it but its payload. -/
structure IsWhole (incoming : Incoming) (maxSize : Nat) (payload : Bytes) :
    Prop where
  codec : incoming.codec = ⟨maxSize⟩
  isPayload : incoming.payload = some payload
  emptied : incoming.buffer = []
  takes : FrameCodec.Takes ⟨maxSize⟩ payload

/-- Whether nothing but a size out of range is there of a frame. -/
structure IsRefused (incoming : Incoming) (maxSize : Nat) (size : Int32) :
    Prop where
  codec : incoming.codec = ⟨maxSize⟩
  noPayload : incoming.payload = none
  held : incoming.buffer = Bytes.ofInt32 size
  outOfRange : size.toInt < 0 ∨ maxSize < size.toInt

/-- In which condition a read leaves a frame, and with which outcome. -/
inductive Ends (maxSize : Nat) (left : Incoming) : Except IoError Nat → Prop
  | partly {outcome : Except IoError Nat} (isPartial : left.IsPartial maxSize) :
      Ends maxSize left outcome
  | whole {payload : Bytes} (total : Nat)
      (isWhole : left.IsWhole maxSize payload) : Ends maxSize left (.ok total)
  | refused {size : Int32} (isRefused : left.IsRefused maxSize size) :
      Ends maxSize left (.error (FrameCodec.refusal ⟨maxSize⟩ size))

variable {maxSize : Nat} {incoming : Incoming}

theorem IsWhole.consumed_eq {payload : Bytes}
    (isWhole : incoming.IsWhole maxSize payload) :
    incoming.consumed = FrameCodec.frame payload := by
  simp only [consumed, isWhole.isPayload]

theorem IsRefused.consumed_eq {size : Int32}
    (isRefused : incoming.IsRefused maxSize size) :
    incoming.consumed = Bytes.ofInt32 size := by
  simp only [consumed, isRefused.noPayload, isRefused.held]

/-- Nothing is read for a frame that is whole. -/
theorem IsWhole.readAfter_eq {payload : Bytes}
    (isWhole : incoming.IsWhole maxSize payload) (count : Nat)
    (transport : Transport) :
    incoming.readAfter count transport = (.ok count, incoming, transport) := by
  have complete : incoming.isComplete = true := by
    rw [isComplete, isWhole.isPayload]
    rfl
  rw [readAfter, if_pos complete]

/-- Nothing is read for a frame that is refused. -/
theorem IsRefused.readAfter_eq {size : Int32}
    (isRefused : incoming.IsRefused maxSize size) (count : Nat)
    (transport : Transport) :
    incoming.readAfter count transport =
      (.error (FrameCodec.refusal ⟨maxSize⟩ size), incoming, transport) := by
  have incomplete : ¬ incoming.isComplete = true := by
    rw [isComplete, isRefused.noPayload]
    exact Bool.false_ne_true
  have asked :
      incoming.needed = .error (FrameCodec.refusal ⟨maxSize⟩ size) := by
    have peeked := FrameCodec.peekSize_ofInt32_append ⟨maxSize⟩ size []
    rw [List.append_nil, if_pos isRefused.outOfRange] at peeked
    rw [needed, isRefused.codec, isRefused.held, peeked]
    rfl
  rw [readAfter, if_neg incomplete, asked]

/-- The first bytes with which a frame is refused complete its head. -/
theorem IsPartial.isRefused {needed : Nat} {taken : Bytes} {failure : IoError}
    (isPartial : incoming.IsPartial maxSize)
    (asked : incoming.needed = .ok needed) (bound : taken.length ≤ needed)
    (refused :
      FrameCodec.decode ⟨maxSize⟩ (incoming.buffer ++ taken) =
        .error failure) :
    ∃ size,
      { incoming with buffer := incoming.buffer ++ taken }.IsRefused maxSize
          size ∧
        failure = FrameCodec.refusal ⟨maxSize⟩ size := by
  obtain ⟨sized, unannounced⟩ := isPartial.isMalformed asked bound refused
  obtain ⟨size, others, shape⟩ :=
    Bytes.exists_eq_ofInt32_append (Nat.le_of_eq sized.symm)
  have noOthers : others = [] := by
    have lengths := congrArg List.length shape
    rw [sized, List.length_append, Bytes.length_ofInt32, frameHeadLength]
      at lengths
    exact List.length_eq_zero_iff.mp (by omega)
  rw [shape, FrameCodec.peekSize_ofInt32_append] at unannounced
  split at unannounced
  · next outOfRange =>
      refine ⟨size, ⟨isPartial.codec, isPartial.payload, ?_, outOfRange⟩, ?_⟩
      · rw [shape, noOthers, List.append_nil]
      · exact (Except.error.inj unannounced).symm
  · cases unannounced

/-- A read leaves a partial frame partial, whole or refused. -/
theorem IsPartial.ends_readAfter (isPartial : incoming.IsPartial maxSize)
    (count : Nat) (transport : Transport) :
    (incoming.readAfter count transport).2.1.Ends maxSize
      (incoming.readAfter count transport).1 := by
  fun_induction Incoming.readAfter incoming count transport with
  | case1 | case2 | case3 | case8 | case9 =>
      exact .partly isPartial
  | case4 incoming count transport incomplete needed asked taken later outcome
      nonempty grown failure refused =>
      obtain ⟨bound, -⟩ := Transport.yielded_of_read_ok outcome
      rw [show grown.codec = ⟨maxSize⟩ from isPartial.codec] at refused
      obtain ⟨size, isRefused, rfl⟩ := isPartial.isRefused asked bound refused
      exact .refused isRefused
  | case5 incoming count transport incomplete needed asked taken later outcome
      nonempty grown undecided inductionHypothesis =>
      rw [show grown.codec = ⟨maxSize⟩ from isPartial.codec] at undecided
      exact inductionHypothesis ⟨isPartial.codec, isPartial.payload, undecided⟩
  | case6 incoming count transport incomplete needed asked taken later outcome
      nonempty grown payload rest decoded =>
      obtain ⟨bound, -⟩ := Transport.yielded_of_read_ok outcome
      have emptied := rest_eq_nil_of_decode asked bound nonempty decoded
      rw [show grown.codec = ⟨maxSize⟩ from isPartial.codec] at decoded
      exact .whole _ ⟨isPartial.codec, rfl, emptied,
        FrameCodec.takes_of_decode decoded⟩
  | case7 incoming count transport incomplete needed asked failure later
      outcome again inductionHypothesis =>
      exact inductionHypothesis isPartial

/-- Whatever was read before, a read leaves the frame in a known condition. -/
theorem Ends.readAfter {outcome : Except IoError Nat}
    (ends : incoming.Ends maxSize outcome) (count : Nat)
    (transport : Transport) :
    (incoming.readAfter count transport).2.1.Ends maxSize
      (incoming.readAfter count transport).1 := by
  cases ends with
  | partly isPartial =>
      exact isPartial.ends_readAfter count transport
  | whole total isWhole =>
      rw [isWhole.readAfter_eq]
      exact .whole count isWhole
  | refused isRefused =>
      rw [isRefused.readAfter_eq]
      exact .refused isRefused

theorem isUnhindered_readAfter (incoming : Incoming) (count : Nat)
    {transport : Transport} (unhindered : transport.IsUnhindered) :
    (incoming.readAfter count transport).2.2.IsUnhindered := by
  fun_induction Incoming.readAfter incoming count transport with
  | case1 | case2 =>
      exact unhindered
  | case3 incoming count transport incomplete needed asked later outcome
  | case4 incoming count transport incomplete needed asked taken later outcome
  | case6 incoming count transport incomplete needed asked taken later outcome
  | case8 incoming count transport incomplete needed asked failure later
      outcome
  | case9 incoming count transport incomplete needed asked failure later
      outcome =>
      exact unhindered.read outcome
  | case5 incoming count transport incomplete needed asked taken later outcome
      nonempty grown undecided inductionHypothesis
  | case7 incoming count transport incomplete needed asked failure later
      outcome again inductionHypothesis =>
      exact inductionHypothesis (unhindered.read outcome)

/-- If nothing hinders the reads, a frame stays partial for want of bytes. -/
theorem IsPartial.exhausts_readAfter (isPartial : incoming.IsPartial maxSize)
    (count : Nat) (transport : Transport)
    (unhindered : transport.IsUnhindered)
    (stays : (incoming.readAfter count transport).2.1.IsPartial maxSize) :
    (incoming.readAfter count transport).2.2.inbound = [] := by
  fun_induction Incoming.readAfter incoming count transport with
  | case1 incoming count transport complete =>
      rw [isComplete, isPartial.payload] at complete
      cases complete
  | case2 incoming count transport incomplete failure refused =>
      obtain ⟨needed, asked, -⟩ := isPartial.exists_needed
      cases asked.symm.trans refused
  | case3 incoming count transport incomplete needed asked later outcome =>
      have positive := isPartial.needed_pos asked
      refine (unhindered.read_cases positive outcome).resolve_left ?_
      rintro ⟨taken, nonempty, same⟩
      exact nonempty (Except.ok.inj same).symm
  | case4 incoming count transport incomplete needed asked taken later outcome
      nonempty grown failure refused =>
      have undecided := stays.undecided
      rw [← show grown.codec = ⟨maxSize⟩ from isPartial.codec] at undecided
      cases undecided.symm.trans refused
  | case5 incoming count transport incomplete needed asked taken later outcome
      nonempty grown undecided inductionHypothesis =>
      rw [show grown.codec = ⟨maxSize⟩ from isPartial.codec] at undecided
      exact inductionHypothesis
        ⟨isPartial.codec, isPartial.payload, undecided⟩
        (unhindered.read outcome) stays
  | case6 incoming count transport incomplete needed asked taken later outcome
      nonempty grown payload rest decoded =>
      cases stays.payload
  | case7 incoming count transport incomplete needed asked failure later
      outcome again inductionHypothesis =>
      exact inductionHypothesis isPartial (unhindered.read outcome) stays
  | case8 incoming count transport incomplete needed asked failure later
      outcome
  | case9 incoming count transport incomplete needed asked failure later
      outcome =>
      have positive := isPartial.needed_pos asked
      refine (unhindered.read_cases positive outcome).resolve_left ?_
      rintro ⟨taken, -, ⟨⟩⟩

/-- If nothing hinders the reads, they end for one of three reasons. -/
theorem Ends.exhausts_readAfter {outcome : Except IoError Nat}
    (ends : incoming.Ends maxSize outcome) (count : Nat)
    {transport : Transport} (unhindered : transport.IsUnhindered) :
    let (_, left, later) := incoming.readAfter count transport
    left.payload ≠ none ∨ (∃ size, left.IsRefused maxSize size) ∨
      later.inbound = [] := by
  have endsLater := ends.readAfter count transport
  generalize answered : (incoming.readAfter count transport).1 = answer
    at endsLater
  cases endsLater with
  | partly staysPartial =>
      cases ends with
      | partly isPartial =>
          exact .inr (.inr
            (isPartial.exhausts_readAfter count transport unhindered
              staysPartial))
      | whole total isWhole =>
          rw [isWhole.readAfter_eq] at staysPartial
          cases staysPartial.payload.symm.trans isWhole.isPayload
      | refused isRefused =>
          rw [isRefused.readAfter_eq] at staysPartial ⊢
          exact .inr (.inl ⟨_, isRefused⟩)
  | whole total isWhole =>
      refine .inl ?_
      rw [isWhole.isPayload]
      exact Option.some_ne_none _
  | refused isRefused =>
      exact .inr (.inl ⟨_, isRefused⟩)

/-! ## How much is taken -/

/-- A partial frame holds less than its size announces, and none is refused. -/
theorem IsPartial.length_buffer_le {size : Int32} {others rest : Bytes}
    (isPartial : incoming.IsPartial maxSize)
    (front : incoming.buffer ++ others = Bytes.ofInt32 size ++ rest)
    (enough : 4 ≤ incoming.buffer.length) :
    ¬ (size.toInt < 0 ∨ maxSize < size.toInt) ∧
      incoming.buffer.length < 4 + size.toInt.toNat := by
  have isFront :
      Bytes.ofInt32 size <+: incoming.buffer ++ others :=
    ⟨rest, front.symm⟩
  have headHeld : Bytes.ofInt32 size <+: incoming.buffer := by
    refine List.prefix_of_prefix_length_le isFront (List.prefix_append _ _) ?_
    rw [Bytes.length_ofInt32]
    exact enough
  obtain ⟨body, isBody⟩ := headHeld
  have undecided := isPartial.undecided
  rw [← isBody, FrameCodec.decode, FrameCodec.peekSize_ofInt32_append]
    at undecided
  split at undecided
  · cases undecided
  · next inRange =>
      refine ⟨inRange, ?_⟩
      simp only [bind, Except.bind] at undecided
      split at undecided
      · next short =>
          rw [List.length_take, List.length_drop, frameHeadLength, isBody]
            at short
          omega
      · cases undecided

/-- No byte is taken behind the end of a frame, or behind a refused size. -/
theorem Ends.length_consumed_le {outcome : Except IoError Nat}
    (ends : incoming.Ends maxSize outcome) {size : Int32}
    {others rest : Bytes}
    (front : incoming.consumed ++ others = Bytes.ofInt32 size ++ rest) :
    incoming.consumed.length ≤ 4 + size.toInt.toNat ∧
      ((size.toInt < 0 ∨ maxSize < size.toInt) →
        incoming.consumed.length ≤ 4) := by
  cases ends with
  | partly isPartial =>
      rw [isPartial.consumed_eq] at front ⊢
      by_cases enough : 4 ≤ incoming.buffer.length
      · obtain ⟨inRange, less⟩ := isPartial.length_buffer_le front enough
        exact ⟨Nat.le_of_lt less, fun outOfRange => absurd outOfRange inRange⟩
      · omega
  | @whole payload total isWhole =>
      have takes := isWhole.takes.decode_eq others
      have announced := (FrameCodec.decode_eq_some takes).1
      rw [isWhole.consumed_eq] at front ⊢
      rw [front, FrameCodec.peekSize_ofInt32_append] at announced
      rw [FrameCodec.length_frame, frameHeadLength]
      split at announced
      · cases announced
      · next inRange =>
          have isSize := Option.some.inj (Except.ok.inj announced)
          exact ⟨by omega, fun outOfRange => absurd outOfRange inRange⟩
  | refused isRefused =>
      rw [isRefused.consumed_eq, Bytes.length_ofInt32]
      omega

/-- A size out of range has been taken exactly if the frame is refused. -/
theorem Ends.isRefused {outcome : Except IoError Nat}
    (ends : incoming.Ends maxSize outcome) {size : Int32}
    (outOfRange : size.toInt < 0 ∨ maxSize < size.toInt)
    (held : incoming.consumed = Bytes.ofInt32 size) :
    incoming.IsRefused maxSize size ∧
      outcome = .error (FrameCodec.refusal ⟨maxSize⟩ size) := by
  have refuses := FrameCodec.decode_ofInt32_of_outOfRange outOfRange
  cases ends with
  | partly isPartial =>
      rw [isPartial.consumed_eq] at held
      cases (held ▸ isPartial.undecided).symm.trans refuses
  | whole total isWhole =>
      have takes := isWhole.takes.decode_eq []
      rw [List.append_nil, ← isWhole.consumed_eq, held] at takes
      cases takes.symm.trans refuses
  | @refused other isRefused =>
      rw [isRefused.consumed_eq] at held
      have same : other = size := by
        rw [← Bytes.toInt32_ofInt32 other, held, Bytes.toInt32_ofInt32]
      subst same
      exact ⟨isRefused, rfl⟩

/-- A frame is whole exactly if all bytes of an admitted frame were taken. -/
theorem Ends.payload_eq_some_iff {outcome : Except IoError Nat}
    (ends : incoming.Ends maxSize outcome) {payload : Bytes} :
    incoming.payload = some payload ↔
      FrameCodec.Takes ⟨maxSize⟩ payload ∧
        incoming.consumed = FrameCodec.frame payload := by
  constructor
  · intro isPayload
    cases ends with
    | partly isPartial =>
        cases isPartial.payload.symm.trans isPayload
    | whole total isWhole =>
        cases isWhole.isPayload.symm.trans isPayload
        exact ⟨isWhole.takes, isWhole.consumed_eq⟩
    | refused isRefused =>
        cases isRefused.noPayload.symm.trans isPayload
  · rintro ⟨takes, taken⟩
    have decoded := takes.decode_eq []
    rw [List.append_nil, ← taken] at decoded
    cases ends with
    | partly isPartial =>
        rw [isPartial.consumed_eq] at decoded
        cases isPartial.undecided.symm.trans decoded
    | whole total isWhole =>
        have own := isWhole.takes.decode_eq []
        rw [List.append_nil, ← isWhole.consumed_eq] at own
        cases own.symm.trans decoded
        exact isWhole.isPayload
    | @refused size isRefused =>
        have refuses := FrameCodec.decode_ofInt32_of_outOfRange
          isRefused.outOfRange
        rw [← isRefused.consumed_eq] at refuses
        cases refuses.symm.trans decoded

theorem Ends.codec {outcome : Except IoError Nat}
    (ends : incoming.Ends maxSize outcome) : incoming.codec = ⟨maxSize⟩ := by
  cases ends with
  | partly isPartial =>
      exact isPartial.codec
  | whole total isWhole =>
      exact isWhole.codec
  | refused isRefused =>
      exact isRefused.codec

theorem Ends.emptied {outcome : Except IoError Nat}
    (ends : incoming.Ends maxSize outcome) (isThere : incoming.payload ≠ none) :
    incoming.buffer = [] := by
  cases ends with
  | partly isPartial =>
      exact absurd isPartial.payload isThere
  | whole total isWhole =>
      exact isWhole.emptied
  | refused isRefused =>
      exact absurd isRefused.noPayload isThere

/-- A codec cuts from the bytes of a frame the frame, if it is whole. -/
theorem Ends.drain_consumed {outcome : Except IoError Nat}
    (ends : incoming.Ends maxSize outcome) :
    ∃ failure,
      FrameBuffer.drain ⟨⟨maxSize⟩, incoming.consumed⟩ =
        ⟨incoming.payload.toList, failure, ⟨⟨maxSize⟩, incoming.buffer⟩⟩ := by
  cases ends with
  | partly isPartial =>
      refine ⟨none, ?_⟩
      rw [isPartial.consumed_eq, FrameBuffer.drain_eq, FrameBuffer.decode,
        isPartial.undecided, isPartial.payload]
      rfl
  | @whole payload total isWhole =>
      refine ⟨none, ?_⟩
      have cut := FrameBuffer.decode_frame_append isWhole.takes []
      rw [List.append_nil] at cut
      rw [isWhole.consumed_eq, FrameBuffer.drain_eq, cut, isWhole.isPayload,
        isWhole.emptied]
      simp [FrameBuffer.drain_empty, FrameBuffer.Drained.after]
  | @refused size isRefused =>
      refine ⟨some (FrameCodec.refusal ⟨maxSize⟩ size), ?_⟩
      rw [isRefused.consumed_eq, FrameBuffer.drain_eq, FrameBuffer.decode,
        FrameCodec.decode_ofInt32_of_outOfRange isRefused.outOfRange,
        isRefused.noPayload, isRefused.held]
      rfl

/-- Unless bytes wait for a partial frame, its payload is the next to be cut. -/
theorem Ends.take_payloads {outcome : Except IoError Nat}
    (ends : incoming.Ends maxSize outcome) {waiting : Bytes}
    (exhausts :
      incoming.payload ≠ none ∨ (∃ size, incoming.IsRefused maxSize size) ∨
        waiting = []) :
    (FrameBuffer.drain ⟨⟨maxSize⟩, incoming.consumed ++ waiting⟩).payloads.take
        1 =
      incoming.payload.toList := by
  have drained := ends.drain_consumed
  cases ends with
  | partly isPartial =>
      rcases exhausts with isWhole | ⟨size, isRefused⟩ | rfl
      · exact absurd isPartial.payload isWhole
      · have undecided := isPartial.undecided
        rw [isRefused.held,
          FrameCodec.decode_ofInt32_of_outOfRange isRefused.outOfRange]
          at undecided
        cases undecided
      · obtain ⟨failure, cut⟩ := drained
        rw [List.append_nil, cut, isPartial.payload]
        rfl
  | @whole payload total isWhole =>
      rw [isWhole.consumed_eq, FrameBuffer.drain_eq,
        FrameBuffer.decode_frame_append isWhole.takes, isWhole.isPayload]
      rfl
  | @refused size isRefused =>
      rw [isRefused.consumed_eq, FrameBuffer.drain_eq, FrameBuffer.decode,
        FrameCodec.decode_of_outOfRange isRefused.outOfRange,
        isRefused.noPayload]
      rfl

end Incoming

end BrokerSession
