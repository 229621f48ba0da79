import BrokerSession.Proofs.Schema.RoundTrip

namespace BrokerSession

/-!
# Buffers that were cut off

A reader takes its input piece by piece and knows how long a piece has to be
before it looks at it.  So it can tell a buffer that ends too early from one
that is malformed: more bytes cure an underrun and nothing else, and what was
read from a buffer is read from every longer one.
-/

/-- Whether an error blames the bytes that are there, not those that are not. -/
def SchemaError.IsMalformed : SchemaError → Prop
  | .invalidLength .. | .invalidString .. | .invalidBoolean .. => True
  | _ => False

/--
Readers that are put together from pieces.

The length of a piece may depend on the pieces before it, but never on how many
bytes there are, and only malformed bytes are refused.
-/
inductive Reader.IsPiecewise : {Content : Type} → Reader Content → Prop where
  | pure {Content : Type} (content : Content) :
      IsPiecewise (pure content : Reader Content)
  | throw {Content : Type} {failure : SchemaError}
      (malformed : failure.IsMalformed) :
      IsPiecewise (throw failure : Reader Content)
  | take (field : String) (needed : Nat) :
      IsPiecewise (Decode.take field needed)
  | bind {First Second : Type} {first : Reader First}
      {next : First → Reader Second} (isFirst : IsPiecewise first)
      (isNext : ∀ content, IsPiecewise (next content)) :
      IsPiecewise (first >>= next)

/-! ## What more bytes change -/

/-- Taking fails exactly if fewer bytes are left than it needs. -/
theorem Decode.take_eq_error_iff {field : String} {needed : Nat}
    {input rest : Bytes} {failure : SchemaError} :
    (take field needed).run input = .error failure rest ↔
      rest = input ∧ input.length < needed ∧
        failure = .bufferUnderrun field needed input.length := by
  simp only [EStateM.run, take, List.length_take]
  split
  · next short =>
      have counted : min needed input.length = input.length := by omega
      rw [counted]
      constructor
      · rintro ⟨⟩
        exact ⟨rfl, by omega, rfl⟩
      · rintro ⟨rfl, -, rfl⟩
        rfl
  · next enough =>
      constructor
      · rintro ⟨⟩
      · rintro ⟨-, short, -⟩
        omega

namespace Reader.IsPiecewise

variable {Content : Type} {reader : Reader Content} {input rest : Bytes}

/-- What was read is read from a longer buffer too, and no more than that. -/
theorem run_append_of_ok (piecewise : IsPiecewise reader) {content : Content}
    (read : reader.run input = .ok content rest) (suffix : Bytes) :
    reader.run (input ++ suffix) = .ok content (rest ++ suffix) := by
  induction piecewise generalizing input rest with
  | pure =>
      cases read
      rfl
  | throw =>
      cases read
  | take =>
      obtain ⟨sized, rfl⟩ := Decode.take_eq_ok_iff.mp read
      exact Decode.take_eq_ok_iff.mpr ⟨sized, List.append_assoc ..⟩
  | bind _ _ readFirst readNext =>
      obtain ⟨_, between, first, later⟩ := run_bind_eq_ok_iff.mp read
      exact run_bind_eq_ok_iff.mpr
        ⟨_, between ++ suffix, readFirst first, readNext _ later⟩

/-- Malformed bytes are refused whatever follows them. -/
theorem run_append_of_malformed (piecewise : IsPiecewise reader)
    {failure : SchemaError} (refused : reader.run input = .error failure rest)
    (malformed : failure.IsMalformed) (suffix : Bytes) :
    reader.run (input ++ suffix) = .error failure (rest ++ suffix) := by
  induction piecewise generalizing input rest with
  | pure =>
      cases refused
  | throw =>
      cases refused
      rfl
  | take =>
      obtain ⟨-, -, rfl⟩ := Decode.take_eq_error_iff.mp refused
      cases malformed
  | bind isFirst _ refuseFirst refuseNext =>
      rcases run_bind_eq_error_iff.mp refused with
        first | ⟨content, between, first, later⟩
      · exact run_bind_eq_error_iff.mpr (.inl (refuseFirst first))
      · exact run_bind_eq_error_iff.mpr
          (.inr ⟨content, between ++ suffix,
            isFirst.run_append_of_ok first suffix, refuseNext content later⟩)

/-- What is not malformed has ended too early. -/
theorem malformed_or_underrun (piecewise : IsPiecewise reader)
    {failure : SchemaError}
    (refused : reader.run input = .error failure rest) :
    failure.IsMalformed ∨
      ∃ field needed,
        failure = .bufferUnderrun field needed rest.length ∧
          rest.length < needed := by
  induction piecewise generalizing input rest with
  | pure =>
      cases refused
  | throw malformed =>
      cases refused
      exact .inl malformed
  | take field needed =>
      obtain ⟨rfl, short, rfl⟩ := Decode.take_eq_error_iff.mp refused
      exact .inr ⟨field, needed, rfl, short⟩
  | bind _ _ refuseFirst refuseNext =>
      rcases run_bind_eq_error_iff.mp refused with
        first | ⟨content, between, -, later⟩
      · exact refuseFirst first
      · exact refuseNext content later

end Reader.IsPiecewise

/-! ## The readers of a schema -/

namespace Decode

theorem isPiecewise_int8 (field : String) :
    Reader.IsPiecewise (int8 field) :=
  .bind (.take field 1) fun _ => .pure _

theorem isPiecewise_int16 (field : String) :
    Reader.IsPiecewise (int16 field) :=
  .bind (.take field 2) fun _ => .pure _

theorem isPiecewise_int32 (field : String) :
    Reader.IsPiecewise (int32 field) :=
  .bind (.take field 4) fun _ => .pure _

theorem isPiecewise_int64 (field : String) :
    Reader.IsPiecewise (int64 field) :=
  .bind (.take field 8) fun _ => .pure _

/-- A truth value is read from its single byte. -/
theorem isPiecewise_boolean (field : String) :
    Reader.IsPiecewise (boolean field) := by
  refine .bind (isPiecewise_int8 field) fun value => ?_
  split
  · exact .pure false
  · split
    · exact .pure true
    · exact .throw trivial

/-- A text that may be missing is read after its length. -/
theorem isPiecewise_nullableString (field : String) :
    Reader.IsPiecewise (nullableString field) := by
  refine .bind (isPiecewise_int16 field) fun length => ?_
  split
  · exact .pure none
  · split
    · exact .throw trivial
    · refine .bind (.take field _) fun content => ?_
      split
      · exact .pure _
      · exact .throw trivial

/-- A text is read after its length. -/
theorem isPiecewise_string (field : String) :
    Reader.IsPiecewise (string field) := by
  refine .bind (isPiecewise_nullableString field) fun text => ?_
  cases text with
  | none =>
      exact .throw trivial
  | some text =>
      exact .pure text

/-- Bytes that may be missing are read after their number. -/
theorem isPiecewise_nullableBytes (field : String) :
    Reader.IsPiecewise (nullableBytes field) := by
  refine .bind (isPiecewise_int32 field) fun length => ?_
  split
  · exact .pure none
  · split
    · exact .throw trivial
    · exact .bind (.take field _) fun content => .pure _

/-- Bytes are read after their number. -/
theorem isPiecewise_bytes (field : String) :
    Reader.IsPiecewise (bytes field) := by
  refine .bind (isPiecewise_nullableBytes field) fun content => ?_
  cases content with
  | none =>
      exact .throw trivial
  | some content =>
      exact .pure content

/-- A count is read before the items that it counts. -/
theorem isPiecewise_count (field : String) :
    Reader.IsPiecewise (count field) := by
  refine .bind (isPiecewise_int32 field) fun number => ?_
  split
  · exact .throw trivial
  · exact .pure _

/-- Items are read one after the other. -/
theorem isPiecewise_timesAfter {Content : Type} {reader : Reader Content}
    (piecewise : Reader.IsPiecewise reader) (number : Nat)
    (done : List Content) :
    Reader.IsPiecewise (timesAfter reader number done) := by
  induction number generalizing done with
  | zero =>
      exact .pure done.reverse
  | succ number inductionHypothesis =>
      exact .bind piecewise fun content =>
        inductionHypothesis (content :: done)

end Decode

mutual

/-- A field is read piece by piece, whatever its type. -/
theorem FieldType.isPiecewise_read (field : String) (version : Int16) :
    (type : FieldType) → Reader.IsPiecewise (type.read field version)
  | .int8 => .bind (Decode.isPiecewise_int8 field) fun _ => .pure _
  | .int16 => .bind (Decode.isPiecewise_int16 field) fun _ => .pure _
  | .int32 => .bind (Decode.isPiecewise_int32 field) fun _ => .pure _
  | .int64 => .bind (Decode.isPiecewise_int64 field) fun _ => .pure _
  | .boolean => .bind (Decode.isPiecewise_boolean field) fun _ => .pure _
  | .string => .bind (Decode.isPiecewise_string field) fun _ => .pure _
  | .nullableString =>
      .bind (Decode.isPiecewise_nullableString field) fun _ => .pure _
  | .bytes => .bind (Decode.isPiecewise_bytes field) fun _ => .pure _
  | .nullableBytes =>
      .bind (Decode.isPiecewise_nullableBytes field) fun _ => .pure _
  | .array element =>
      .bind (Decode.isPiecewise_count field) fun number =>
        .bind
          (Decode.isPiecewise_timesAfter
            (FieldType.isPiecewise_read field version element) number [])
          fun _ => .pure _
  | .struct schema =>
      .bind (Schema.isPiecewise_readInto version schema ∅) fun _ => .pure _

/-- A record is read piece by piece. -/
theorem Schema.isPiecewise_readInto (version : Int16) :
    (schema : Schema) → (held : Record) →
      Reader.IsPiecewise (schema.readInto version held)
  | .nil, held => .pure held
  | .cons name type versions rest, held => by
      rw [Schema.readInto]
      split
      · exact .bind (FieldType.isPiecewise_read name version type)
          fun value =>
            Schema.isPiecewise_readInto version rest (held.insert name value)
      · exact Schema.isPiecewise_readInto version rest held

end

/-- A record is read field by field. -/
theorem Schema.isPiecewise_read (version : Int16) (schema : Schema) :
    Reader.IsPiecewise (schema.read version) :=
  schema.isPiecewise_readInto version ∅

/-! ## What a longer buffer reads as -/

/-- A written record that was cut off anywhere is an underrun. -/
theorem Schema.read_cut_of_write {version : Int16} {schema : Schema}
    {record : Record} {cut more : Bytes}
    (wrote : schema.write version record = .ok (cut ++ more))
    (lacking : more ≠ []) :
    ∃ field needed available rest,
      (schema.read version).run cut =
        .error (.bufferUnderrun field needed available) rest := by
  have piecewise := schema.isPiecewise_read version
  have whole := Schema.read_append_of_write wrote []
  rw [List.append_nil] at whole
  cases read : (schema.read version).run cut with
  | ok found rest =>
      -- The record would be read without what is lacking, so it would be left.
      have extended := piecewise.run_append_of_ok read more
      rw [whole] at extended
      injection extended with _ isLeft
      exact absurd (List.append_eq_nil_iff.mp isLeft.symm).2 lacking
  | error failure rest =>
      rcases piecewise.malformed_or_underrun read with
        malformed | ⟨field, needed, rfl, -⟩
      · have extended := piecewise.run_append_of_malformed read malformed more
        rw [whole] at extended
        cases extended
      · exact ⟨field, needed, rest.length, rest, rfl⟩

/--
More bytes cure an underrun and nothing else.

What was read from a buffer is read from every longer one, and what it was
refused for stays, unless the buffer has ended before the bytes that were
needed.  So a written record that was cut off anywhere is an underrun.
-/
theorem more_bytes_cure_only_underruns (version : Int16) (schema : Schema) :
    (∀ (buffer suffix rest : Bytes) (record : Record),
      (schema.read version).run buffer = .ok record rest →
        (schema.read version).run (buffer ++ suffix) =
          .ok record (rest ++ suffix)) ∧
    (∀ (buffer suffix rest : Bytes) (failure : SchemaError),
      (schema.read version).run buffer = .error failure rest →
        (∀ field needed available,
          failure ≠ .bufferUnderrun field needed available) →
          (schema.read version).run (buffer ++ suffix) =
            .error failure (rest ++ suffix)) ∧
    (∀ (buffer rest : Bytes) (field : String) (needed available : Nat),
      (schema.read version).run buffer =
          .error (.bufferUnderrun field needed available) rest →
        available = rest.length ∧ available < needed) ∧
    (∀ (record : Record) (cut more : Bytes),
      schema.write version record = .ok (cut ++ more) → more ≠ [] →
        ∃ field needed available rest,
          (schema.read version).run cut =
            .error (.bufferUnderrun field needed available) rest) := by
  have piecewise := schema.isPiecewise_read version
  refine ⟨?_, ?_, ?_, ?_⟩
  · intro buffer suffix rest record read
    exact piecewise.run_append_of_ok read suffix
  · intro buffer suffix rest failure refused noUnderrun
    rcases piecewise.malformed_or_underrun refused with
      malformed | ⟨field, needed, isUnderrun, -⟩
    · exact piecewise.run_append_of_malformed refused malformed suffix
    · exact absurd isUnderrun (noUnderrun field needed rest.length)
  · intro buffer rest field needed available refused
    rcases piecewise.malformed_or_underrun refused with
      malformed | ⟨_, _, isUnderrun, short⟩
    · cases malformed
    · cases isUnderrun
      exact ⟨rfl, short⟩
  · intro record cut more wrote lacking
    exact Schema.read_cut_of_write wrote lacking

/-- A topic before another byte, a name that is no text, and half a topic. -/
theorem more_bytes_cure_only_underruns_topic :
    ((topicSchema.read 0).run topicBytes =
        .ok (topicSchema.restrict 0 topicRecord) [] ∧
      (topicSchema.read 0).run (topicBytes ++ [5]) =
        .ok (topicSchema.restrict 0 topicRecord) [5]) ∧
    ((topicSchema.read 0).run [0, 2, 0xC3, 0xC3] =
        .error (.invalidString "topic") [] ∧
      (topicSchema.read 0).run [0, 2, 0xC3, 0xC3, 5] =
        .error (.invalidString "topic") [5]) ∧
    (∃ field needed available rest,
      (topicSchema.read 0).run [0, 2, 0xC3, 0xA9, 0, 0] =
          .error (.bufferUnderrun field needed available) rest ∧
        available < needed) := by
  obtain ⟨reads, refuses, underruns, cuts⟩ :=
    more_bytes_cure_only_underruns 0 topicSchema
  have read :
      (topicSchema.read 0).run topicBytes =
        .ok (topicSchema.restrict 0 topicRecord) [] := by
    rfl
  have refused :
      (topicSchema.read 0).run [0, 2, 0xC3, 0xC3] =
        .error (.invalidString "topic") [] := by
    rfl
  obtain ⟨field, needed, available, rest, underrun⟩ :=
    cuts topicRecord [0, 2, 0xC3, 0xA9, 0, 0]
      [0, 1, 0xFF, 0xFF, 0xFF, 0xFF, 1] rfl (List.cons_ne_nil _ _)
  exact ⟨⟨read, reads _ [5] _ _ read⟩,
    ⟨refused, refuses _ [5] _ _ refused nofun⟩,
    field, needed, available, rest, underrun,
    (underruns _ _ _ _ _ underrun).2⟩

end BrokerSession
