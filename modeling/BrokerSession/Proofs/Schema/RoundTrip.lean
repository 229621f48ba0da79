import BrokerSession.Proofs.Schema.Conformance
import BrokerSession.Proofs.Schema.Primitive

namespace BrokerSession

/-!
# Reading back what was written

The bytes of a written record, whatever follows them, are read back as the
record restricted to its active fields.  The induction is on the schema and
its field types; it is carried by records that already hold the fields read
before, because the reader adds one field after the other.
-/

/-- Items that are read back one by one are read back together. -/
theorem Decode.times_append_of_writeEach {reader : Reader Value}
    {write : Value → Except SchemaError Bytes} {restrict : Value → Value}
    (readBack :
      ∀ value written suffix, write value = .ok written →
        reader.run (written ++ suffix) = .ok (restrict value) suffix)
    {items : List Value} {written : Bytes}
    (wrote : writeEach write items = .ok written) (suffix : Bytes) :
    (Decode.times reader items.length).run (written ++ suffix) =
      .ok (items.map restrict) suffix := by
  induction items generalizing written with
  | nil =>
      cases wrote
      exact Decode.times_zero_eq_ok_iff.mpr ⟨rfl, rfl⟩
  | cons item rest inductionHypothesis =>
      obtain ⟨first, others, wroteFirst, wroteOthers, rfl⟩ :=
        writeEach_cons_eq_ok_iff.mp wrote
      rw [List.append_assoc]
      exact Decode.times_succ_eq_ok_iff.mpr
        ⟨restrict item, rest.map restrict, others ++ suffix,
          readBack item first (others ++ suffix) wroteFirst,
          inductionHypothesis wroteOthers, rfl⟩

mutual

/-- A written value is read back restricted to its active fields. -/
theorem FieldType.read_append_of_write (field : String) (version : Int16) :
    (type : FieldType) → (value : Value) → (written suffix : Bytes) →
      type.write field version value = .ok written →
        (type.read field version).run (written ++ suffix) =
          .ok (type.restrict version value) suffix
  | .int8, value, written, suffix, wrote => by
      cases FieldType.write_eq_ok_iff.mp wrote with
      | int8 value =>
          exact run_convert_eq_ok_iff.mpr
            ⟨value, Decode.int8_eq_ok_iff.mpr rfl, rfl⟩
  | .int16, value, written, suffix, wrote => by
      cases FieldType.write_eq_ok_iff.mp wrote with
      | int16 value =>
          exact run_convert_eq_ok_iff.mpr
            ⟨value, Decode.int16_eq_ok_iff.mpr rfl, rfl⟩
  | .int32, value, written, suffix, wrote => by
      cases FieldType.write_eq_ok_iff.mp wrote with
      | int32 value =>
          exact run_convert_eq_ok_iff.mpr
            ⟨value, Decode.int32_eq_ok_iff.mpr rfl, rfl⟩
  | .int64, value, written, suffix, wrote => by
      cases FieldType.write_eq_ok_iff.mp wrote with
      | int64 value =>
          exact run_convert_eq_ok_iff.mpr
            ⟨value, Decode.int64_eq_ok_iff.mpr rfl, rfl⟩
  | .boolean, value, written, suffix, wrote => by
      cases FieldType.write_eq_ok_iff.mp wrote with
      | boolean value =>
          exact run_convert_eq_ok_iff.mpr
            ⟨value, Decode.boolean_eq_ok_iff.mpr rfl, rfl⟩
  | .string, value, written, suffix, wrote => by
      cases FieldType.write_eq_ok_iff.mp wrote with
      | string wroteText =>
          exact run_convert_eq_ok_iff.mpr
            ⟨_, Decode.string_eq_ok_iff.mpr ⟨written, wroteText, rfl⟩, rfl⟩
  | .nullableString, value, written, suffix, wrote => by
      cases FieldType.write_eq_ok_iff.mp wrote with
      | nullableString wroteText =>
          exact run_convert_eq_ok_iff.mpr
            ⟨_, Decode.nullableString_eq_ok_iff.mpr ⟨written, wroteText, rfl⟩,
              rfl⟩
  | .bytes, value, written, suffix, wrote => by
      cases FieldType.write_eq_ok_iff.mp wrote with
      | bytes wroteBytes =>
          exact run_convert_eq_ok_iff.mpr
            ⟨_, Decode.bytes_eq_ok_iff.mpr ⟨written, wroteBytes, rfl⟩, rfl⟩
  | .nullableBytes, value, written, suffix, wrote => by
      cases FieldType.write_eq_ok_iff.mp wrote with
      | nullableBytes wroteBytes =>
          exact run_convert_eq_ok_iff.mpr
            ⟨_, Decode.nullableBytes_eq_ok_iff.mpr ⟨written, wroteBytes, rfl⟩,
              rfl⟩
  | .array element, value, written, suffix, wrote => by
      cases FieldType.write_eq_ok_iff.mp wrote with
      | @array _ items counted others wroteCount wroteItems =>
          have readItems :=
            Decode.times_append_of_writeEach
              (FieldType.read_append_of_write field version element)
              wroteItems suffix
          rw [FieldType.read, run_bind_eq_ok_iff, List.append_assoc]
          exact ⟨items.length, others ++ suffix,
            Decode.count_eq_ok_iff.mpr ⟨counted, wroteCount, rfl⟩,
            run_convert_eq_ok_iff.mpr ⟨_, readItems, rfl⟩⟩
  | .struct schema, value, written, suffix, wrote => by
      cases FieldType.write_eq_ok_iff.mp wrote with
      | struct wroteRecord =>
          exact run_convert_eq_ok_iff.mpr
            ⟨_, Schema.readInto_append_of_write version schema _ ∅ written
              suffix wroteRecord, rfl⟩

/-- Reading a written record adds its active entries to those held before. -/
theorem Schema.readInto_append_of_write (version : Int16) :
    (schema : Schema) → (record held : Record) → (written suffix : Bytes) →
      schema.write version record = .ok written →
        (schema.readInto version held).run (written ++ suffix) =
          .ok (held.insertAll (schema.activeEntries version record)) suffix
  | .nil, record, held, written, suffix, wrote => by
      cases wrote
      rfl
  | .cons name type versions rest, record, held, written, suffix, wrote => by
      rw [Schema.readInto, Schema.activeEntries]
      by_cases active : versions.contains version = true
      · obtain ⟨value, first, others, holds, wroteFirst, wroteOthers, rfl⟩ :=
          (Schema.write_cons_eq_ok_iff active).mp wrote
        rw [if_pos active, if_pos active, holds, run_bind_eq_ok_iff,
          List.append_assoc]
        exact ⟨type.restrict version value, others ++ suffix,
          FieldType.read_append_of_write name version type value first
            (others ++ suffix) wroteFirst,
          Schema.readInto_append_of_write version rest record _ others suffix
            wroteOthers⟩
      · rw [Schema.write_cons_of_inactive active] at wrote
        rw [if_neg active, if_neg active]
        exact Schema.readInto_append_of_write version rest record held written
          suffix wrote

end

/-- A written record is read back restricted to its active fields. -/
theorem Schema.read_append_of_write {version : Int16} {schema : Schema}
    {record : Record} {written : Bytes}
    (wrote : schema.write version record = .ok written) (suffix : Bytes) :
    (schema.read version).run (written ++ suffix) =
      .ok (schema.restrict version record) suffix :=
  Schema.readInto_append_of_write version schema record ∅ written suffix wrote

/--
Reading undoes writing: what a schema or a message wrote is read back as the
record restricted to the active fields, and what follows is left unread.
-/
theorem read_undoes_write (version : Int16) (record : Record)
    (written suffix : Bytes) :
    (∀ schema : Schema,
      schema.write version record = .ok written →
        (schema.read version).run (written ++ suffix) =
          .ok (schema.restrict version record) suffix) ∧
    (∀ message : MessageSchema,
      message.encode version record = .ok written →
        (message.read version).run (written ++ suffix) =
          .ok (message.body.restrict version record) suffix) := by
  constructor
  · intro schema wrote
    exact Schema.read_append_of_write wrote suffix
  · intro message encoded
    obtain ⟨_, accepted, wrote⟩ := except_bind_eq_ok_iff.mp encoded
    rw [MessageSchema.read, accepted]
    exact Schema.read_append_of_write wrote suffix

/-- A topic whose partitions name their leader from version one on. -/
def topicSchema : Schema :=
  .ofFields [
    ⟨"topic", .string, .all⟩,
    ⟨"partitions", .arrayOf [
      ⟨"leader", .int16, .since 1⟩,
      ⟨"log", .nullableBytes, .all⟩], .all⟩,
    ⟨"internal", .boolean, ⟨0, 0⟩⟩]

/-- A topic with a leader that version zero does not carry. -/
def topicRecord : Record :=
  .ofList [
    ("topic", .string "é"),
    ("partitions", .array [
      .struct (.ofList [("leader", .int16 7), ("log", .nullableBytes none)])]),
    ("internal", .boolean true)]

/-- The wire form of the topic at version zero. -/
def topicBytes : Bytes :=
  [0, 2, 0xC3, 0xA9, 0, 0, 0, 1, 0xFF, 0xFF, 0xFF, 0xFF, 1]

theorem read_undoes_write_topic :
    (topicSchema.write 0 topicRecord = .ok topicBytes ∧
      (topicSchema.read 0).run (topicBytes ++ [5]) =
        .ok (topicSchema.restrict 0 topicRecord) [5]) ∧
    (MessageSchema.encode ⟨"Topic", .all, topicSchema⟩ 0 topicRecord =
        .ok topicBytes ∧
      (MessageSchema.read ⟨"Topic", .all, topicSchema⟩ 0).run
          (topicBytes ++ [5]) =
        .ok (topicSchema.restrict 0 topicRecord) [5]) := by
  have readBack := read_undoes_write 0 topicRecord topicBytes [5]
  exact ⟨⟨rfl, readBack.1 topicSchema rfl⟩,
    ⟨rfl, readBack.2 ⟨"Topic", .all, topicSchema⟩ rfl⟩⟩

end BrokerSession
