import BrokerSession.Proofs.Schema.RoundTrip

namespace BrokerSession

/-!
# The wire form is canonical

What a reader accepts is what the writer produces for the record it returns,
followed by the bytes it left.  The induction is again on the schema and its
field types.  Because the fields read later have other names, the record that
is returned still holds each value under the name it was read for; this is
where distinct names are needed.
-/

/-- Items that have one wire form each have one wire form together. -/
theorem Decode.writeEach_of_times {reader : Reader Value}
    {write : Value → Except SchemaError Bytes}
    (canonical :
      ∀ value input rest, reader.run input = .ok value rest →
        ∃ written, write value = .ok written ∧ input = written ++ rest)
    {number : Nat} {items : List Value} {input rest : Bytes}
    (read : (Decode.times reader number).run input = .ok items rest) :
    items.length = number ∧
      ∃ written, writeEach write items = .ok written ∧
        input = written ++ rest := by
  induction number generalizing items input with
  | zero =>
      obtain ⟨rfl, rfl⟩ := Decode.times_zero_eq_ok_iff.mp read
      exact ⟨rfl, [], rfl, rfl⟩
  | succ number inductionHypothesis =>
      obtain ⟨item, others, between, readFirst, readOthers, rfl⟩ :=
        Decode.times_succ_eq_ok_iff.mp read
      obtain ⟨first, wroteFirst, rfl⟩ := canonical item input between readFirst
      obtain ⟨counted, last, wroteOthers, rfl⟩ :=
        inductionHypothesis readOthers
      refine ⟨by rw [List.length_cons, counted], first ++ last, ?_, by simp⟩
      exact writeEach_cons_eq_ok_iff.mpr
        ⟨first, last, wroteFirst, wroteOthers, rfl⟩

/-- Reading a record changes what is held for its active names alone. -/
theorem Schema.get?_of_readInto {version : Int16} (schema : Schema)
    {held record : Record} {input rest : Bytes} {name : String}
    (read : (schema.readInto version held).run input = .ok record rest)
    (absent : name ∉ schema.activeNames version) :
    record.get? name = held.get? name := by
  cases schema with
  | nil =>
      cases read
      rfl
  | cons first type versions others =>
      rw [Schema.readInto] at read
      rw [Schema.activeNames_cons] at absent
      by_cases active : versions.contains version = true
      · rw [if_pos active, List.mem_cons, not_or] at absent
        rw [if_pos active, run_bind_eq_ok_iff] at read
        obtain ⟨value, between, -, readOthers⟩ := read
        rw [Schema.get?_of_readInto others readOthers absent.2,
          Table.get?_insert, if_neg absent.1]
      · rw [if_neg active] at read absent
        exact Schema.get?_of_readInto others read absent

mutual

/-- A value that was read is written as the bytes it was read from. -/
theorem FieldType.write_of_read (field : String) (version : Int16) :
    (type : FieldType) → type.hasDistinctNames version →
      (value : Value) → (input rest : Bytes) →
        (type.read field version).run input = .ok value rest →
          ∃ written,
            type.write field version value = .ok written ∧
              input = written ++ rest
  | .int8, _, value, input, rest, read => by
      obtain ⟨content, readContent, rfl⟩ := run_convert_eq_ok_iff.mp read
      exact ⟨_, rfl, Decode.int8_eq_ok_iff.mp readContent⟩
  | .int16, _, value, input, rest, read => by
      obtain ⟨content, readContent, rfl⟩ := run_convert_eq_ok_iff.mp read
      exact ⟨_, rfl, Decode.int16_eq_ok_iff.mp readContent⟩
  | .int32, _, value, input, rest, read => by
      obtain ⟨content, readContent, rfl⟩ := run_convert_eq_ok_iff.mp read
      exact ⟨_, rfl, Decode.int32_eq_ok_iff.mp readContent⟩
  | .int64, _, value, input, rest, read => by
      obtain ⟨content, readContent, rfl⟩ := run_convert_eq_ok_iff.mp read
      exact ⟨_, rfl, Decode.int64_eq_ok_iff.mp readContent⟩
  | .boolean, _, value, input, rest, read => by
      obtain ⟨content, readContent, rfl⟩ := run_convert_eq_ok_iff.mp read
      exact ⟨_, rfl, Decode.boolean_eq_ok_iff.mp readContent⟩
  | .string, _, value, input, rest, read => by
      obtain ⟨content, readContent, rfl⟩ := run_convert_eq_ok_iff.mp read
      exact Decode.string_eq_ok_iff.mp readContent
  | .nullableString, _, value, input, rest, read => by
      obtain ⟨content, readContent, rfl⟩ := run_convert_eq_ok_iff.mp read
      exact Decode.nullableString_eq_ok_iff.mp readContent
  | .bytes, _, value, input, rest, read => by
      obtain ⟨content, readContent, rfl⟩ := run_convert_eq_ok_iff.mp read
      exact Decode.bytes_eq_ok_iff.mp readContent
  | .nullableBytes, _, value, input, rest, read => by
      obtain ⟨content, readContent, rfl⟩ := run_convert_eq_ok_iff.mp read
      exact Decode.nullableBytes_eq_ok_iff.mp readContent
  | .array element, distinct, value, input, rest, read => by
      rw [FieldType.read, run_bind_eq_ok_iff] at read
      obtain ⟨number, between, readCount, readItems⟩ := read
      obtain ⟨items, readEach, rfl⟩ := run_convert_eq_ok_iff.mp readItems
      obtain ⟨counted, wroteCount, rfl⟩ := Decode.count_eq_ok_iff.mp readCount
      obtain ⟨rfl, others, wroteItems, rfl⟩ :=
        Decode.writeEach_of_times
          (FieldType.write_of_read field version element distinct) readEach
      exact ⟨counted ++ others,
        FieldType.write_eq_ok_iff.mpr (.array wroteCount wroteItems), by simp⟩
  | .struct schema, distinct, value, input, rest, read => by
      obtain ⟨record, readRecord, rfl⟩ := run_convert_eq_ok_iff.mp read
      exact Schema.write_of_readInto version schema distinct ∅ record input rest
        readRecord

/-- A record that was read is written as the bytes it was read from. -/
theorem Schema.write_of_readInto (version : Int16) :
    (schema : Schema) → schema.hasDistinctNames version →
      (held record : Record) → (input rest : Bytes) →
        (schema.readInto version held).run input = .ok record rest →
          ∃ written,
            schema.write version record = .ok written ∧ input = written ++ rest
  | .nil, _, held, record, input, rest, read => by
      cases read
      exact ⟨[], rfl, rfl⟩
  | .cons name type versions others, distinct, held, record, input, rest,
      read => by
      rw [Schema.readInto] at read
      by_cases active : versions.contains version = true
      · obtain ⟨fresh, typeDistinct, othersDistinct⟩ :=
          (Schema.hasDistinctNames_cons_iff active).mp distinct
        rw [if_pos active, run_bind_eq_ok_iff] at read
        obtain ⟨value, between, readValue, readOthers⟩ := read
        obtain ⟨first, wroteFirst, rfl⟩ :=
          FieldType.write_of_read name version type typeDistinct value input
            between readValue
        obtain ⟨last, wroteOthers, rfl⟩ :=
          Schema.write_of_readInto version others othersDistinct _ record
            between rest readOthers
        have stillHeld : record.get? name = some value := by
          rw [Schema.get?_of_readInto others readOthers fresh,
            Table.get?_insert, if_pos rfl]
        exact ⟨first ++ last,
          (Schema.write_cons_eq_ok_iff active).mpr
            ⟨value, first, last, stillHeld, wroteFirst, wroteOthers, rfl⟩,
          by simp⟩
      · rw [Schema.hasDistinctNames, if_neg active] at distinct
        rw [if_neg active] at read
        rw [Schema.write_cons_of_inactive active]
        exact Schema.write_of_readInto version others distinct held record input
          rest read

end

/--
Whether a record holds exactly the active fields with values of their types.

Restricting such a record, and the records nested in it, takes nothing away.
-/
structure Schema.HoldsExactly
    (version : Int16) (schema : Schema) (record : Record) : Prop where
  conforms : schema.Conforms version record
  restricted : schema.restrict version record = record

/-- Every active name has a value in a conforming record. -/
theorem Schema.Conforms.exists_value {version : Int16} {record : Record}
    {name : String} (schema : Schema)
    (conforms : schema.Conforms version record)
    (isActive : name ∈ schema.activeNames version) :
    ∃ value, record.get? name = some value := by
  cases schema with
  | nil =>
      cases isActive
  | cons first type versions rest =>
      obtain ⟨present, others⟩ := conforms
      rw [Schema.activeNames_cons] at isActive
      split at isActive
      · next active =>
          rcases List.mem_cons.mp isActive with isFirst | inRest
          · subst isFirst
            obtain ⟨value, holds, -⟩ := present active
            exact ⟨value, holds⟩
          · exact Schema.Conforms.exists_value rest others inRest
      · exact Schema.Conforms.exists_value rest others isActive

/-- The names of such a record are the active ones. -/
theorem Schema.HoldsExactly.contains_iff {version : Int16} {schema : Schema}
    {record : Record} (holds : schema.HoldsExactly version record)
    (name : String) :
    record.contains name ↔ name ∈ schema.activeNames version := by
  rw [Table.contains]
  constructor
  · intro present
    by_cases isActive : name ∈ schema.activeNames version
    · exact isActive
    · rw [← holds.restricted, Schema.get?_restrict_of_not_mem isActive]
        at present
      cases present
  · intro isActive
    obtain ⟨value, isValue⟩ :=
      Schema.Conforms.exists_value schema holds.conforms isActive
    rw [isValue]
    rfl

/--
A schema with distinct names reads exactly what it writes: the accepted inputs
are the wire forms of the records with exactly the active fields, each followed
by any bytes.  So no two byte strings are read as the same record when nothing
is left over.
-/
theorem read_accepts_exactly_written (version : Int16) (schema : Schema)
    (distinct : schema.hasDistinctNames version) :
    (∀ (record : Record) (input rest : Bytes),
      (schema.read version).run input = .ok record rest ↔
        schema.HoldsExactly version record ∧
          ∃ written,
            schema.write version record = .ok written ∧
              input = written ++ rest) ∧
    (∀ (record : Record) (left right : Bytes),
      (schema.read version).run left = .ok record [] →
        (schema.read version).run right = .ok record [] →
          left = right) := by
  have canonical := Schema.write_of_readInto version schema distinct ∅
  constructor
  · intro record input rest
    constructor
    · intro read
      obtain ⟨written, wrote, rfl⟩ := canonical record input rest read
      have readBack := Schema.read_append_of_write wrote rest
      rw [read] at readBack
      injection readBack with same
      exact ⟨⟨(Schema.exists_write_iff version schema record).mp
        ⟨written, wrote⟩, same.symm⟩, written, wrote, rfl⟩
    · rintro ⟨holds, written, wrote, rfl⟩
      have readBack := Schema.read_append_of_write wrote rest
      rw [holds.restricted] at readBack
      exact readBack
  · intro record left right readLeft readRight
    obtain ⟨leftWritten, wroteLeft, rfl⟩ := canonical record left [] readLeft
    obtain ⟨rightWritten, wroteRight, rfl⟩ :=
      canonical record right [] readRight
    rw [wroteLeft] at wroteRight
    injection wroteRight with same
    rw [same]

theorem read_accepts_exactly_written_topic :
    topicSchema.hasDistinctNames 0 = true ∧
      (topicSchema.read 0).run topicBytes =
        .ok (topicSchema.restrict 0 topicRecord) [] ∧
      topicSchema.HoldsExactly 0 (topicSchema.restrict 0 topicRecord) ∧
      ∀ input,
        (topicSchema.read 0).run input =
            .ok (topicSchema.restrict 0 topicRecord) [] →
          input = topicBytes := by
  have distinct : topicSchema.hasDistinctNames 0 = true := rfl
  have read :
      (topicSchema.read 0).run topicBytes =
        .ok (topicSchema.restrict 0 topicRecord) [] := by
    rfl
  obtain ⟨accepted, injective⟩ :=
    read_accepts_exactly_written 0 topicSchema distinct
  exact ⟨distinct, read, ((accepted _ _ _).mp read).1,
    fun input readInput => injective _ input topicBytes readInput read⟩

end BrokerSession
