import BrokerSession.Proofs.Catalog.Record
import BrokerSession.Proofs.Schema.MinWidth

namespace BrokerSession

/-!
# Counts that a peer announces

An array begins with the number of its items, which a hostile peer may choose
at will, here and in every array inside of the items.  The reader believes the
number, but it runs out of bytes before it has read items that were not sent.
So no count makes a record larger than the bytes that it was read from.
-/

/-! ## The arrays that are read -/

/-- An array as it was read: the type of its items, the items, their bytes. -/
structure ArrayReading where
  element : FieldType
  items : List Value
  consumed : Bytes

mutual

/-- Whether an array is read from an input, at any depth, as part of a field. -/
inductive FieldType.ReadsArray (version : Int16) (reading : ArrayReading) :
    FieldType → String → Bytes → Prop where
  | array {field : String} {number : Nat} {input after : Bytes}
      (counted :
        (Decode.count field).run input =
          .ok number (reading.consumed ++ after))
      (listed :
        (Decode.times (reading.element.read field version) number).run
            (reading.consumed ++ after) =
          .ok reading.items after) :
      FieldType.ReadsArray version reading (.array reading.element) field input
  | item {element : FieldType} {field : String} {number earlier : Nat}
      {input before between : Bytes} {passed : List Value}
      (counted : (Decode.count field).run input = .ok number before)
      (isEarlier : earlier < number)
      (listed :
        (Decode.times (element.read field version) earlier).run before =
          .ok passed between)
      (inside : FieldType.ReadsArray version reading element field between) :
      FieldType.ReadsArray version reading (.array element) field input
  | struct {schema : Schema} {field : String} {input : Bytes}
      (inside : Schema.ReadsArray version reading schema input) :
      FieldType.ReadsArray version reading (.struct schema) field input

/-- Whether an array is read from an input, at any depth, as part of a record. -/
inductive Schema.ReadsArray (version : Int16) (reading : ArrayReading) :
    Schema → Bytes → Prop where
  | inside {name : String} {type : FieldType} {versions : VersionRange}
      {rest : Schema} {input : Bytes} (active : versions.contains version)
      (inside : FieldType.ReadsArray version reading type name input) :
      Schema.ReadsArray version reading (.cons name type versions rest) input
  | after {name : String} {type : FieldType} {versions : VersionRange}
      {rest : Schema} {input between : Bytes} {value : Value}
      (active : versions.contains version)
      (read : (type.read name version).run input = .ok value between)
      (after : Schema.ReadsArray version reading rest between) :
      Schema.ReadsArray version reading (.cons name type versions rest) input
  | inactive {name : String} {type : FieldType} {versions : VersionRange}
      {rest : Schema} {input : Bytes} (inactive : ¬ versions.contains version)
      (after : Schema.ReadsArray version reading rest input) :
      Schema.ReadsArray version reading (.cons name type versions rest) input

end

/-- An item was read where the items before it have ended. -/
theorem Decode.exists_run_of_mem_times {Content : Type}
    {reader : Reader Content} {number : Nat} {input rest : Bytes}
    {contents : List Content} {content : Content}
    (read : (times reader number).run input = .ok contents rest)
    (member : content ∈ contents) :
    ∃ earlier passed between after,
      earlier < number ∧
        (times reader earlier).run input = .ok passed between ∧
          reader.run between = .ok content after := by
  induction number generalizing input contents with
  | zero =>
      obtain ⟨rfl, -⟩ := times_zero_eq_ok_iff.mp read
      cases member
  | succ number inductionHypothesis =>
      obtain ⟨first, others, behind, readFirst, readOthers, rfl⟩ :=
        times_succ_eq_ok_iff.mp read
      rcases List.mem_cons.mp member with rfl | isLater
      · exact ⟨0, [], input, behind, Nat.succ_pos number,
          times_zero_eq_ok_iff.mpr ⟨rfl, rfl⟩, readFirst⟩
      · obtain ⟨earlier, passed, between, after, isEarlier, readPassed,
          readContent⟩ := inductionHypothesis readOthers isLater
        exact ⟨earlier + 1, first :: passed, between, after,
          Nat.succ_lt_succ isEarlier,
          times_succ_eq_ok_iff.mpr
            ⟨first, passed, behind, readFirst, readPassed, rfl⟩,
          readContent⟩

/-- The arrays of a grown record are in the new value or were there before. -/
theorem Record.mem_arrays_of_mem_insert {record : Record} {name : String}
    {value : Value} {items : List Value}
    (member : items ∈ Record.arrays (record.insert name value)) :
    items ∈ value.arrays ∨ items ∈ record.arrays := by
  simp only [Record.arrays_eq_flatMap, Table.values, List.mem_flatMap,
    List.mem_map] at member ⊢
  obtain ⟨held, ⟨entry, isEntry, rfl⟩, inside⟩ := member
  rcases Table.eq_or_mem_of_mem_insertEntry isEntry with rfl | older
  · exact .inl inside
  · exact .inr ⟨entry.2, ⟨entry, older, rfl⟩, inside⟩

mutual

/-- Every array inside of a value that was read has been read itself. -/
theorem FieldType.exists_readsArray (version : Int16) :
    (type : FieldType) → (field : String) → (value : Value) →
      (input rest : Bytes) →
        (type.read field version).run input = .ok value rest →
          ∀ items ∈ value.arrays, ∃ reading,
            type.ReadsArray version reading field input ∧
              reading.items = items
  | .int8, field, value, input, rest, read
  | .int16, field, value, input, rest, read
  | .int32, field, value, input, rest, read
  | .int64, field, value, input, rest, read
  | .boolean, field, value, input, rest, read
  | .string, field, value, input, rest, read
  | .nullableString, field, value, input, rest, read
  | .bytes, field, value, input, rest, read
  | .nullableBytes, field, value, input, rest, read => by
      intro items member
      obtain ⟨_, _, rfl⟩ := run_convert_eq_ok_iff.mp read
      cases member
  | .array element, field, value, input, rest, read => by
      rw [FieldType.read, run_bind_eq_ok_iff] at read
      obtain ⟨number, between, readCount, readItems⟩ := read
      obtain ⟨listed, readEach, rfl⟩ := run_convert_eq_ok_iff.mp readItems
      intro items member
      rw [Value.arrays_array, List.mem_cons, List.mem_flatMap] at member
      rcases member with rfl | ⟨item, isItem, inside⟩
      · obtain ⟨consumed, rfl, -⟩ := FieldType.length_mul_le_of_times readEach
        exact ⟨⟨element, items, consumed⟩, .array readCount readEach, rfl⟩
      · obtain ⟨earlier, passed, before, after, isEarlier, readPassed,
          readItem⟩ := Decode.exists_run_of_mem_times readEach isItem
        obtain ⟨reading, reads, same⟩ :=
          FieldType.exists_readsArray version element field item before after
            readItem items inside
        exact ⟨reading, .item readCount isEarlier readPassed reads, same⟩
  | .struct schema, field, value, input, rest, read => by
      obtain ⟨record, readRecord, rfl⟩ := run_convert_eq_ok_iff.mp read
      intro items member
      rcases Schema.exists_readsArray version schema ∅ record input rest
          readRecord items member with held | ⟨reading, reads, same⟩
      · cases held
      · exact ⟨reading, .struct reads, same⟩

/-- Every array inside of a record was held before or has been read. -/
theorem Schema.exists_readsArray (version : Int16) :
    (schema : Schema) → (held record : Record) → (input rest : Bytes) →
      (schema.readInto version held).run input = .ok record rest →
        ∀ items ∈ record.arrays,
          items ∈ held.arrays ∨
            ∃ reading,
              schema.ReadsArray version reading input ∧ reading.items = items
  | .nil, held, record, input, rest, read => by
      cases read
      exact fun items member => .inl member
  | .cons name type versions others, held, record, input, rest, read => by
      intro items member
      by_cases active : versions.contains version = true
      · obtain ⟨value, between, readValue, readOthers⟩ :=
          (Schema.readInto_cons_eq_ok_iff active).mp read
        rcases Schema.exists_readsArray version others _ record between rest
            readOthers items member with inHeld | ⟨reading, reads, same⟩
        · rcases Record.mem_arrays_of_mem_insert inHeld with ofValue | older
          · obtain ⟨reading, reads, same⟩ :=
              FieldType.exists_readsArray version type name value input between
                readValue items ofValue
            exact .inr ⟨reading, .inside active reads, same⟩
          · exact .inl older
        · exact .inr ⟨reading, .after active readValue reads, same⟩
      · rw [Schema.readInto, if_neg active] at read
        rcases Schema.exists_readsArray version others held record input rest
            read items member with older | ⟨reading, reads, same⟩
        · exact .inl older
        · exact .inr ⟨reading, .inactive active reads, same⟩

end

/-! ## What their items take up -/

mutual

/-- Each item of an array takes up the bytes that its type is wide. -/
theorem FieldType.ReadsArray.length_mul_le {version : Int16}
    {reading : ArrayReading} {type : FieldType} {field : String}
    {input : Bytes} :
    type.ReadsArray version reading field input →
      reading.items.length * reading.element.minWidth version ≤
        reading.consumed.length
  | .array _ listed => by
      obtain ⟨consumed, same, paid⟩ := FieldType.length_mul_le_of_times listed
      rw [List.append_cancel_right same]
      exact paid
  | .item _ _ _ inside => inside.length_mul_le
  | .struct inside => inside.length_mul_le

/-- Each item of an array takes up the bytes that its type is wide. -/
theorem Schema.ReadsArray.length_mul_le {version : Int16}
    {reading : ArrayReading} {schema : Schema} {input : Bytes} :
    schema.ReadsArray version reading input →
      reading.items.length * reading.element.minWidth version ≤
        reading.consumed.length
  | .inside _ inside => inside.length_mul_le
  | .after _ _ after => after.length_mul_le
  | .inactive _ after => after.length_mul_le

end

/-- No message has items that are free of charge. -/
theorem ApiKey.itemsTake {api : ApiKey} {version : Int16}
    (supported : api.versions.contains version = true) :
    api.requestSchema.body.itemsTake 1 version = true ∧
      api.responseSchema.body.itemsTake 1 version = true := by
  rcases version_cases supported with rfl | rfl | rfl <;>
    cases api <;> exact ⟨rfl, rfl⟩

/--
A count that a peer announces cannot inflate the record that is read.

If each item of each array takes up at least a byte, as in all messages, then a
record has no more items at all depths together than bytes were consumed for
it.  Every array in the record has been read at some place of the buffer, and
whatever array is read, the bytes consumed for its items are enough for as many
values of their type as there are items, each as short as such a value can be.
-/
theorem counts_are_covered_by_bytes :
    (∀ (field : String) (version : Int16) (type : FieldType),
      IsLeast (type.sizes field version) (type.minWidth version)) ∧
    (∀ (version : Int16) (schema : Schema) (buffer rest : Bytes)
        (record : Record),
      schema.itemsTake 1 version = true →
        (schema.read version).run buffer = .ok record rest →
          (∃ consumed, buffer = consumed ++ rest ∧
            record.elements ≤ consumed.length) ∧
          (∀ items ∈ record.arrays, ∃ reading,
            schema.ReadsArray version reading buffer ∧
              reading.items = items) ∧
          (∀ reading, schema.ReadsArray version reading buffer →
            reading.items.length * reading.element.minWidth version ≤
              reading.consumed.length)) ∧
    (∀ (api : ApiKey) (version : Int16),
      api.versions.contains version = true →
        api.requestSchema.body.itemsTake 1 version = true ∧
          api.responseSchema.body.itemsTake 1 version = true) := by
  refine ⟨fun field version type => type.isLeast_minWidth field version, ?_,
    fun api version supported => ApiKey.itemsTake supported⟩
  intro version schema buffer rest record takes read
  refine ⟨Schema.elements_le_of_read takes read, ?_,
    fun reading reads => reads.length_mul_le⟩
  intro items member
  exact (Schema.exists_readsArray version schema ∅ record buffer rest read items
    member).resolve_left nofun

/-- A topic with two partitions, the first of them with two replicas. -/
def replicatedTopicRecord : Record :=
  .ofList [
    ("topic", .string "é"),
    ("identifier", .bytes []),
    ("partitions", .array [
      .struct (.ofList [
        ("log", .nullableBytes none),
        ("replicas", .array [.int16 1, .int16 2])]),
      .struct (.ofList [
        ("log", .nullableBytes none),
        ("replicas", .array [])])])]

/-- The wire form of the replicated topic at version two. -/
def replicatedTopicBytes : Bytes :=
  [0, 2, 0xC3, 0xA9, 0, 0, 0, 0, 0, 0, 0, 2,
    0xFF, 0xFF, 0xFF, 0xFF, 0, 0, 0, 2, 0, 1, 0, 2,
    0xFF, 0xFF, 0xFF, 0xFF, 0, 0, 0, 0]

/-- Arrays inside of an array, and a byte after the topic. -/
theorem counts_are_covered_by_bytes_topic :
    laterTopicSchema.itemsTake 1 2 = true ∧
      (laterTopicSchema.read 2).run (replicatedTopicBytes ++ [5]) =
        .ok replicatedTopicRecord [5] ∧
      replicatedTopicRecord.elements = 4 ∧
      (∃ consumed, replicatedTopicBytes ++ [5] = consumed ++ [5] ∧
        replicatedTopicRecord.elements ≤ consumed.length) ∧
      ∃ reading,
        laterTopicSchema.ReadsArray 2 reading (replicatedTopicBytes ++ [5]) ∧
          reading.items = [.int16 1, .int16 2] ∧
          reading.items.length * reading.element.minWidth 2 ≤
            reading.consumed.length := by
  have takes : laterTopicSchema.itemsTake 1 2 = true := rfl
  have read :
      (laterTopicSchema.read 2).run (replicatedTopicBytes ++ [5]) =
        .ok replicatedTopicRecord [5] := by
    rfl
  obtain ⟨total, located, covered⟩ :=
    counts_are_covered_by_bytes.2.1 2 laterTopicSchema _ _ _ takes read
  have inside : [.int16 1, .int16 2] ∈ replicatedTopicRecord.arrays :=
    List.mem_cons_of_mem _ List.mem_cons_self
  obtain ⟨reading, reads, same⟩ := located _ inside
  exact ⟨takes, read, rfl, total, reading, reads, same, covered reading reads⟩

end BrokerSession
