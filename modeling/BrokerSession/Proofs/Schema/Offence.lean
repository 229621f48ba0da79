import BrokerSession.Proofs.Schema.RoundTrip

namespace BrokerSession

/-!
# What a writer refuses, and how much it writes

A record is written place by place: each active field, and inside of it each
item of an array and each field of a nested record.  What is held in a place
either fits the place or offends in one way, whatever stands elsewhere.  The
writer stops at the first place that offends; if none does, it writes as many
bytes as the places are wide together.
-/

/-! ## Places -/

/-- A place on the wire: the field that it is part of, its type, what it holds. -/
structure Place where
  field : String
  type : FieldType
  held : Option Value

mutual

/-- The places inside of a value in wire order, each before those inside of it. -/
def FieldType.placesWithin (field : String) (version : Int16) :
    FieldType → Value → List Place
  | .array element, .array items =>
      items.flatMap fun item =>
        ⟨field, element, some item⟩ :: element.placesWithin field version item
  | .struct schema, .struct record => schema.places version record
  | _, _ => []

/-- The places of a record at a version, its fields in wire order. -/
def Schema.places (version : Int16) : Schema → Record → List Place
  | .nil, _ => []
  | .cons name type versions rest, record =>
      if versions.contains version then
        ⟨name, type, record.get? name⟩ ::
          ((record.get? name).elim [] (type.placesWithin name version) ++
            rest.places version record)
      else
        rest.places version record

end

/-! ## Offences -/

/-- What is wrong with a text under its two-byte length. -/
def overlongText? (field text : String) : Option SchemaError :=
  if text.utf8ByteSize ≤ Encode.maxStringLength then none
  else some (.stringTooLong field text.utf8ByteSize)

/-- What is wrong with so many bytes or items under their four-byte count. -/
def overlargeCount? (field : String) (number : Nat) : Option SchemaError :=
  if number ≤ Encode.maxCount then none
  else some (.invalidLength field (-1))

/-- What is wrong with a value by itself, apart from what is inside of it. -/
def FieldType.offence? (field : String) :
    FieldType → Value → Option SchemaError
  | .int8, .int8 _ | .int16, .int16 _ | .int32, .int32 _ | .int64, .int64 _
  | .boolean, .boolean _ | .struct _, .struct _ => none
  | .string, .string text => overlongText? field text
  | .nullableString, .nullableString text => text.bind (overlongText? field)
  | .bytes, .bytes content => overlargeCount? field content.length
  | .nullableBytes, .nullableBytes content =>
      content.bind fun content => overlargeCount? field content.length
  | .array _, .array items => overlargeCount? field items.length
  | type, _ => some (.typeMismatch field type.name)

/-- What is wrong with a place: nothing is there, or the value does not fit. -/
def Place.offence? (version : Int16) (place : Place) : Option SchemaError :=
  match place.held with
  | none => some (.missingField place.field version)
  | some value => place.type.offence? place.field value

/-- Items offend in the order in which they stand. -/
private theorem findSome?_flatMap {Item Part Found : Type}
    (parts : Item → List Part) (find : Part → Option Found)
    (items : List Item) :
    (items.flatMap parts).findSome? find =
      items.findSome? fun item => (parts item).findSome? find := by
  induction items with
  | nil =>
      rfl
  | cons item rest inductionHypothesis =>
      rw [List.flatMap_cons, List.findSome?_append, inductionHypothesis,
        List.findSome?_cons]
      cases (parts item).findSome? find <;> rfl

private theorem findSome?_cons_eq_or {Part Found : Type}
    (find : Part → Option Found) (part : Part) (others : List Part) :
    (part :: others).findSome? find =
      (find part).or (others.findSome? find) := by
  rw [List.findSome?_cons]
  cases find part <;> rfl

theorem Encode.failure?_count (field : String) (number : Nat) :
    failure? (count field number) = overlargeCount? field number := by
  rw [count, overlargeCount?]
  split <;> rfl

theorem Encode.failure?_string (field text : String) :
    failure? (string field text) = overlongText? field text := by
  rw [string, overlongText?]
  split <;> rfl

theorem Encode.failure?_bytes (field : String) (content : Bytes) :
    failure? (bytes field content) = overlargeCount? field content.length := by
  rw [bytes, failure?_bind_of_ok fun _ => rfl, failure?_count]

/-- Items fail together as the first of them that fails. -/
theorem failure?_writeEach {Item : Type} (write : Item → Except SchemaError Bytes)
    (items : List Item) :
    failure? (writeEach write items) =
      items.findSome? fun item => failure? (write item) := by
  induction items with
  | nil =>
      rfl
  | cons item rest inductionHypothesis =>
      rw [writeEach, findSome?_cons_eq_or, ← inductionHypothesis]
      exact failure?_bind fun bytes => failure?_bind_of_ok fun _ => rfl

mutual

/-- A value is refused for the first offence, in itself or inside of it. -/
theorem FieldType.failure?_write (field : String) (version : Int16) :
    (type : FieldType) → (value : Value) →
      failure? (type.write field version value) =
        (type.offence? field value).or
          ((type.placesWithin field version value).findSome?
            (Place.offence? version))
  | .int8, value | .int16, value | .int32, value | .int64, value
  | .boolean, value => by
      cases value <;> rfl
  | .string, value => by
      cases value with
      | string text =>
          rw [FieldType.write, Encode.failure?_string]
          exact (Option.or_none).symm
      | _ =>
          rfl
  | .nullableString, value => by
      cases value with
      | nullableString text =>
          cases text with
          | none =>
              rfl
          | some text =>
              rw [FieldType.write, Encode.nullableString,
                Encode.failure?_string]
              exact (Option.or_none).symm
      | _ =>
          rfl
  | .bytes, value => by
      cases value with
      | bytes content =>
          rw [FieldType.write, Encode.failure?_bytes]
          exact (Option.or_none).symm
      | _ =>
          rfl
  | .nullableBytes, value => by
      cases value with
      | nullableBytes content =>
          cases content with
          | none =>
              rfl
          | some content =>
              rw [FieldType.write, Encode.nullableBytes, Encode.failure?_bytes]
              exact (Option.or_none).symm
      | _ =>
          rfl
  | .array element, value => by
      cases value with
      | array items =>
          -- The count is written first, so it offends before any item does.
          have ofItems :
              failure? (writeEach (element.write field version) items) =
                ((FieldType.array element).placesWithin field version
                  (.array items)).findSome? (Place.offence? version) := by
            rw [failure?_writeEach, FieldType.placesWithin, findSome?_flatMap]
            congr 1
            funext item
            rw [FieldType.failure?_write field version element item,
              findSome?_cons_eq_or, Place.offence?]
          rw [FieldType.write, FieldType.offence?, ← Encode.failure?_count,
            ← ofItems]
          exact failure?_bind fun counted => failure?_bind_of_ok fun _ => rfl
      | _ =>
          rfl
  | .struct schema, value => by
      cases value with
      | struct record =>
          exact Schema.failure?_write version schema record
      | _ =>
          rfl

/-- A record is refused for the first offence among its places. -/
theorem Schema.failure?_write (version : Int16) :
    (schema : Schema) → (record : Record) →
      failure? (schema.write version record) =
        (schema.places version record).findSome? (Place.offence? version)
  | .nil, record => rfl
  | .cons name type versions rest, record => by
      have others := Schema.failure?_write version rest record
      rw [Schema.write, Schema.places]
      split
      · rw [findSome?_cons_eq_or, List.findSome?_append, ← others,
          Place.offence?]
        cases record.get? name with
        | none =>
            rfl
        | some value =>
            rw [← Option.or_assoc, Option.elim_some,
              ← FieldType.failure?_write name version type value]
            exact failure?_bind fun first => failure?_bind_of_ok fun _ => rfl
      · exact others

end

/-! ## Widths -/

mutual

/-- How many bytes a value of a type is wide, length prefixes included. -/
def FieldType.width (version : Int16) : FieldType → Value → Nat
  | .int8, _ => 1
  | .int16, _ => 2
  | .int32, _ => 4
  | .int64, _ => 8
  | .boolean, _ => 1
  | .string, .string text => 2 + text.utf8ByteSize
  | .nullableString, .nullableString text =>
      2 + text.elim 0 String.utf8ByteSize
  | .bytes, .bytes content => 4 + content.length
  | .nullableBytes, .nullableBytes content => 4 + content.elim 0 List.length
  | .array element, .array items =>
      4 + (items.map (element.width version)).sum
  | .struct schema, .struct record => schema.width version record
  | _, _ => 0

/-- How many bytes the active fields of a record are wide together. -/
def Schema.width (version : Int16) : Schema → Record → Nat
  | .nil, _ => 0
  | .cons name type versions rest, record =>
      if versions.contains version then
        (record.get? name).elim 0 (type.width version) +
          rest.width version record
      else
        rest.width version record

end

/-- The width of a record is the sum over its active fields. -/
theorem Schema.width_eq_sum (version : Int16) (schema : Schema)
    (record : Record) :
    schema.width version record =
      ((schema.fieldsFor version).map fun field =>
        (record.get? field.name).elim 0 (field.type.width version)).sum := by
  cases schema with
  | nil =>
      rfl
  | cons name type versions rest =>
      rw [width, fieldsFor_cons, width_eq_sum version rest record]
      split
      · rw [List.map_cons, List.sum_cons]
      · rfl

theorem Encode.length_of_count {field : String} {number : Nat}
    {written : Bytes} (wrote : count field number = .ok written) :
    written.length = 4 := by
  rw [count] at wrote
  split at wrote
  · cases wrote
    exact Bytes.length_bigEndian 4 number
  · cases wrote

theorem Encode.length_of_string {field text : String} {written : Bytes}
    (wrote : string field text = .ok written) :
    written.length = 2 + text.utf8ByteSize := by
  rw [string] at wrote
  split at wrote
  · cases wrote
    rw [List.length_append, Bytes.length_bigEndian, Bytes.length_ofString]
  · cases wrote

theorem Encode.length_of_bytes {field : String} {content written : Bytes}
    (wrote : bytes field content = .ok written) :
    written.length = 4 + content.length := by
  obtain ⟨counted, wroteCount, returned⟩ := except_bind_eq_ok_iff.mp wrote
  cases returned
  rw [List.length_append, length_of_count wroteCount]

/-- Items are written one after the other, so their widths add up. -/
theorem length_of_writeEach {Item : Type}
    {write : Item → Except SchemaError Bytes} {width : Item → Nat}
    (each : ∀ item written, write item = .ok written →
      written.length = width item)
    {items : List Item} {written : Bytes}
    (wrote : writeEach write items = .ok written) :
    written.length = (items.map width).sum := by
  induction items generalizing written with
  | nil =>
      cases wrote
      rfl
  | cons item rest inductionHypothesis =>
      obtain ⟨first, others, wroteFirst, wroteOthers, rfl⟩ :=
        writeEach_cons_eq_ok_iff.mp wrote
      rw [List.length_append, List.map_cons, List.sum_cons,
        each item first wroteFirst, inductionHypothesis wroteOthers]

mutual

/-- A value that is written takes up its width. -/
theorem FieldType.length_of_write (field : String) (version : Int16) :
    (type : FieldType) → (value : Value) → (written : Bytes) →
      type.write field version value = .ok written →
        written.length = type.width version value
  | .int8, value, written, wrote => by
      cases FieldType.write_eq_ok_iff.mp wrote
      exact Bytes.length_ofInt8 _
  | .int16, value, written, wrote => by
      cases FieldType.write_eq_ok_iff.mp wrote
      exact Bytes.length_ofInt16 _
  | .int32, value, written, wrote => by
      cases FieldType.write_eq_ok_iff.mp wrote
      exact Bytes.length_ofInt32 _
  | .int64, value, written, wrote => by
      cases FieldType.write_eq_ok_iff.mp wrote
      exact Bytes.length_ofInt64 _
  | .boolean, value, written, wrote => by
      cases FieldType.write_eq_ok_iff.mp wrote
      rfl
  | .string, value, written, wrote => by
      cases FieldType.write_eq_ok_iff.mp wrote with
      | string wroteText =>
          exact Encode.length_of_string wroteText
  | .nullableString, value, written, wrote => by
      cases FieldType.write_eq_ok_iff.mp wrote with
      | @nullableString text _ wroteText =>
          cases text with
          | none =>
              cases wroteText
              exact Bytes.length_ofInt16 _
          | some text =>
              exact Encode.length_of_string wroteText
  | .bytes, value, written, wrote => by
      cases FieldType.write_eq_ok_iff.mp wrote with
      | bytes wroteBytes =>
          exact Encode.length_of_bytes wroteBytes
  | .nullableBytes, value, written, wrote => by
      cases FieldType.write_eq_ok_iff.mp wrote with
      | @nullableBytes content _ wroteBytes =>
          cases content with
          | none =>
              cases wroteBytes
              exact Bytes.length_ofInt32 _
          | some content =>
              exact Encode.length_of_bytes wroteBytes
  | .array element, value, written, wrote => by
      cases FieldType.write_eq_ok_iff.mp wrote with
      | array wroteCount wroteItems =>
          rw [List.length_append, Encode.length_of_count wroteCount,
            length_of_writeEach
              (FieldType.length_of_write field version element) wroteItems,
            FieldType.width]
  | .struct schema, value, written, wrote => by
      cases FieldType.write_eq_ok_iff.mp wrote with
      | struct wroteRecord =>
          exact Schema.length_of_write version schema _ written wroteRecord

/-- A record that is written takes up the width of its active fields. -/
theorem Schema.length_of_write (version : Int16) :
    (schema : Schema) → (record : Record) → (written : Bytes) →
      schema.write version record = .ok written →
        written.length = schema.width version record
  | .nil, record, written, wrote => by
      cases wrote
      rfl
  | .cons name type versions rest, record, written, wrote => by
      by_cases active : versions.contains version = true
      · obtain ⟨value, first, others, held, wroteFirst, wroteOthers, rfl⟩ :=
          (Schema.write_cons_eq_ok_iff active).mp wrote
        rw [Schema.width, if_pos active, held, List.length_append,
          FieldType.length_of_write name version type value first wroteFirst,
          Schema.length_of_write version rest record others wroteOthers,
          Option.elim_some]
      · rw [Schema.write_cons_of_inactive active] at wrote
        rw [Schema.width, if_neg active]
        exact Schema.length_of_write version rest record written wrote

end

/-! ## What a write comes to -/

/--
A record is written exactly if it conforms, and otherwise the first offence
among its places in wire order is reported.

What is written is as long as the active fields are wide.  A message refuses a
version that it does not have before it looks at the record.
-/
theorem write_reports_first_offence (version : Int16) (record : Record) :
    (∀ schema : Schema,
      ((∃ written, schema.write version record = .ok written) ↔
        schema.Conforms version record) ∧
      (∀ written, schema.write version record = .ok written →
        written.length =
          ((schema.fieldsFor version).map fun field =>
            (record.get? field.name).elim 0
              (field.type.width version)).sum) ∧
      (∀ failure, schema.write version record = .error failure ↔
        (schema.places version record).findSome? (Place.offence? version) =
          some failure)) ∧
    (∀ message : MessageSchema,
      message.encode version record =
        if message.versions.contains version then
          message.body.write version record
        else .error (.unsupportedVersion message.name version)) := by
  constructor
  · intro schema
    refine ⟨schema.exists_write_iff version record, ?_, ?_⟩
    · intro written wrote
      rw [schema.length_of_write version record written wrote,
        schema.width_eq_sum]
    · intro failure
      rw [← failure?_eq_some_iff, schema.failure?_write]
  · intro message
    rw [MessageSchema.encode, MessageSchema.checkVersion]
    split <;> rfl

/--
A topic whose second partition offends twice at version one: it has no leader,
and its log may not be null.
-/
def unfitTopicRecord : Record :=
  .ofList [
    ("topic", .string "é"),
    ("partitions", .array [
      .struct (.ofList [("leader", .int16 7), ("log", .nullableBytes none)]),
      .struct (.ofList [("log", .bytes [1])])])]

theorem write_reports_first_offence_topic :
    topicSchema.write 0 topicRecord = .ok topicBytes ∧
    topicBytes.length = 13 ∧
    topicSchema.write 1 unfitTopicRecord =
      .error (.missingField "leader" 1) ∧
    topicSchema.write 0 unfitTopicRecord =
      .error (.typeMismatch "log" "nullable bytes") ∧
    MessageSchema.encode ⟨"Topic", ⟨0, 1⟩, topicSchema⟩ 2 unfitTopicRecord =
      .error (.unsupportedVersion "Topic" 2) := by
  have written := (write_reports_first_offence 0 topicRecord).1 topicSchema
  have early := (write_reports_first_offence 0 unfitTopicRecord).1 topicSchema
  have later := (write_reports_first_offence 1 unfitTopicRecord).1 topicSchema
  have refused := (write_reports_first_offence 2 unfitTopicRecord).2
  exact ⟨rfl, written.2.1 topicBytes rfl, (later.2.2 _).mpr rfl,
    (early.2.2 _).mpr rfl, refused ⟨"Topic", ⟨0, 1⟩, topicSchema⟩⟩

end BrokerSession
