import BrokerSession.Proofs.Catalog.Rewriting

namespace BrokerSession

/-!
# The records of messages

The record of a message has each field that the schema of the message writes, at
every version and with a value of the field's type.  So nothing but its version
or a length keeps a message from being written.
-/

variable {version : Int16} {record : Record}

/-- What keeps a message from being written: its version or a length. -/
def SchemaError.IsOfWriting : SchemaError → Prop
  | .unsupportedVersion .. | .stringTooLong .. | .invalidLength .. => True
  | _ => False

/-! ## Records that a schema describes -/

mutual

/-- Whether a value has a type, however long its texts and lists are. -/
def FieldType.Describes (version : Int16) : FieldType → Value → Prop
  | .int8, .int8 _ | .int16, .int16 _ | .int32, .int32 _ | .int64, .int64 _
  | .boolean, .boolean _ | .string, .string _
  | .nullableString, .nullableString _ | .bytes, .bytes _
  | .nullableBytes, .nullableBytes _ => True
  | .array element, .array items =>
      ∀ item ∈ items, element.Describes version item
  | .struct schema, .struct record => schema.Describes version record
  | _, _ => False

/-- Whether a record holds a value of its type for every active field. -/
def Schema.Describes (version : Int16) : Schema → Record → Prop
  | .nil, _ => True
  | .cons name type versions rest, record =>
      (versions.contains version →
        ∃ value,
          record.get? name = some value ∧ type.Describes version value) ∧
        rest.Describes version record

end

/-- A count fails for its size alone. -/
theorem Encode.failsOnly_count (field : String) (number : Nat) :
    FailsOnly SchemaError.IsOfWriting (count field number) := by
  rw [count]
  split
  · exact failsOnly_ok _
  · exact failsOnly_error trivial

/-- A text fails for its length alone. -/
theorem Encode.failsOnly_string (field text : String) :
    FailsOnly SchemaError.IsOfWriting (string field text) := by
  rw [string]
  split
  · exact failsOnly_ok _
  · exact failsOnly_error trivial

/-- A text that may be missing fails as a text does. -/
theorem Encode.failsOnly_nullableString (field : String)
    (text : Option String) :
    FailsOnly SchemaError.IsOfWriting (nullableString field text) := by
  cases text with
  | none =>
      exact failsOnly_ok _
  | some text =>
      exact failsOnly_string field text

/-- Bytes fail for their number alone. -/
theorem Encode.failsOnly_bytes (field : String) (content : Bytes) :
    FailsOnly SchemaError.IsOfWriting (bytes field content) :=
  (failsOnly_count field content.length).bind fun _ => failsOnly_ok _

/-- Bytes that may be missing fail as bytes do. -/
theorem Encode.failsOnly_nullableBytes (field : String)
    (content : Option Bytes) :
    FailsOnly SchemaError.IsOfWriting (nullableBytes field content) := by
  cases content with
  | none =>
      exact failsOnly_ok _
  | some content =>
      exact failsOnly_bytes field content

/-- A list of items fails as one of its items does. -/
theorem failsOnly_writeEach {Item : Type} {expected : SchemaError → Prop}
    {write : Item → Except SchemaError Bytes} {items : List Item}
    (each : ∀ item ∈ items, FailsOnly expected (write item)) :
    FailsOnly expected (writeEach write items) := by
  induction items with
  | nil =>
      exact failsOnly_ok []
  | cons item rest inductionHypothesis =>
      obtain ⟨first, others⟩ := List.forall_mem_cons.mp each
      exact first.bind fun _ =>
        (inductionHypothesis others).bind fun _ => failsOnly_ok _

mutual

/-- Nothing but a length keeps a value of its type from being written. -/
theorem FieldType.failsOnly_write (field : String) (version : Int16) :
    (type : FieldType) → (value : Value) → type.Describes version value →
      FailsOnly SchemaError.IsOfWriting (type.write field version value)
  | .int8, value, described | .int16, value, described
  | .int32, value, described | .int64, value, described
  | .boolean, value, described => by
      cases value <;> first | exact failsOnly_ok _ | cases described
  | .string, value, described => by
      cases value with
      | string text =>
          exact Encode.failsOnly_string field text
      | _ =>
          cases described
  | .nullableString, value, described => by
      cases value with
      | nullableString text =>
          exact Encode.failsOnly_nullableString field text
      | _ =>
          cases described
  | .bytes, value, described => by
      cases value with
      | bytes content =>
          exact Encode.failsOnly_bytes field content
      | _ =>
          cases described
  | .nullableBytes, value, described => by
      cases value with
      | nullableBytes content =>
          exact Encode.failsOnly_nullableBytes field content
      | _ =>
          cases described
  | .array element, value, described => by
      cases value with
      | array items =>
          have each := failsOnly_writeEach fun item isItem =>
            FieldType.failsOnly_write field version element item
              (described item isItem)
          exact (Encode.failsOnly_count field items.length).bind fun _ =>
            each.bind fun _ => failsOnly_ok _
      | _ =>
          cases described
  | .struct schema, value, described => by
      cases value with
      | struct record =>
          exact Schema.failsOnly_write version schema record described
      | _ =>
          cases described

/-- Nothing but a length keeps a described record from being written. -/
theorem Schema.failsOnly_write (version : Int16) :
    (schema : Schema) → (record : Record) →
      schema.Describes version record →
        FailsOnly SchemaError.IsOfWriting (schema.write version record)
  | .nil, record, described => failsOnly_ok []
  | .cons name type versions rest, record, described => by
      obtain ⟨present, later⟩ := described
      have others := Schema.failsOnly_write version rest record later
      rw [Schema.write]
      split
      · next active =>
          obtain ⟨value, held, isOfType⟩ := present active
          rw [held]
          have first :=
            FieldType.failsOnly_write name version type value isOfType
          exact first.bind fun _ => others.bind fun _ => failsOnly_ok _
      · exact others

end

/--
A record that a schema describes is refused for its lengths or its version
alone.
-/
theorem MessageSchema.failsOnly_encode {message : MessageSchema}
    (described : message.body.Describes version record) :
    FailsOnly SchemaError.IsOfWriting (message.encode version record) := by
  have checked :
      FailsOnly SchemaError.IsOfWriting (message.checkVersion version) := by
    rw [checkVersion]
    split
    · exact failsOnly_ok ()
    · exact failsOnly_error trivial
  exact checked.bind fun _ =>
    message.body.failsOnly_write version record described

/-! ## The record of a message -/

/-- A partition's record has the fields of a partition. -/
theorem TopicPartition.describes_toRecord (place : TopicPartition) :
    (Schema.ofFields
        [{ name := "topic", type := .string },
          { name := "partition", type := .int32 }]).Describes version
      place.toRecord := by
  obtain ⟨topic, partition⟩ := place.get?_toRecord
  exact ⟨fun _ => ⟨_, topic, trivial⟩, fun _ => ⟨_, partition, trivial⟩,
    trivial⟩

/-- The record of a request has the fields that its schema asks for. -/
theorem RequestBody.describes_toRecord (body : RequestBody) :
    body.api.requestSchema.body.Describes version body.toRecord := by
  cases body with
  | apiVersions =>
      trivial
  | saslHandshake mechanism =>
      exact ⟨fun _ => ⟨_, Table.get?_ofList_singleton _ _, trivial⟩, trivial⟩
  | saslAuthenticate token =>
      exact ⟨fun _ => ⟨_, Table.get?_ofList_singleton _ _, trivial⟩, trivial⟩
  | stopReplica content =>
      obtain ⟨controllerId, controllerEpoch, deletePartitions, places⟩ :=
        content.get?_toRecord
      refine ⟨fun _ => ⟨_, controllerId, trivial⟩,
        fun _ => ⟨_, controllerEpoch, trivial⟩,
        fun _ => ⟨_, deletePartitions, trivial⟩,
        fun _ => ⟨_, places, ?_⟩, trivial⟩
      exact List.forall_mem_map.mpr fun place _ => place.describes_toRecord

/-- The record of a response has the fields that its schema asks for. -/
theorem Response.describes_toRecord (response : Response) :
    response.api.responseSchema.body.Describes version
      (response.toRecord version) := by
  cases response with
  | apiVersions response =>
      obtain ⟨error, ranges, throttle⟩ := response.get?_toRecord version
      refine ⟨fun _ => ⟨_, error, trivial⟩, fun _ => ⟨_, ranges, ?_⟩,
        fun active =>
          ⟨_, throttle (VersionRange.le_of_contains_since active), trivial⟩,
        trivial⟩
      refine List.forall_mem_map.mpr fun range _ => ?_
      obtain ⟨apiKey, minVersion, maxVersion⟩ := range.get?_toRecord
      exact ⟨fun _ => ⟨_, apiKey, trivial⟩, fun _ => ⟨_, minVersion, trivial⟩,
        fun _ => ⟨_, maxVersion, trivial⟩, trivial⟩
  | saslHandshake response =>
      obtain ⟨error, mechanisms⟩ := response.get?_toRecord
      refine ⟨fun _ => ⟨_, error, trivial⟩, fun _ => ⟨_, mechanisms, ?_⟩,
        trivial⟩
      exact List.forall_mem_map.mpr fun _ _ => trivial
  | saslAuthenticate response =>
      obtain ⟨error, errorMessage, token, lifetime⟩ :=
        response.get?_toRecord version
      exact ⟨fun _ => ⟨_, error, trivial⟩,
        fun _ => ⟨_, errorMessage, trivial⟩, fun _ => ⟨_, token, trivial⟩,
        fun active =>
          ⟨_, lifetime (VersionRange.le_of_contains_since active), trivial⟩,
        trivial⟩
  | stopReplica response =>
      obtain ⟨error, partitions⟩ := response.get?_toRecord
      refine ⟨fun _ => ⟨_, error, trivial⟩, fun _ => ⟨_, partitions, ?_⟩,
        trivial⟩
      refine List.forall_mem_map.mpr fun entry _ => ?_
      obtain ⟨topic, partition, error⟩ :=
        StopReplicaResponse.get?_entryRecord entry
      exact ⟨fun _ => ⟨_, topic, trivial⟩, fun _ => ⟨_, partition, trivial⟩,
        fun _ => ⟨_, error, trivial⟩, trivial⟩

/-! ## Messages that fit -/

/-- Whether the lengths in a request fit what announces them on the wire. -/
def RequestBody.IsBounded : RequestBody → Prop
  | .apiVersions => True
  | .saslHandshake mechanism =>
      mechanism.utf8ByteSize ≤ Encode.maxStringLength
  | .saslAuthenticate token => token.length ≤ Encode.maxCount
  | .stopReplica content =>
      content.partitions.length ≤ Encode.maxCount ∧
        ∀ place ∈ content.partitions,
          place.topic.utf8ByteSize ≤ Encode.maxStringLength

/-- A text that is held for an active field of a conforming record is short. -/
theorem Schema.Conforms.utf8ByteSize_le {listed : List Field}
    (conforms : (Schema.ofFields listed).Conforms version record)
    {name text : String} (isField : { name, type := .string } ∈ listed)
    (active : VersionRange.all.contains version = true)
    (held : record.get? name = some (.string text)) :
    text.utf8ByteSize ≤ Encode.maxStringLength :=
  conforms.of_get? isField active held

/-- The items that are held for an active array are few, and they conform. -/
theorem Schema.Conforms.forall_items {Item : Type} {items : List Item}
    {make : Item → Value} {listed : List Field} {element : FieldType}
    (conforms : (Schema.ofFields listed).Conforms version record)
    {name : String} (isField : { name, type := .array element } ∈ listed)
    (active : VersionRange.all.contains version = true)
    (held : record.get? name = some (.array (items.map make))) :
    items.length ≤ Encode.maxCount ∧
      ∀ item ∈ items, element.Conforms version (make item) := by
  obtain ⟨counted, each⟩ := conforms.of_get? isField active held
  rw [List.length_map] at counted
  exact ⟨counted, List.forall_mem_map.mp each⟩

/-- A request is written from its record exactly if its lengths fit. -/
theorem RequestBody.conforms_toRecord_iff {body : RequestBody}
    (supported : body.api.versions.contains version = true) :
    body.api.requestSchema.body.Conforms version body.toRecord ↔
      body.IsBounded := by
  have active := ApiKey.isActive_all supported
  cases body with
  | apiVersions =>
      exact Iff.rfl
  | saslHandshake mechanism =>
      have held := Table.get?_ofList_singleton "mechanism"
        (Value.string mechanism)
      constructor
      · intro conforms
        exact conforms.utf8ByteSize_le (.head _) active held
      · intro fits
        exact ⟨fun _ => ⟨_, held, fits⟩, trivial⟩
  | saslAuthenticate token =>
      have held := Table.get?_ofList_singleton "sasl_auth_bytes"
        (Value.bytes token)
      constructor
      · intro conforms
        exact conforms.of_get? (.head _) active held
      · intro fits
        exact ⟨fun _ => ⟨_, held, fits⟩, trivial⟩
  | stopReplica content =>
      obtain ⟨controllerId, controllerEpoch, deletePartitions, places⟩ :=
        content.get?_toRecord
      constructor
      · intro conforms
        obtain ⟨counted, each⟩ := conforms.forall_items
          (.tail _ (.tail _ (.tail _ (.head _)))) active places
        exact ⟨counted, fun place isPlace =>
          (each place isPlace).utf8ByteSize_le (.head _) active
            place.get?_toRecord.1⟩
      · rintro ⟨counted, short⟩
        refine ⟨fun _ => ⟨_, controllerId, trivial⟩,
          fun _ => ⟨_, controllerEpoch, trivial⟩,
          fun _ => ⟨_, deletePartitions, trivial⟩,
          fun _ => ⟨_, places, ?_⟩, trivial⟩
        refine FieldType.conforms_array_map counted fun place isPlace => ?_
        obtain ⟨topic, partition⟩ := place.get?_toRecord
        exact ⟨fun _ => ⟨_, topic, short place isPlace⟩,
          fun _ => ⟨_, partition, trivial⟩, trivial⟩

/-- A response is written from its record exactly if its lengths fit. -/
theorem Response.conforms_toRecord_iff {response : Response}
    (supported : response.api.versions.contains version = true) :
    response.api.responseSchema.body.Conforms version
        (response.toRecord version) ↔
      response.IsBounded := by
  refine ⟨fun conforms => ?_, fun fits => conforms_toRecord fits version⟩
  have active := ApiKey.isActive_all supported
  cases response with
  | apiVersions response =>
      obtain ⟨-, ranges, -⟩ := response.get?_toRecord version
      exact (conforms.forall_items (.tail _ (.head _)) active ranges).1
  | saslHandshake response =>
      obtain ⟨-, mechanisms⟩ := response.get?_toRecord
      exact conforms.forall_items (.tail _ (.head _)) active mechanisms
  | saslAuthenticate response =>
      obtain ⟨-, errorMessage, token, -⟩ := response.get?_toRecord version
      exact ⟨conforms.of_get? (.tail _ (.head _)) active errorMessage,
        conforms.of_get? (.tail _ (.tail _ (.head _))) active token⟩
  | stopReplica response =>
      obtain ⟨-, partitions⟩ := response.get?_toRecord
      obtain ⟨counted, each⟩ :=
        conforms.forall_items (.tail _ (.head _)) active partitions
      exact ⟨counted, fun entry isEntry =>
        (each entry isEntry).utf8ByteSize_le (.head _) active
          (StopReplicaResponse.get?_entryRecord entry).1⟩

/--
A request is written exactly if its version is supported and its lengths fit.
-/
theorem Request.exists_encode_iff {request : Request} :
    (∃ written, request.encode = .ok written) ↔
      request.api.supports request.version = true ∧
        request.body.IsBounded := by
  rw [encode, MessageSchema.exists_encode_iff]
  exact and_congr_right fun supported =>
    request.body.conforms_toRecord_iff supported

/--
A response is written exactly if the version is supported and its lengths fit.
-/
theorem Response.exists_encode_iff {response : Response} :
    (∃ written, response.encode version = .ok written) ↔
      response.api.supports version = true ∧ response.IsBounded := by
  rw [encode, MessageSchema.exists_encode_iff]
  exact and_congr_right fun supported => conforms_toRecord_iff supported

end BrokerSession
