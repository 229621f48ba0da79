import BrokerSession.Catalog.ApiKey
import BrokerSession.Proofs.Schema.Canonical
import BrokerSession.Proofs.Schema.Evolution

namespace BrokerSession

/-!
# What a message finds in the record it reads

A message looks its fields up in the record that a schema has read.  For an
active field that is what the written record held, because nothing but inactive
fields was lost on the wire.  What a getter finds is held, so a record that a
message was found in can be compared with the record of the message.
-/

theorem MessageSchema.checkVersion_eq_ok_iff {message : MessageSchema}
    {version : Int16} {checked : Unit} :
    message.checkVersion version = .ok checked ↔
      message.versions.contains version = true := by
  rw [checkVersion]
  split
  · next accepted => exact iff_of_true rfl accepted
  · next refused => exact iff_of_false nofun refused

/-- At a version of the message the body is read and nothing else. -/
theorem MessageSchema.read_of_contains {message : MessageSchema}
    {version : Int16} (supported : message.versions.contains version = true) :
    message.read version = message.body.read version := by
  have accepted : message.checkVersion version = .ok () :=
    checkVersion_eq_ok_iff.mpr supported
  rw [MessageSchema.read, accepted]

/-- At any other version nothing is read. -/
theorem MessageSchema.read_of_not_contains {message : MessageSchema}
    {version : Int16} (unsupported : ¬ message.versions.contains version) :
    message.read version =
      throw (.unsupportedVersion message.name version) := by
  rw [MessageSchema.read, checkVersion, if_neg unsupported]

/-- A written message body is read back restricted to its active fields. -/
theorem MessageSchema.read_append_of_encode {message : MessageSchema}
    {version : Int16} {record : Record} {written : Bytes}
    (encoded : message.encode version record = .ok written) (suffix : Bytes) :
    (message.read version).run (written ++ suffix) =
      .ok (message.body.restrict version record) suffix := by
  obtain ⟨_, accepted, wrote⟩ := except_bind_eq_ok_iff.mp encoded
  rw [MessageSchema.read, accepted]
  exact Schema.read_append_of_write wrote suffix

/-- A message is written at the versions that it has. -/
theorem MessageSchema.contains_of_encode {message : MessageSchema}
    {version : Int16} {record : Record} {written : Bytes}
    (encoded : message.encode version record = .ok written) :
    message.versions.contains version = true := by
  obtain ⟨_, accepted, -⟩ := except_bind_eq_ok_iff.mp encoded
  exact checkVersion_eq_ok_iff.mp accepted

/-- Messages whose active fields agree are written alike. -/
theorem MessageSchema.encode_eq_of_agree {message : MessageSchema}
    {version : Int16} {left right : Record}
    (agree : message.body.Agree version left right) :
    message.encode version left = message.encode version right := by
  rw [encode, encode, Schema.write_eq_of_agree version _ _ _ agree]

/-- A message body that was read is written as the bytes it was read from. -/
theorem MessageSchema.encode_of_read {message : MessageSchema}
    {version : Int16} {record : Record} {input rest : Bytes}
    (distinct :
      message.versions.contains version = true →
        message.body.hasDistinctNames version = true)
    (read : (message.read version).run input = .ok record rest) :
    message.body.HoldsExactly version record ∧
      ∃ written,
        message.encode version record = .ok written ∧
          input = written ++ rest := by
  rw [MessageSchema.read] at read
  split at read
  · next accepted =>
      obtain ⟨written, wrote, rfl⟩ :=
        Schema.write_of_readInto version message.body
          (distinct (checkVersion_eq_ok_iff.mp accepted)) ∅ record input rest
          read
      have readBack := Schema.read_append_of_write wrote rest
      rw [read] at readBack
      injection readBack with same
      refine ⟨⟨?_, same.symm⟩, written, ?_, rfl⟩
      · exact (Schema.exists_write_iff version message.body record).mp
          ⟨written, wrote⟩
      · exact except_bind_eq_ok_iff.mpr ⟨_, accepted, wrote⟩
  · cases read

/-- No API has more than three versions. -/
theorem ApiKey.version_cases {api : ApiKey} {version : Int16}
    (supported : api.versions.contains version = true) :
    version = 0 ∨ version = 1 ∨ version = 2 := by
  have bounds : 0 ≤ version.toInt ∧ version.toInt ≤ 2 := by
    cases api with
    | stopReplica | saslHandshake | apiVersions | saslAuthenticate =>
        simp [versions, VersionRange.contains, Int16.le_iff_toInt_le]
          at supported
        omega
  simp only [← Int16.toInt_inj]
  have isZero : (0 : Int16).toInt = 0 := by decide
  have isOne : (1 : Int16).toInt = 1 := by decide
  have isTwo : (2 : Int16).toInt = 2 := by decide
  omega

/-- The fields of a message differ in name at each of its versions. -/
theorem ApiKey.hasDistinctNames {api : ApiKey} {version : Int16}
    (supported : api.versions.contains version = true) :
    api.requestSchema.body.hasDistinctNames version = true ∧
      api.responseSchema.body.hasDistinctNames version = true := by
  rcases version_cases supported with rfl | rfl | rfl <;>
    cases api <;> exact ⟨rfl, rfl⟩

/-- What every version carries is carried by a version of an API. -/
theorem ApiKey.isActive_all {api : ApiKey} {version : Int16}
    (supported : api.versions.contains version = true) :
    VersionRange.all.contains version = true := by
  rcases version_cases supported with rfl | rfl | rfl <;> rfl

/-- A request body that was read conforms, at a version of its API. -/
theorem ApiKey.holdsExactly_of_read_request {api : ApiKey} {version : Int16}
    {record : Record} {input rest : Bytes}
    (read : (api.requestSchema.read version).run input = .ok record rest) :
    api.versions.contains version = true ∧
      api.requestSchema.body.HoldsExactly version record := by
  have distinct :
      api.requestSchema.versions.contains version = true →
        api.requestSchema.body.hasDistinctNames version = true :=
    fun supported => (hasDistinctNames supported).1
  obtain ⟨holds, written, encoded, -⟩ :=
    MessageSchema.encode_of_read distinct read
  have supported := MessageSchema.contains_of_encode encoded
  exact ⟨supported, holds⟩

/-- A response body that was read conforms, at a version of its API. -/
theorem ApiKey.holdsExactly_of_read_response {api : ApiKey} {version : Int16}
    {record : Record} {input rest : Bytes}
    (read : (api.responseSchema.read version).run input = .ok record rest) :
    api.versions.contains version = true ∧
      api.responseSchema.body.HoldsExactly version record := by
  have distinct :
      api.responseSchema.versions.contains version = true →
        api.responseSchema.body.hasDistinctNames version = true :=
    fun supported => (hasDistinctNames supported).2
  obtain ⟨holds, written, encoded, -⟩ :=
    MessageSchema.encode_of_read distinct read
  have supported := MessageSchema.contains_of_encode encoded
  exact ⟨supported, holds⟩

theorem Schema.mem_fieldsFor {listed : List Field} {version : Int16}
    {field : Field} (isField : field ∈ listed)
    (active : field.versions.contains version = true) :
    field ∈ (Schema.ofFields listed).fieldsFor version := by
  rw [fieldsFor, fields_ofFields]
  exact List.mem_filter.mpr ⟨isField, active⟩

/-- A message is written at its versions from the records that conform. -/
theorem MessageSchema.exists_encode_iff {message : MessageSchema}
    {version : Int16} {record : Record} :
    (∃ written, message.encode version record = .ok written) ↔
      message.versions.contains version = true ∧
        message.body.Conforms version record := by
  rw [← Schema.exists_write_iff]
  constructor
  · rintro ⟨written, encoded⟩
    obtain ⟨_, accepted, wrote⟩ := except_bind_eq_ok_iff.mp encoded
    exact ⟨checkVersion_eq_ok_iff.mp accepted, written, wrote⟩
  · rintro ⟨supported, written, wrote⟩
    exact ⟨written, except_bind_eq_ok_iff.mpr
      ⟨(), checkVersion_eq_ok_iff.mpr supported, wrote⟩⟩

/-- An active field of a conforming record holds a conforming value. -/
theorem Schema.Conforms.of_get? {version : Int16} {listed : List Field}
    {record : Record}
    (conforms : (Schema.ofFields listed).Conforms version record)
    {field : Field} (isField : field ∈ listed)
    (active : field.versions.contains version = true) {held : Value}
    (isHeld : record.get? field.name = some held) :
    field.type.Conforms version held := by
  induction listed with
  | nil =>
      cases isField
  | cons first others inductionHypothesis =>
      obtain ⟨present, later⟩ := conforms
      rcases List.mem_cons.mp isField with rfl | isOther
      · obtain ⟨value, isValue, valueConforms⟩ := present active
        cases isValue.symm.trans isHeld
        exact valueConforms
      · exact inductionHypothesis later isOther

/-- Fields agree if both records hold values that do. -/
theorem FieldType.agree_get? {version : Int16} {type : FieldType}
    {left right : Record} {name : String} {value other : Value}
    (isLeft : left.get? name = some value)
    (isRight : right.get? name = some other)
    (alike : type.Agree version value other) :
    Option.Rel (type.Agree version) (left.get? name) (right.get? name) := by
  rw [isLeft, isRight]
  exact .some alike

namespace Record

section Getters

variable {Content : Type} {record : Record} {field : String}

/-! ## What a getter has found -/

/-- A field is found exactly if the value that projects to it is held. -/
theorem require_eq_ok_iff {expected : String}
    {project : Value → Option Content} {content : Content} {held : Value}
    (projects : ∀ value, project value = some content ↔ value = held) :
    record.require field expected project = .ok content ↔
      record.get? field = some held := by
  rw [require]
  split
  · next absent =>
      simp [absent]
  · next value isThere =>
      rw [isThere, Option.some_inj, ← projects value]
      split
      · next found projected =>
          rw [projected, Except.ok.injEq, Option.some_inj]
      · next refused =>
          simp [refused]

theorem int16_eq_ok_iff {number : Int16} :
    record.int16 field = .ok number ↔
      record.get? field = some (.int16 number) :=
  require_eq_ok_iff fun value => by cases value <;> simp [Value.int16?]

theorem int32_eq_ok_iff {number : Int32} :
    record.int32 field = .ok number ↔
      record.get? field = some (.int32 number) :=
  require_eq_ok_iff fun value => by cases value <;> simp [Value.int32?]

theorem int64_eq_ok_iff {number : Int64} :
    record.int64 field = .ok number ↔
      record.get? field = some (.int64 number) :=
  require_eq_ok_iff fun value => by cases value <;> simp [Value.int64?]

theorem boolean_eq_ok_iff {holds : Bool} :
    record.boolean field = .ok holds ↔
      record.get? field = some (.boolean holds) :=
  require_eq_ok_iff fun value => by cases value <;> simp [Value.boolean?]

theorem string_eq_ok_iff {text : String} :
    record.string field = .ok text ↔
      record.get? field = some (.string text) :=
  require_eq_ok_iff fun value => by cases value <;> simp [Value.string?]

theorem nullableString_eq_ok_iff {text : Option String} :
    record.nullableString field = .ok text ↔
      record.get? field = some (.nullableString text) :=
  require_eq_ok_iff fun value => by
    cases value <;> simp [Value.nullableString?]

theorem bytes_eq_ok_iff {content : Bytes} :
    record.bytes field = .ok content ↔
      record.get? field = some (.bytes content) :=
  require_eq_ok_iff fun value => by cases value <;> simp [Value.bytes?]

/-- An array is found exactly if the values of its items are held. -/
theorem arrayOf_eq_ok_iff {expected : String}
    {project : Value → Option Content} {contents : List Content}
    {make : Content → Value}
    (projects :
      ∀ value content, project value = some content ↔ value = make content) :
    record.arrayOf field expected project = .ok contents ↔
      record.get? field = some (.array (contents.map make)) := by
  have isArray : ∀ items,
      record.array field = .ok items ↔
        record.get? field = some (.array items) :=
    fun items => require_eq_ok_iff fun value => by
      cases value <;> simp [Value.array?]
  rw [arrayOf, except_bind_eq_ok_iff]
  constructor
  · rintro ⟨items, found, projected⟩
    have made :
        List.Forall₂ (fun value content => value = make content) items
          contents := by
      refine (except_mapM_eq_ok_iff.mp projected).imp ?_
      intro value content isItem
      split at isItem
      · next isContent =>
          cases isItem
          exact (projects _ _).mp isContent
      · cases isItem
    have same := List.forall₂_map_right_iff.mpr made
    rw [List.forall₂_eq_eq_eq] at same
    rw [(isArray items).mp found, same]
  · intro held
    refine ⟨contents.map make, (isArray _).mpr held,
      except_mapM_eq_ok_iff.mpr ?_⟩
    rw [List.forall₂_map_left_iff, List.forall₂_same]
    intro content _
    rw [(projects _ _).mpr rfl]

theorem structArray_eq_ok_iff {records : List Record} :
    record.structArray field = .ok records ↔
      record.get? field = some (.array (records.map .struct)) :=
  arrayOf_eq_ok_iff fun value content => by
    cases value <;> simp [Value.struct?]

end Getters

/-! ## What a getter finds after restriction -/

variable {Content : Type} {schema : Schema} {version : Int16} {record : Record}
  {name expected : String} {type : FieldType} {versions : VersionRange}
  {project : Value → Option Content}

/-- An active field is found with the content that was written. -/
theorem require_restrict (value : Value) {content : Content}
    (distinct : schema.hasDistinctNames version)
    (isField : ⟨name, type, versions⟩ ∈ schema.fieldsFor version)
    (holds : record.get? name = some value)
    (projects : project (type.restrict version value) = some content) :
    (schema.restrict version record).require name expected project =
      .ok content := by
  have found :
      (schema.restrict version record).get? name =
        (record.get? name).map (type.restrict version) :=
    Schema.get?_restrict_of_mem distinct isField
  rw [holds] at found
  rw [require, found]
  simp only [Option.map_some, projects]

/-- The items of an active array are found one by one. -/
theorem arrayOf_restrict {values : List Value} {contents : List Content}
    {element : FieldType}
    (distinct : schema.hasDistinctNames version)
    (isField : ⟨name, .array element, versions⟩ ∈ schema.fieldsFor version)
    (holds : record.get? name = some (.array values))
    (projects :
      List.Forall₂
        (fun value content =>
          project (element.restrict version value) = some content)
        values contents) :
    (schema.restrict version record).arrayOf name expected project =
      .ok contents := by
  refine except_bind_eq_ok_iff.mpr
    ⟨values.map (element.restrict version),
      require_restrict (.array values) distinct isField holds
        (by rw [FieldType.restrict]; rfl),
      ?_⟩
  rw [except_mapM_eq_ok_iff, List.forall₂_map_left_iff]
  refine projects.imp fun value content projected => ?_
  rw [projected]

/-- The records of an active array are found one by one. -/
theorem structArray_restrict {Item : Type} {items : List Item}
    {toRecord : Item → Record} {listed : List Field}
    (distinct : schema.hasDistinctNames version)
    (isField : ⟨name, .arrayOf listed, versions⟩ ∈ schema.fieldsFor version)
    (holds :
      record.get? name =
        some (.array (items.map fun item => .struct (toRecord item)))) :
    (schema.restrict version record).structArray name =
      .ok (items.map fun item =>
        (Schema.ofFields listed).restrict version (toRecord item)) := by
  refine arrayOf_restrict distinct isField holds ?_
  rw [List.forall₂_map_left_iff, List.forall₂_map_right_iff, List.forall₂_same]
  intro item _
  rw [FieldType.restrict]
  rfl

/-- Records are converted one by one. -/
theorem mapM_restrict {Item : Type} {items : List Item}
    {toRecord : Item → Record} {ofRecord : Record → Except SchemaError Item}
    (converts :
      ∀ item, ofRecord (schema.restrict version (toRecord item)) = .ok item) :
    (items.map fun item => schema.restrict version (toRecord item)).mapM
        ofRecord =
      .ok items := by
  rw [except_mapM_eq_ok_iff, List.forall₂_map_left_iff, List.forall₂_same]
  intro item _
  exact converts item

end Record

end BrokerSession
