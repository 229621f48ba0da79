import BrokerSession.Proofs.Catalog.Rewriting
import BrokerSession.Proofs.Schema.Truncation

namespace BrokerSession

/-!
# Messages in the records that were read

A record that a schema has read conforms to it, so each field that a message
looks up is there with a value of the type it is looked up as.  So nothing but
its version or the bytes keeps a message from being read.
-/

variable {version : Int16} {record : Record}

/-- What keeps a message from being read: its version or the bytes. -/
def SchemaError.IsOfReading : SchemaError → Prop
  | .unsupportedVersion .. | .bufferUnderrun .. | .invalidLength ..
  | .invalidString .. | .invalidBoolean .. => True
  | _ => False

/-- Malformed bytes are refused by reading. -/
theorem SchemaError.IsMalformed.isOfReading {failure : SchemaError}
    (malformed : failure.IsMalformed) : failure.IsOfReading := by
  cases failure with
  | invalidLength | invalidString | invalidBoolean =>
      trivial
  | _ =>
      cases malformed

/-- A message is refused for its version or for the bytes it is read from. -/
theorem MessageSchema.isOfReading_of_read {message : MessageSchema}
    {input rest : Bytes} {failure : SchemaError}
    (refused : (message.read version).run input = .error failure rest) :
    failure.IsOfReading := by
  by_cases supported : message.versions.contains version = true
  · rw [read_of_contains supported] at refused
    have piecewise := message.body.isPiecewise_read version
    rcases piecewise.malformed_or_underrun refused with
      malformed | ⟨field, needed, rfl, -⟩
    · exact malformed.isOfReading
    · trivial
  · rw [read_of_not_contains supported] at refused
    cases refused
    trivial

/-! ## Getters -/

namespace Schema.Conforms

variable {listed : List Field}

/-- A conforming record holds a conforming value for each active field. -/
theorem exists_held (conforms : (Schema.ofFields listed).Conforms version record)
    {field : Field} (isField : field ∈ listed)
    (active : field.versions.contains version = true) :
    ∃ value,
      record.get? field.name = some value ∧
        field.type.Conforms version value := by
  induction listed with
  | nil =>
      cases isField
  | cons first others inductionHypothesis =>
      obtain ⟨present, later⟩ := conforms
      rcases List.mem_cons.mp isField with rfl | isOther
      · exact present active
      · exact inductionHypothesis later isOther

variable {Content : Type} {name expected : String} {type : FieldType}
  {versions : VersionRange} {project : Value → Option Content}
  {holds : Content → Prop}

/-- An active field is found by a getter that takes every conforming value. -/
theorem gives_require
    (conforms : (Schema.ofFields listed).Conforms version record)
    (isField : { name, type, versions } ∈ listed)
    (active : versions.contains version = true)
    (projects : ∀ value, type.Conforms version value →
      ∃ content, project value = some content ∧ holds content) :
    Gives holds (record.require name expected project) := by
  obtain ⟨value, isHeld, isOfType⟩ := conforms.exists_held isField active
  obtain ⟨content, projected, holdsOf⟩ := projects value isOfType
  refine ⟨content, ?_, holdsOf⟩
  simp only at isHeld
  simp only [Record.require, isHeld, projected]

theorem gives_int16
    (conforms : (Schema.ofFields listed).Conforms version record)
    (isField : { name, type := .int16, versions } ∈ listed)
    (active : versions.contains version = true) :
    Gives (fun _ => True) (record.int16 name) :=
  conforms.gives_require isField active fun value fits => by
    cases value with
    | int16 number =>
        exact ⟨number, rfl, trivial⟩
    | _ =>
        cases fits

theorem gives_int32
    (conforms : (Schema.ofFields listed).Conforms version record)
    (isField : { name, type := .int32, versions } ∈ listed)
    (active : versions.contains version = true) :
    Gives (fun _ => True) (record.int32 name) :=
  conforms.gives_require isField active fun value fits => by
    cases value with
    | int32 number =>
        exact ⟨number, rfl, trivial⟩
    | _ =>
        cases fits

theorem gives_int64
    (conforms : (Schema.ofFields listed).Conforms version record)
    (isField : { name, type := .int64, versions } ∈ listed)
    (active : versions.contains version = true) :
    Gives (fun _ => True) (record.int64 name) :=
  conforms.gives_require isField active fun value fits => by
    cases value with
    | int64 number =>
        exact ⟨number, rfl, trivial⟩
    | _ =>
        cases fits

theorem gives_boolean
    (conforms : (Schema.ofFields listed).Conforms version record)
    (isField : { name, type := .boolean, versions } ∈ listed)
    (active : versions.contains version = true) :
    Gives (fun _ => True) (record.boolean name) :=
  conforms.gives_require isField active fun value fits => by
    cases value with
    | boolean bit =>
        exact ⟨bit, rfl, trivial⟩
    | _ =>
        cases fits

theorem gives_string
    (conforms : (Schema.ofFields listed).Conforms version record)
    (isField : { name, type := .string, versions } ∈ listed)
    (active : versions.contains version = true) :
    Gives (fun _ => True) (record.string name) :=
  conforms.gives_require isField active fun value fits => by
    cases value with
    | string text =>
        exact ⟨text, rfl, trivial⟩
    | _ =>
        cases fits

theorem gives_nullableString
    (conforms : (Schema.ofFields listed).Conforms version record)
    (isField : { name, type := .nullableString, versions } ∈ listed)
    (active : versions.contains version = true) :
    Gives (fun _ => True) (record.nullableString name) :=
  conforms.gives_require isField active fun value fits => by
    cases value with
    | nullableString text =>
        exact ⟨text, rfl, trivial⟩
    | _ =>
        cases fits

theorem gives_bytes
    (conforms : (Schema.ofFields listed).Conforms version record)
    (isField : { name, type := .bytes, versions } ∈ listed)
    (active : versions.contains version = true) :
    Gives (fun _ => True) (record.bytes name) :=
  conforms.gives_require isField active fun value fits => by
    cases value with
    | bytes content =>
        exact ⟨content, rfl, trivial⟩
    | _ =>
        cases fits

/-- An active array is found if each conforming item is. -/
theorem gives_arrayOf {element : FieldType}
    (conforms : (Schema.ofFields listed).Conforms version record)
    (isField : { name, type := .array element, versions } ∈ listed)
    (active : versions.contains version = true)
    (projects : ∀ value, element.Conforms version value →
      ∃ content, project value = some content ∧ holds content) :
    Gives (fun contents => ∀ content ∈ contents, holds content)
      (record.arrayOf name expected project) := by
  have isArray :
      Gives (fun items => ∀ item ∈ items, element.Conforms version item)
        (record.array name) :=
    conforms.gives_require isField active fun value fits => by
      cases value with
      | array items =>
          exact ⟨items, rfl, fits.2⟩
      | _ =>
          cases fits
  refine isArray.bind fun items areConforming => .mapM fun item isItem => ?_
  obtain ⟨content, projected, holdsOf⟩ :=
    projects item (areConforming item isItem)
  rw [projected]
  exact gives_ok holdsOf

/-- The records of an active array conform in their turn. -/
theorem gives_structArray {nested : List Field}
    (conforms : (Schema.ofFields listed).Conforms version record)
    (isField : { name, type := .arrayOf nested, versions } ∈ listed)
    (active : versions.contains version = true) :
    Gives
      (fun entries => ∀ entry ∈ entries,
        (Schema.ofFields nested).Conforms version entry)
      (record.structArray name) :=
  conforms.gives_arrayOf isField active fun value fits => by
    cases value with
    | struct entry =>
        exact ⟨entry, rfl, fits⟩
    | _ =>
        cases fits

end Schema.Conforms

/-! ## Requests -/

/-- A record with a topic and a number gives a partition. -/
theorem TopicPartition.gives_ofRecord {listed : List Field}
    (conforms : (Schema.ofFields listed).Conforms version record)
    (active : VersionRange.all.contains version = true)
    (hasTopic : { name := "topic", type := .string } ∈ listed)
    (hasPartition : { name := "partition", type := .int32 } ∈ listed) :
    Gives (fun _ => True) (TopicPartition.ofRecord record) :=
  (conforms.gives_string hasTopic active).bind fun _ _ =>
    (conforms.gives_int32 hasPartition active).bind fun _ _ =>
      gives_ok trivial

/-- A record that was read gives a request to stop replicas. -/
theorem StopReplicaRequest.gives_ofRecord
    (conforms : ApiKey.stopReplica.requestSchema.body.Conforms version record)
    (active : VersionRange.all.contains version = true) :
    Gives (fun _ => True) (StopReplicaRequest.ofRecord record) := by
  have places := conforms.gives_structArray
    (.tail _ (.tail _ (.tail _ (.head _)))) active
  refine places.bind fun entries areConforming => ?_
  have converted : Gives _ (entries.mapM TopicPartition.ofRecord) :=
    .mapM fun entry isEntry =>
      TopicPartition.gives_ofRecord (areConforming entry isEntry) active
        (.head _) (.tail _ (.head _))
  exact converted.bind fun _ _ =>
    (conforms.gives_int32 (.head _) active).bind fun _ _ =>
      (conforms.gives_int32 (.tail _ (.head _)) active).bind fun _ _ =>
        (conforms.gives_boolean (.tail _ (.tail _ (.head _))) active).bind
          fun _ _ => gives_ok trivial

/-- A request is found in each record that its schema has read. -/
theorem Request.gives_ofRecord {api : ApiKey}
    (supported : api.versions.contains version = true)
    (conforms : api.requestSchema.body.Conforms version record) :
    Gives (fun _ => True) (Request.ofRecord api version record) := by
  have active := ApiKey.isActive_all supported
  suffices found : Gives (fun _ => True) (RequestBody.ofRecord api record) from
    found.bind fun _ _ => gives_ok trivial
  cases api with
  | apiVersions =>
      exact gives_ok trivial
  | saslHandshake =>
      exact (conforms.gives_string (.head _) active).map fun _ _ => trivial
  | saslAuthenticate =>
      exact (conforms.gives_bytes (.head _) active).map fun _ _ => trivial
  | stopReplica =>
      exact (StopReplicaRequest.gives_ofRecord conforms active).map
        fun _ _ => trivial

/-! ## Responses -/

/-- A record with an API and its bounds gives a range. -/
theorem ApiVersion.gives_ofRecord
    (conforms :
      (Schema.ofFields
        [{ name := "api_key", type := .int16 },
          { name := "min_version", type := .int16 },
          { name := "max_version", type := .int16 }]).Conforms version record)
    (active : VersionRange.all.contains version = true) :
    Gives (fun _ => True) (ApiVersion.ofRecord record) :=
  (conforms.gives_int16 (.head _) active).bind fun _ _ =>
    (conforms.gives_int16 (.tail _ (.head _)) active).bind fun _ _ =>
      (conforms.gives_int16 (.tail _ (.tail _ (.head _))) active).bind
        fun _ _ => gives_ok trivial

/-- A throttle time is looked up where there is one only. -/
theorem ApiVersionsResponse.gives_throttleTimeMs
    (supported : ApiKey.apiVersions.versions.contains version = true)
    (holds :
      ApiKey.apiVersions.responseSchema.body.HoldsExactly version record) :
    Gives (fun _ => True)
      (if record.contains "throttle_time_ms" then
        record.int32 "throttle_time_ms"
      else pure 0) := by
  split
  · next isThere =>
      have late : 1 ≤ version := by
        by_contra early
        exact not_mem_activeNames supported early
          ((holds.contains_iff _).mp isThere)
      exact holds.conforms.gives_int32 (.tail _ (.tail _ (.head _)))
        (VersionRange.contains_since late)
  · exact gives_ok trivial

/-- A record that was read gives a list of versions. -/
theorem ApiVersionsResponse.gives_ofRecord
    (supported : ApiKey.apiVersions.versions.contains version = true)
    (holds :
      ApiKey.apiVersions.responseSchema.body.HoldsExactly version record) :
    Gives (fun _ => True) (ApiVersionsResponse.ofRecord record) := by
  have conforms := holds.conforms
  have active := ApiKey.isActive_all supported
  have ranges := conforms.gives_structArray (.tail _ (.head _)) active
  refine ranges.bind fun entries areConforming => ?_
  have converted :
      Gives (fun results => ∀ result ∈ results, True)
        (entries.mapM ApiVersion.ofRecord) :=
    .mapM fun entry isEntry =>
      ApiVersion.gives_ofRecord (areConforming entry isEntry) active
  refine converted.bind fun listed _ => ?_
  have throttled := gives_throttleTimeMs supported holds
  rw [← apply_ite (· >>= _)]
  refine throttled.bind fun _ _ => ?_
  exact (conforms.gives_int16 (.head _) active).bind fun _ _ =>
    gives_ok trivial

/-- A record that was read gives an answer to a handshake. -/
theorem SaslHandshakeResponse.gives_ofRecord
    (conforms :
      ApiKey.saslHandshake.responseSchema.body.Conforms version record)
    (active : VersionRange.all.contains version = true) :
    Gives (fun _ => True) (SaslHandshakeResponse.ofRecord record) := by
  have mechanisms :
      Gives (fun contents => ∀ content ∈ contents, True)
        (record.arrayOf "enabled_mechanisms" "string" Value.string?) :=
    conforms.gives_arrayOf (.tail _ (.head _)) active fun value fits => by
      cases value with
      | string mechanism =>
          exact ⟨mechanism, rfl, trivial⟩
      | _ =>
          cases fits
  exact mechanisms.bind fun _ _ =>
    (conforms.gives_int16 (.head _) active).bind fun _ _ => gives_ok trivial

/-- A lifetime is looked up from version 1 on, where there is one. -/
theorem SaslAuthenticateResponse.gives_sessionLifetimeMs
    (conforms :
      ApiKey.saslAuthenticate.responseSchema.body.Conforms version record) :
    Gives (fun _ => True)
      (if 1 ≤ version then record.int64 "session_lifetime_ms" else pure 0) := by
  split
  · next late =>
      exact conforms.gives_int64 (.tail _ (.tail _ (.tail _ (.head _))))
        (VersionRange.contains_since late)
  · exact gives_ok trivial

/-- A record that was read gives an answer to a token. -/
theorem SaslAuthenticateResponse.gives_ofRecord
    (conforms :
      ApiKey.saslAuthenticate.responseSchema.body.Conforms version record)
    (active : VersionRange.all.contains version = true) :
    Gives (fun _ => True) (SaslAuthenticateResponse.ofRecord version record) := by
  have lasts := gives_sessionLifetimeMs conforms
  rw [SaslAuthenticateResponse.ofRecord, ← apply_ite (· >>= _)]
  refine lasts.bind fun _ _ => ?_
  exact (conforms.gives_int16 (.head _) active).bind fun _ _ =>
    (conforms.gives_nullableString (.tail _ (.head _)) active).bind fun _ _ =>
      (conforms.gives_bytes (.tail _ (.tail _ (.head _))) active).bind
        fun _ _ => gives_ok trivial

/-- A record with a partition and a code gives an entry. -/
theorem StopReplicaResponse.gives_entryOfRecord
    (conforms :
      (Schema.ofFields
        [{ name := "topic", type := .string },
          { name := "partition", type := .int32 },
          { name := "error_code", type := .int16 }]).Conforms version record)
    (active : VersionRange.all.contains version = true) :
    Gives (fun _ => True) (entryOfRecord record) :=
  (conforms.gives_int16 (.tail _ (.tail _ (.head _))) active).bind fun _ _ =>
    (TopicPartition.gives_ofRecord conforms active (.head _)
      (.tail _ (.head _))).bind fun _ _ => gives_ok trivial

/-- A record that was read gives a response about stopped replicas. -/
theorem StopReplicaResponse.gives_ofRecord
    (conforms : ApiKey.stopReplica.responseSchema.body.Conforms version record)
    (active : VersionRange.all.contains version = true) :
    Gives (fun _ => True) (StopReplicaResponse.ofRecord record) := by
  have partitions := conforms.gives_structArray (.tail _ (.head _)) active
  refine partitions.bind fun entries areConforming => ?_
  have converted :
      Gives (fun results => ∀ result ∈ results, True)
        (entries.mapM entryOfRecord) :=
    .mapM fun entry isEntry =>
      gives_entryOfRecord (areConforming entry isEntry) active
  exact converted.bind fun _ _ =>
    (conforms.gives_int16 (.head _) active).bind fun _ _ => gives_ok trivial

/-- A response is found in each record that its schema has read. -/
theorem Response.gives_ofRecord {api : ApiKey}
    (supported : api.versions.contains version = true)
    (holds : api.responseSchema.body.HoldsExactly version record) :
    Gives (fun _ => True) (Response.ofRecord api version record) := by
  have conforms := holds.conforms
  have active := ApiKey.isActive_all supported
  cases api with
  | apiVersions =>
      exact (ApiVersionsResponse.gives_ofRecord supported holds).map
        fun _ _ => trivial
  | saslHandshake =>
      exact (SaslHandshakeResponse.gives_ofRecord conforms active).map
        fun _ _ => trivial
  | saslAuthenticate =>
      exact (SaslAuthenticateResponse.gives_ofRecord conforms active).map
        fun _ _ => trivial
  | stopReplica =>
      exact (StopReplicaResponse.gives_ofRecord conforms active).map
        fun _ _ => trivial

/-! ## Bytes -/

/-- A request is found in each record that was read. -/
theorem Request.exists_ofRecord_of_read {api : ApiKey} {bytes rest : Bytes}
    (read : (api.requestSchema.read version).run bytes = .ok record rest) :
    ∃ request, Request.ofRecord api version record = .ok request := by
  obtain ⟨supported, holds⟩ := ApiKey.holdsExactly_of_read_request read
  obtain ⟨request, found, -⟩ := gives_ofRecord supported holds.conforms
  exact ⟨request, found⟩

/-- A response is found in each record that was read. -/
theorem Response.exists_ofRecord_of_read {api : ApiKey} {bytes rest : Bytes}
    (read : (api.responseSchema.read version).run bytes = .ok record rest) :
    ∃ response, Response.ofRecord api version record = .ok response := by
  obtain ⟨supported, holds⟩ := ApiKey.holdsExactly_of_read_response read
  obtain ⟨response, found, -⟩ := gives_ofRecord supported holds
  exact ⟨response, found⟩

/-- Nothing but its version or the bytes keeps a request from being read. -/
theorem Request.failsOnly_parse (api : ApiKey) (version : Int16)
    (bytes : Bytes) :
    FailsOnly SchemaError.IsOfReading (Request.parse api version bytes) := by
  rw [parse]
  split
  · next record rest read =>
      obtain ⟨request, found⟩ := exists_ofRecord_of_read read
      rw [found]
      exact failsOnly_ok request
  · next refused =>
      exact failsOnly_error (MessageSchema.isOfReading_of_read refused)

/-- A body is refused for what cannot be read, and never by its conversion. -/
theorem Response.failsOnly_parseExact (api : ApiKey) (version : Int16)
    (bytes : Bytes) :
    FailsOnly SchemaError.IsOfReading
      (Response.parseExact api version bytes) := by
  rw [parseExact]
  split
  · next record rest read =>
      obtain ⟨response, found⟩ := exists_ofRecord_of_read read
      rw [found]
      exact failsOnly_ok response
  · next refused =>
      exact failsOnly_error (MessageSchema.isOfReading_of_read refused)

/-- Nothing but its version or the bytes keeps a response from being read. -/
theorem Response.failsOnly_parse (api : ApiKey) (version : Int16)
    (bytes : Bytes) :
    FailsOnly SchemaError.IsOfReading (Response.parse api version bytes) := by
  unfold parse
  split
  · exact failsOnly_parseExact .apiVersions 0 bytes
  · exact failsOnly_parseExact _ version bytes

end BrokerSession
