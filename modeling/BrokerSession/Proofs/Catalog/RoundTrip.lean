import BrokerSession.Catalog.Response
import BrokerSession.Proofs.Catalog.Record
import BrokerSession.Proofs.UnorderedMap

namespace BrokerSession

/-!
# Messages that are read back

A request that was written is read back as itself.  A response is read back
without what its version does not carry, which is a throttle time or a session
lifetime.
-/

variable {version : Int16}

/-- What exists since a version is active from that version on. -/
theorem VersionRange.contains_since {low : Int16} (late : low ≤ version) :
    (VersionRange.since low).contains version = true := by
  have bounded : version ≤ 32767 := by
    have := version.toInt_lt
    rw [Int16.le_iff_toInt_le]
    simp
    omega
  rw [contains, Bool.and_eq_true]
  exact ⟨decide_eq_true late, decide_eq_true bounded⟩

/-! ## Requests -/

namespace TopicPartition

/-- A partition is found in a record that has its two fields. -/
theorem ofRecord_restrict (place : TopicPartition) {listed : List Field}
    {record : Record}
    (distinct : (Schema.ofFields listed).hasDistinctNames version = true)
    (active : VersionRange.all.contains version = true)
    (hasTopic : { name := "topic", type := .string } ∈ listed)
    (hasPartition : { name := "partition", type := .int32 } ∈ listed)
    (topic : record.get? "topic" = some (.string place.topic))
    (partition : record.get? "partition" = some (.int32 place.partition)) :
    TopicPartition.ofRecord
        ((Schema.ofFields listed).restrict version record) =
      .ok place := by
  refine except_bind_eq_ok_iff.mpr ⟨place.topic, ?_, ?_⟩
  · exact Record.require_restrict (.string place.topic) distinct
      (Schema.mem_fieldsFor hasTopic active) topic rfl
  refine except_bind_eq_ok_iff.mpr ⟨place.partition, ?_, rfl⟩
  exact Record.require_restrict (.int32 place.partition) distinct
    (Schema.mem_fieldsFor hasPartition active) partition rfl

/-- A partition's record holds its topic and its number. -/
theorem get?_toRecord (place : TopicPartition) :
    place.toRecord.get? "topic" = some (.string place.topic) ∧
      place.toRecord.get? "partition" = some (.int32 place.partition) := by
  constructor <;> simp [toRecord, Table.ofList, Table.get?_insert]

end TopicPartition

/-- The record of a request to stop replicas holds all of its fields. -/
theorem StopReplicaRequest.get?_toRecord (content : StopReplicaRequest) :
    content.toRecord.get? "controller_id" =
        some (.int32 content.controllerId) ∧
      content.toRecord.get? "controller_epoch" =
        some (.int32 content.controllerEpoch) ∧
      content.toRecord.get? "delete_partitions" =
        some (.boolean content.deletePartitions) ∧
      content.toRecord.get? "partitions" =
        some (.array
          (content.partitions.map fun place => .struct place.toRecord)) := by
  refine ⟨?_, ?_, ?_, ?_⟩ <;>
    simp [toRecord, Table.ofList, Table.get?_insert]

/-- A request to stop replicas comes back from its record. -/
theorem StopReplicaRequest.ofRecord_restrict (content : StopReplicaRequest)
    (supported : ApiKey.stopReplica.versions.contains version = true) :
    StopReplicaRequest.ofRecord
        (ApiKey.stopReplica.requestSchema.body.restrict version
          content.toRecord) =
      .ok content := by
  have distinct := (ApiKey.hasDistinctNames supported).1
  have active := ApiKey.isActive_all supported
  obtain ⟨controllerId, controllerEpoch, deletePartitions, partitions⟩ :=
    content.get?_toRecord
  have places :
      List.mapM TopicPartition.ofRecord
          (content.partitions.map fun place =>
            (Schema.ofFields
                [{ name := "topic", type := .string },
                  { name := "partition", type := .int32 }]).restrict version
              place.toRecord) =
        .ok content.partitions := by
    refine Record.mapM_restrict fun place => ?_
    obtain ⟨topic, partition⟩ := place.get?_toRecord
    refine place.ofRecord_restrict ?_ active (.head _) (.tail _ (.head _))
      topic partition
    rcases ApiKey.version_cases supported with rfl | rfl | rfl <;> rfl
  refine except_bind_eq_ok_iff.mpr
    ⟨_, Record.structArray_restrict distinct
      (Schema.mem_fieldsFor (.tail _ (.tail _ (.tail _ (.head _)))) active)
      partitions, ?_⟩
  refine except_bind_eq_ok_iff.mpr ⟨_, places, ?_⟩
  refine except_bind_eq_ok_iff.mpr
    ⟨_, Record.require_restrict (.int32 content.controllerId) distinct
      (Schema.mem_fieldsFor (.head _) active) controllerId rfl, ?_⟩
  refine except_bind_eq_ok_iff.mpr
    ⟨_, Record.require_restrict (.int32 content.controllerEpoch) distinct
      (Schema.mem_fieldsFor (.tail _ (.head _)) active) controllerEpoch rfl,
      ?_⟩
  exact except_bind_eq_ok_iff.mpr
    ⟨_, Record.require_restrict (.boolean content.deletePartitions) distinct
      (Schema.mem_fieldsFor (.tail _ (.tail _ (.head _))) active)
      deletePartitions rfl, rfl⟩

/-- A request comes back from its record. -/
theorem RequestBody.ofRecord_restrict (body : RequestBody)
    (supported : body.api.versions.contains version = true) :
    RequestBody.ofRecord body.api
        (body.api.requestSchema.body.restrict version body.toRecord) =
      .ok body := by
  have distinct := (ApiKey.hasDistinctNames supported).1
  have active := ApiKey.isActive_all supported
  cases body with
  | apiVersions =>
      rfl
  | saslHandshake mechanism =>
      have holds :
          (RequestBody.saslHandshake mechanism).toRecord.get? "mechanism" =
            some (.string mechanism) :=
        Table.get?_ofList_singleton _ _
      have found :
          (ApiKey.saslHandshake.requestSchema.body.restrict version
              (RequestBody.saslHandshake mechanism).toRecord).string
              "mechanism" =
            .ok mechanism :=
        Record.require_restrict (.string mechanism) distinct
          (Schema.mem_fieldsFor (.head _) active) holds rfl
      rw [api, RequestBody.ofRecord, found]
      rfl
  | saslAuthenticate token =>
      have holds :
          (RequestBody.saslAuthenticate token).toRecord.get?
              "sasl_auth_bytes" =
            some (.bytes token) :=
        Table.get?_ofList_singleton _ _
      have found :
          (ApiKey.saslAuthenticate.requestSchema.body.restrict version
              (RequestBody.saslAuthenticate token).toRecord).bytes
              "sasl_auth_bytes" =
            .ok token :=
        Record.require_restrict (.bytes token) distinct
          (Schema.mem_fieldsFor (.head _) active) holds rfl
      rw [api, RequestBody.ofRecord, found]
      rfl
  | stopReplica content =>
      have found := content.ofRecord_restrict supported
      rw [api, toRecord, RequestBody.ofRecord, found]
      rfl

/-- A request that was written is read back, whatever follows it. -/
theorem Request.parse_append_of_encode {request : Request} {written : Bytes}
    (encoded : request.encode = .ok written) (suffix : Bytes) :
    Request.parse request.api request.version (written ++ suffix) =
      .ok request := by
  rw [encode] at encoded
  have supported := MessageSchema.contains_of_encode encoded
  have found := request.body.ofRecord_restrict supported
  rw [parse, MessageSchema.read_append_of_encode encoded suffix]
  exact except_bind_eq_ok_iff.mpr ⟨_, found, rfl⟩

/-! ## Responses -/

/-- The record of a range holds the API and both bounds. -/
theorem ApiVersion.get?_toRecord (range : ApiVersion) :
    range.toRecord.get? "api_key" = some (.int16 range.apiKey) ∧
      range.toRecord.get? "min_version" = some (.int16 range.minVersion) ∧
      range.toRecord.get? "max_version" = some (.int16 range.maxVersion) := by
  refine ⟨?_, ?_, ?_⟩ <;> simp [toRecord, Table.ofList, Table.get?_insert]

/-- A range is found in a record that has its three fields. -/
theorem ApiVersion.ofRecord_restrict (range : ApiVersion)
    (supported : ApiKey.apiVersions.versions.contains version = true) :
    ApiVersion.ofRecord
        ((Schema.ofFields
            [{ name := "api_key", type := .int16 },
              { name := "min_version", type := .int16 },
              { name := "max_version", type := .int16 }]).restrict version
          range.toRecord) =
      .ok range := by
  have active := ApiKey.isActive_all supported
  have distinct :
      (Schema.ofFields
          [{ name := "api_key", type := .int16 },
            { name := "min_version", type := .int16 },
            { name := "max_version", type := .int16 }]).hasDistinctNames
          version =
        true := by
    rcases ApiKey.version_cases supported with rfl | rfl | rfl <;> rfl
  obtain ⟨apiKey, minVersion, maxVersion⟩ := range.get?_toRecord
  refine except_bind_eq_ok_iff.mpr
    ⟨_, Record.require_restrict (.int16 range.apiKey) distinct
      (Schema.mem_fieldsFor (.head _) active) apiKey rfl, ?_⟩
  refine except_bind_eq_ok_iff.mpr
    ⟨_, Record.require_restrict (.int16 range.minVersion) distinct
      (Schema.mem_fieldsFor (.tail _ (.head _)) active) minVersion rfl, ?_⟩
  exact except_bind_eq_ok_iff.mpr
    ⟨_, Record.require_restrict (.int16 range.maxVersion) distinct
      (Schema.mem_fieldsFor (.tail _ (.tail _ (.head _))) active) maxVersion
      rfl, rfl⟩

/-- What a list of versions says at a version: no throttle time before 1. -/
def ApiVersionsResponse.carried (response : ApiVersionsResponse)
    (version : Int16) : ApiVersionsResponse :=
  if 1 ≤ version then response else { response with throttleTimeMs := 0 }

/-- What the answer to a token says at a version: no lifetime before 1. -/
def SaslAuthenticateResponse.carried (response : SaslAuthenticateResponse)
    (version : Int16) : SaslAuthenticateResponse :=
  if 1 ≤ version then response else { response with sessionLifetimeMs := 0 }

/-- What a response says at a version. -/
def Response.carried (version : Int16) : Response → Response
  | .apiVersions response => .apiVersions (response.carried version)
  | .saslAuthenticate response => .saslAuthenticate (response.carried version)
  | other => other

/-- An error code is found in a record that has one. -/
theorem ErrorCode.int16_restrict (error : ErrorCode) {schema : Schema}
    {record : Record} (distinct : schema.hasDistinctNames version)
    (isField :
      { name := "error_code", type := .int16 } ∈ schema.fieldsFor version)
    (holds : record.get? "error_code" = some (.int16 error.code)) :
    (schema.restrict version record).int16 "error_code" = .ok error.code :=
  Record.require_restrict (.int16 error.code) distinct isField holds rfl

/-- The record of a list of versions has a throttle time from version 1 on. -/
theorem ApiVersionsResponse.get?_toRecord (response : ApiVersionsResponse)
    (version : Int16) :
    (response.toRecord version).get? "error_code" =
        some (.int16 response.error.code) ∧
      (response.toRecord version).get? "api_versions" =
        some (.array
          (response.apiVersions.map fun listed =>
            .struct listed.toRecord)) ∧
      (1 ≤ version →
        (response.toRecord version).get? "throttle_time_ms" =
          some (.int32 response.throttleTimeMs)) := by
  rw [toRecord]
  refine ⟨?_, ?_, ?_⟩
  · split <;> simp [Table.ofList, Table.get?_insert]
  · split <;> simp [Table.ofList, Table.get?_insert]
  · intro carried
    rw [if_pos carried, Table.get?_insert, if_pos rfl]

/-- Before version 1 there is no throttle time on the wire. -/
theorem ApiVersionsResponse.not_mem_activeNames
    (supported : ApiKey.apiVersions.versions.contains version = true)
    (early : ¬ 1 ≤ version) :
    "throttle_time_ms" ∉
      ApiKey.apiVersions.responseSchema.body.activeNames version := by
  rcases ApiKey.version_cases supported with rfl | rfl | rfl
  · decide
  · exact absurd (by decide) early
  · exact absurd (by decide) early

/-- From version 1 on there is a throttle time, and not before. -/
theorem ApiVersionsResponse.throttleTimeMs_restrict
    (response : ApiVersionsResponse)
    (supported : ApiKey.apiVersions.versions.contains version = true) :
    let found :=
      ApiKey.apiVersions.responseSchema.body.restrict version
        (response.toRecord version)
    (if found.contains "throttle_time_ms" then found.int32 "throttle_time_ms"
      else pure 0) =
      .ok (response.carried version).throttleTimeMs := by
  intro found
  have distinct := (ApiKey.hasDistinctNames supported).2
  by_cases carried : 1 ≤ version
  · have active := VersionRange.contains_since carried
    have holds := (response.get?_toRecord version).2.2 carried
    have isFound :
        found.int32 "throttle_time_ms" = .ok response.throttleTimeMs :=
      Record.require_restrict (.int32 response.throttleTimeMs) distinct
        (Schema.mem_fieldsFor (.tail _ (.tail _ (.head _))) active) holds rfl
    have isThere : found.contains "throttle_time_ms" = true := by
      have present :
          found.get? "throttle_time_ms" =
            ((response.toRecord version).get? "throttle_time_ms").map
              (FieldType.int32.restrict version) :=
        Schema.get?_restrict_of_mem distinct
          (Schema.mem_fieldsFor (.tail _ (.tail _ (.head _))) active)
      rw [Table.contains, present, holds]
      rfl
    rw [if_pos isThere, isFound, ApiVersionsResponse.carried, if_pos carried]
  · have isAbsent : found.contains "throttle_time_ms" = false := by
      rw [Table.contains,
        Schema.get?_restrict_of_not_mem (not_mem_activeNames supported carried)]
      rfl
    rw [isAbsent, ApiVersionsResponse.carried, if_neg carried]
    rfl

/-- What a list of versions is found from. -/
theorem ApiVersionsResponse.ofRecord_eq_ok_iff {record : Record}
    {response : ApiVersionsResponse} :
    ApiVersionsResponse.ofRecord record = .ok response ↔
      ∃ records error,
        record.structArray "api_versions" = .ok records ∧
          records.mapM ApiVersion.ofRecord = .ok response.apiVersions ∧
          (if record.contains "throttle_time_ms" then
              record.int32 "throttle_time_ms"
            else pure 0) = .ok response.throttleTimeMs ∧
          record.int16 "error_code" = .ok error ∧
          response.error = ErrorCode.ofCode error := by
  constructor
  · intro found
    obtain ⟨records, isArray, found⟩ := except_bind_eq_ok_iff.mp found
    obtain ⟨ranges, converted, found⟩ := except_bind_eq_ok_iff.mp found
    obtain ⟨throttleTimeMs, throttle, found⟩ := except_bind_eq_ok_iff.mp
      ((apply_ite (· >>= _) _ _ _).trans found)
    obtain ⟨error, isError, returned⟩ := except_bind_eq_ok_iff.mp found
    cases returned
    exact ⟨records, error, isArray, converted, throttle, isError, rfl⟩
  · rintro ⟨records, error, isArray, converted, throttle, isError, named⟩
    refine except_bind_eq_ok_iff.mpr ⟨records, isArray, ?_⟩
    refine except_bind_eq_ok_iff.mpr ⟨response.apiVersions, converted, ?_⟩
    refine (apply_ite (· >>= _) _ _ _).symm.trans
      (except_bind_eq_ok_iff.mpr ⟨response.throttleTimeMs, throttle, ?_⟩)
    refine except_bind_eq_ok_iff.mpr ⟨error, isError, ?_⟩
    rw [← named]
    rfl

/-- A list of versions comes back as far as its version carries it. -/
theorem ApiVersionsResponse.ofRecord_restrict (response : ApiVersionsResponse)
    (supported : ApiKey.apiVersions.versions.contains version = true) :
    ApiVersionsResponse.ofRecord
        (ApiKey.apiVersions.responseSchema.body.restrict version
          (response.toRecord version)) =
      .ok (response.carried version) := by
  have distinct := (ApiKey.hasDistinctNames supported).2
  have active := ApiKey.isActive_all supported
  obtain ⟨error, ranges, -⟩ := response.get?_toRecord version
  have listed :
      (response.carried version).apiVersions = response.apiVersions := by
    rw [carried]
    split <;> rfl
  have named : (response.carried version).error = response.error := by
    rw [carried]
    split <;> rfl
  refine ofRecord_eq_ok_iff.mpr
    ⟨_, response.error.code,
      Record.structArray_restrict distinct
        (Schema.mem_fieldsFor (.tail _ (.head _)) active) ranges,
      ?_, response.throttleTimeMs_restrict supported,
      response.error.int16_restrict distinct
        (Schema.mem_fieldsFor (.head _) active) error, ?_⟩
  · rw [listed]
    exact Record.mapM_restrict fun range => range.ofRecord_restrict supported
  · rw [ErrorCode.ofCode_code, named]

/-- The record of an answer to a handshake holds all of its fields. -/
theorem SaslHandshakeResponse.get?_toRecord
    (response : SaslHandshakeResponse) :
    response.toRecord.get? "error_code" = some (.int16 response.error.code) ∧
      response.toRecord.get? "enabled_mechanisms" =
        some (.array (response.enabledMechanisms.map .string)) := by
  constructor <;> simp [toRecord, Table.ofList, Table.get?_insert]

/-- An answer to a handshake comes back from its record. -/
theorem SaslHandshakeResponse.ofRecord_restrict
    (response : SaslHandshakeResponse)
    (supported : ApiKey.saslHandshake.versions.contains version = true) :
    SaslHandshakeResponse.ofRecord
        (ApiKey.saslHandshake.responseSchema.body.restrict version
          response.toRecord) =
      .ok response := by
  have distinct := (ApiKey.hasDistinctNames supported).2
  have active := ApiKey.isActive_all supported
  obtain ⟨error, mechanisms⟩ := response.get?_toRecord
  have named :
      List.Forall₂
        (fun value content =>
          Value.string? (FieldType.string.restrict version value) =
            some content)
        (response.enabledMechanisms.map Value.string)
        response.enabledMechanisms := by
    rw [List.forall₂_map_left_iff, List.forall₂_same]
    intro mechanism _
    rfl
  refine except_bind_eq_ok_iff.mpr
    ⟨_, Record.arrayOf_restrict distinct
      (Schema.mem_fieldsFor (.tail _ (.head _)) active) mechanisms named, ?_⟩
  refine except_bind_eq_ok_iff.mpr
    ⟨_, response.error.int16_restrict distinct
      (Schema.mem_fieldsFor (.head _) active) error, ?_⟩
  rw [ErrorCode.ofCode_code]
  rfl

/-- The record of an answer to a token has a lifetime from version 1 on. -/
theorem SaslAuthenticateResponse.get?_toRecord
    (response : SaslAuthenticateResponse) (version : Int16) :
    (response.toRecord version).get? "error_code" =
        some (.int16 response.error.code) ∧
      (response.toRecord version).get? "error_message" =
        some (.nullableString response.errorMessage) ∧
      (response.toRecord version).get? "sasl_auth_bytes" =
        some (.bytes response.token) ∧
      (1 ≤ version →
        (response.toRecord version).get? "session_lifetime_ms" =
          some (.int64 response.sessionLifetimeMs)) := by
  rw [toRecord]
  refine ⟨?_, ?_, ?_, ?_⟩
  · split <;> simp [Table.ofList, Table.get?_insert]
  · split <;> simp [Table.ofList, Table.get?_insert]
  · split <;> simp [Table.ofList, Table.get?_insert]
  · intro lasts
    rw [if_pos lasts, Table.get?_insert, if_pos rfl]

/-- An answer to a token comes back as far as its version carries it. -/
theorem SaslAuthenticateResponse.ofRecord_restrict
    (response : SaslAuthenticateResponse)
    (supported : ApiKey.saslAuthenticate.versions.contains version = true) :
    SaslAuthenticateResponse.ofRecord version
        (ApiKey.saslAuthenticate.responseSchema.body.restrict version
          (response.toRecord version)) =
      .ok (response.carried version) := by
  have distinct := (ApiKey.hasDistinctNames supported).2
  have active := ApiKey.isActive_all supported
  obtain ⟨error, errorMessage, token, ownLifetime⟩ :=
    response.get?_toRecord version
  have lifetime :
      (if 1 ≤ version then
          (ApiKey.saslAuthenticate.responseSchema.body.restrict version
            (response.toRecord version)).int64 "session_lifetime_ms"
        else pure 0) =
        .ok (response.carried version).sessionLifetimeMs := by
    by_cases lasts : 1 ≤ version
    · have since := VersionRange.contains_since lasts
      rw [if_pos lasts, carried, if_pos lasts]
      exact Record.require_restrict (.int64 response.sessionLifetimeMs)
        distinct
        (Schema.mem_fieldsFor (.tail _ (.tail _ (.tail _ (.head _)))) since)
        (ownLifetime lasts) rfl
    · rw [if_neg lasts, carried, if_neg lasts]
      rfl
  refine (apply_ite (· >>= _) _ _ _).symm.trans
    (except_bind_eq_ok_iff.mpr ⟨_, lifetime, ?_⟩)
  refine except_bind_eq_ok_iff.mpr
    ⟨_, response.error.int16_restrict distinct
      (Schema.mem_fieldsFor (.head _) active) error, ?_⟩
  refine except_bind_eq_ok_iff.mpr
    ⟨_, Record.require_restrict (.nullableString response.errorMessage)
      distinct (Schema.mem_fieldsFor (.tail _ (.head _)) active) errorMessage
      rfl, ?_⟩
  refine except_bind_eq_ok_iff.mpr
    ⟨_, Record.require_restrict (.bytes response.token) distinct
      (Schema.mem_fieldsFor (.tail _ (.tail _ (.head _))) active) token rfl, ?_⟩
  rw [ErrorCode.ofCode_code, carried]
  split <;> rfl

/-- The record of a partition's error holds the partition and the code. -/
theorem StopReplicaResponse.get?_entryRecord
    (entry : TopicPartition × ErrorCode) :
    (entryRecord entry).get? "topic" = some (.string entry.1.topic) ∧
      (entryRecord entry).get? "partition" =
        some (.int32 entry.1.partition) ∧
      (entryRecord entry).get? "error_code" =
        some (.int16 entry.2.code) := by
  obtain ⟨topic, partition⟩ := entry.1.get?_toRecord
  refine ⟨?_, ?_, ?_⟩
  · rw [entryRecord, Table.get?_insert, if_neg (by decide), topic]
  · rw [entryRecord, Table.get?_insert, if_neg (by decide), partition]
  · rw [entryRecord, Table.get?_insert, if_pos rfl]

/-- The error of a partition is found with the partition. -/
theorem StopReplicaResponse.entryOfRecord_restrict
    (entry : TopicPartition × ErrorCode)
    (supported : ApiKey.stopReplica.versions.contains version = true) :
    entryOfRecord
        ((Schema.ofFields
            [{ name := "topic", type := .string },
              { name := "partition", type := .int32 },
              { name := "error_code", type := .int16 }]).restrict version
          (entryRecord entry)) =
      .ok entry := by
  have active := ApiKey.isActive_all supported
  have distinct :
      (Schema.ofFields
          [{ name := "topic", type := .string },
            { name := "partition", type := .int32 },
            { name := "error_code", type := .int16 }]).hasDistinctNames
          version =
        true := by
    rcases ApiKey.version_cases supported with rfl | rfl | rfl <;> rfl
  obtain ⟨topic, partition, error⟩ := get?_entryRecord entry
  refine except_bind_eq_ok_iff.mpr
    ⟨_, entry.2.int16_restrict distinct
      (Schema.mem_fieldsFor (.tail _ (.tail _ (.head _))) active) error, ?_⟩
  refine except_bind_eq_ok_iff.mpr
    ⟨_, entry.1.ofRecord_restrict distinct active (.head _)
      (.tail _ (.head _)) topic partition, ?_⟩
  rw [ErrorCode.ofCode_code]
  rfl

/-- Listed in ascending order, the partitions are those that were put in. -/
theorem StopReplicaResponse.partitions_ofEntries (error : ErrorCode)
    (entries : List (TopicPartition × ErrorCode)) :
    (ofEntries error entries).partitions = Table.ofList entries :=
  UnorderedMap.toTable_ofList entries

/-- The listed partitions make up the response again. -/
theorem StopReplicaResponse.ofEntries_partitions
    (response : StopReplicaResponse) :
    ofEntries response.error response.partitions.entries = response := by
  rw [ofEntries, partitions, UnorderedMap.ofList_entries_toTable]

/-- The record of a response about stopped replicas lists them in order. -/
theorem StopReplicaResponse.get?_toRecord (response : StopReplicaResponse) :
    response.toRecord.get? "error_code" = some (.int16 response.error.code) ∧
      response.toRecord.get? "partitions" =
        some (.array (response.partitions.entries.map fun entry =>
          .struct (entryRecord entry))) := by
  have sorted : response.partitions.entries = response.partitionErrors.sort :=
    rfl
  constructor <;> simp [toRecord, Table.ofList, Table.get?_insert, sorted]

/-- A response about stopped replicas comes back from its record. -/
theorem StopReplicaResponse.ofRecord_restrict (response : StopReplicaResponse)
    (supported : ApiKey.stopReplica.versions.contains version = true) :
    StopReplicaResponse.ofRecord
        (ApiKey.stopReplica.responseSchema.body.restrict version
          response.toRecord) =
      .ok response := by
  have distinct := (ApiKey.hasDistinctNames supported).2
  have active := ApiKey.isActive_all supported
  obtain ⟨error, partitions⟩ := response.get?_toRecord
  refine except_bind_eq_ok_iff.mpr
    ⟨_, Record.structArray_restrict distinct
      (Schema.mem_fieldsFor (.tail _ (.head _)) active) partitions, ?_⟩
  refine except_bind_eq_ok_iff.mpr
    ⟨_, Record.mapM_restrict fun entry =>
      entryOfRecord_restrict entry supported, ?_⟩
  refine except_bind_eq_ok_iff.mpr
    ⟨_, response.error.int16_restrict distinct
      (Schema.mem_fieldsFor (.head _) active) error, ?_⟩
  rw [ErrorCode.ofCode_code]
  exact congrArg Except.ok response.ofEntries_partitions

/-- A response comes back as far as its version carries it. -/
theorem Response.ofRecord_restrict (response : Response)
    (supported : response.api.versions.contains version = true) :
    Response.ofRecord response.api version
        (response.api.responseSchema.body.restrict version
          (response.toRecord version)) =
      .ok (response.carried version) := by
  cases response with
  | apiVersions response =>
      rw [api, toRecord, Response.ofRecord,
        response.ofRecord_restrict supported]
      rfl
  | saslHandshake response =>
      rw [api, toRecord, Response.ofRecord,
        response.ofRecord_restrict supported]
      rfl
  | saslAuthenticate response =>
      rw [api, toRecord, Response.ofRecord,
        response.ofRecord_restrict supported]
      rfl
  | stopReplica response =>
      rw [api, toRecord, Response.ofRecord,
        response.ofRecord_restrict supported]
      rfl

/-- What is read at the version asked for is not read again. -/
theorem Response.parse_of_parseExact {api : ApiKey} {response : Response}
    {bytes : Bytes}
    (parsed : parseExact api version bytes = .ok response) :
    parse api version bytes = .ok response := by
  unfold parse
  rw [parsed]
  cases api <;> rfl

/-- A response that was written is read back as far as its version says. -/
theorem Response.parse_append_of_encode {response : Response} {written : Bytes}
    (encoded : response.encode version = .ok written) (suffix : Bytes) :
    Response.parse response.api version (written ++ suffix) =
      .ok (response.carried version) := by
  rw [encode] at encoded
  have supported := MessageSchema.contains_of_encode encoded
  refine parse_of_parseExact ?_
  rw [parseExact, MessageSchema.read_append_of_encode encoded suffix]
  exact response.ofRecord_restrict supported

end BrokerSession
