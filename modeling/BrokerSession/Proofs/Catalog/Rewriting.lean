import BrokerSession.Proofs.Catalog.RoundTrip

namespace BrokerSession

/-!
# Messages that are written again

What is read can be written again.  A request is written as the bytes that it
was read from.  A response is not, because an unknown error code is replaced and
a partition that is listed twice is kept once; but it is read back as itself.
-/

variable {version : Int16} {record : Record}

/-! ## Requests -/

namespace TopicPartition

/-- A record that gives a partition holds its topic and its number. -/
theorem get?_of_ofRecord {place : TopicPartition}
    (found : TopicPartition.ofRecord record = .ok place) :
    record.get? "topic" = some (.string place.topic) ∧
      record.get? "partition" = some (.int32 place.partition) := by
  obtain ⟨topic, isTopic, found⟩ := except_bind_eq_ok_iff.mp found
  obtain ⟨partition, isPartition, returned⟩ := except_bind_eq_ok_iff.mp found
  cases returned
  exact ⟨Record.string_eq_ok_iff.mp isTopic,
    Record.int32_eq_ok_iff.mp isPartition⟩

/-- A partition has the fields of the record that it was found in. -/
theorem agree_toRecord {place : TopicPartition}
    (found : TopicPartition.ofRecord record = .ok place) :
    (Schema.ofFields
        [{ name := "topic", type := .string },
          { name := "partition", type := .int32 }]).Agree version
      place.toRecord record := by
  obtain ⟨topic, partition⟩ := get?_of_ofRecord found
  obtain ⟨ownTopic, ownPartition⟩ := place.get?_toRecord
  exact ⟨fun _ => FieldType.agree_get? ownTopic topic rfl,
    fun _ => FieldType.agree_get? ownPartition partition rfl, trivial⟩

end TopicPartition

/-- A request to stop replicas is written from the fields it was read from. -/
theorem StopReplicaRequest.agree_toRecord {content : StopReplicaRequest}
    (found : StopReplicaRequest.ofRecord record = .ok content) :
    ApiKey.stopReplica.requestSchema.body.Agree version content.toRecord
      record := by
  obtain ⟨records, isArray, found⟩ := except_bind_eq_ok_iff.mp found
  obtain ⟨partitions, arePlaces, found⟩ := except_bind_eq_ok_iff.mp found
  obtain ⟨controllerId, isId, found⟩ := except_bind_eq_ok_iff.mp found
  obtain ⟨controllerEpoch, isEpoch, found⟩ := except_bind_eq_ok_iff.mp found
  obtain ⟨deletePartitions, deletes, returned⟩ :=
    except_bind_eq_ok_iff.mp found
  cases returned
  let content : StopReplicaRequest :=
    { controllerId, controllerEpoch, deletePartitions, partitions }
  obtain ⟨ownId, ownEpoch, ownDeletes, ownPlaces⟩ := content.get?_toRecord
  have alike :
      List.Forall₂
        ((FieldType.struct (Schema.ofFields
          [{ name := "topic", type := .string },
            { name := "partition", type := .int32 }])).Agree version)
        (partitions.map fun place => .struct place.toRecord)
        (records.map .struct) := by
    rw [List.forall₂_map_left_iff, List.forall₂_map_right_iff]
    exact (except_mapM_eq_ok_iff.mp arePlaces).flip.imp
      fun place entry converted => TopicPartition.agree_toRecord converted
  have isId := Record.int32_eq_ok_iff.mp isId
  have isEpoch := Record.int32_eq_ok_iff.mp isEpoch
  have deletes := Record.boolean_eq_ok_iff.mp deletes
  have isArray := Record.structArray_eq_ok_iff.mp isArray
  exact ⟨fun _ => FieldType.agree_get? ownId isId rfl,
    fun _ => FieldType.agree_get? ownEpoch isEpoch rfl,
    fun _ => FieldType.agree_get? ownDeletes deletes rfl,
    fun _ => FieldType.agree_get? ownPlaces isArray alike, trivial⟩

/-- A request has the fields of the record that it was found in. -/
theorem RequestBody.agree_toRecord {api : ApiKey} {body : RequestBody}
    (found : RequestBody.ofRecord api record = .ok body) :
    body.api = api ∧
      api.requestSchema.body.Agree version body.toRecord record := by
  cases api with
  | apiVersions =>
      cases found
      exact ⟨rfl, trivial⟩
  | saslHandshake =>
      obtain ⟨mechanism, isMechanism, rfl⟩ := except_map_eq_ok_iff.mp found
      have isHeld := Record.string_eq_ok_iff.mp isMechanism
      exact ⟨rfl, fun _ =>
        FieldType.agree_get? (Table.get?_ofList_singleton _ _) isHeld rfl,
        trivial⟩
  | saslAuthenticate =>
      obtain ⟨token, isToken, rfl⟩ := except_map_eq_ok_iff.mp found
      have isHeld := Record.bytes_eq_ok_iff.mp isToken
      exact ⟨rfl, fun _ =>
        FieldType.agree_get? (Table.get?_ofList_singleton _ _) isHeld rfl,
        trivial⟩
  | stopReplica =>
      obtain ⟨content, isContent, rfl⟩ := except_map_eq_ok_iff.mp found
      exact ⟨rfl, StopReplicaRequest.agree_toRecord isContent⟩

/-- A request is written as the bytes that it was read from. -/
theorem Request.encode_of_parse {api : ApiKey} {request : Request}
    {bytes : Bytes} (parsed : Request.parse api version bytes = .ok request) :
    (request.api = api ∧ request.version = version) ∧
      ∃ written, request.encode = .ok written ∧ written <+: bytes := by
  rw [parse] at parsed
  split at parsed
  · next record rest read =>
      have distinct :
          api.requestSchema.versions.contains version = true →
            api.requestSchema.body.hasDistinctNames version = true :=
        fun supported => (ApiKey.hasDistinctNames supported).1
      obtain ⟨-, written, encoded, rfl⟩ :=
        MessageSchema.encode_of_read distinct read
      obtain ⟨body, found, returned⟩ := except_bind_eq_ok_iff.mp parsed
      cases returned
      obtain ⟨rfl, agree⟩ := RequestBody.agree_toRecord found
      refine ⟨⟨rfl, rfl⟩, written, ?_, List.prefix_append _ _⟩
      exact (MessageSchema.encode_eq_of_agree agree).trans encoded
  · cases parsed

/-! ## Responses -/

/-- Whether the lengths in a response fit what announces them on the wire. -/
def Response.IsBounded : Response → Prop
  | .apiVersions response =>
      response.apiVersions.length ≤ Encode.maxCount
  | .saslHandshake response =>
      response.enabledMechanisms.length ≤ Encode.maxCount ∧
        ∀ mechanism ∈ response.enabledMechanisms,
          mechanism.utf8ByteSize ≤ Encode.maxStringLength
  | .saslAuthenticate response =>
      (∀ text ∈ response.errorMessage,
          text.utf8ByteSize ≤ Encode.maxStringLength) ∧
        response.token.length ≤ Encode.maxCount
  | .stopReplica response =>
      response.partitions.entries.length ≤ Encode.maxCount ∧
        ∀ entry ∈ response.partitions.entries,
          entry.1.topic.utf8ByteSize ≤ Encode.maxStringLength

/-- What exists since version 1 is active from version 1 on only. -/
theorem VersionRange.le_of_contains_since {low version : Int16}
    (active : (VersionRange.since low).contains version = true) :
    low ≤ version := by
  rw [contains, Bool.and_eq_true] at active
  exact of_decide_eq_true active.1

/-- A list conforms if it is not too long and each of its items conforms. -/
theorem FieldType.conforms_array_map {Item : Type} {items : List Item}
    {make : Item → Value} {element : FieldType}
    (counted : items.length ≤ Encode.maxCount)
    (each : ∀ item ∈ items, element.Conforms version (make item)) :
    (FieldType.array element).Conforms version (.array (items.map make)) := by
  refine ⟨?_, List.forall_mem_map.mpr each⟩
  rw [List.length_map]
  exact counted

/-- Nothing but its lengths keeps a response from being written. -/
theorem Response.conforms_toRecord {response : Response}
    (bounded : response.IsBounded) (version : Int16) :
    response.api.responseSchema.body.Conforms version
      (response.toRecord version) := by
  cases response with
  | apiVersions response =>
      obtain ⟨error, ranges, throttle⟩ := response.get?_toRecord version
      refine ⟨fun _ => ⟨_, error, trivial⟩, fun _ => ⟨_, ranges, ?_⟩,
        fun active =>
          ⟨_, throttle (VersionRange.le_of_contains_since active), trivial⟩,
        trivial⟩
      refine FieldType.conforms_array_map bounded fun range _ => ?_
      obtain ⟨apiKey, minVersion, maxVersion⟩ := range.get?_toRecord
      exact ⟨fun _ => ⟨_, apiKey, trivial⟩, fun _ => ⟨_, minVersion, trivial⟩,
        fun _ => ⟨_, maxVersion, trivial⟩, trivial⟩
  | saslHandshake response =>
      obtain ⟨error, mechanisms⟩ := response.get?_toRecord
      refine ⟨fun _ => ⟨_, error, trivial⟩, fun _ => ⟨_, mechanisms, ?_⟩,
        trivial⟩
      exact FieldType.conforms_array_map bounded.1 bounded.2
  | saslAuthenticate response =>
      obtain ⟨error, errorMessage, token, lifetime⟩ :=
        response.get?_toRecord version
      exact ⟨fun _ => ⟨_, error, trivial⟩,
        fun _ => ⟨_, errorMessage, bounded.1⟩, fun _ => ⟨_, token, bounded.2⟩,
        fun active =>
          ⟨_, lifetime (VersionRange.le_of_contains_since active), trivial⟩,
        trivial⟩
  | stopReplica response =>
      obtain ⟨error, partitions⟩ := response.get?_toRecord
      refine ⟨fun _ => ⟨_, error, trivial⟩, fun _ => ⟨_, partitions, ?_⟩,
        trivial⟩
      refine FieldType.conforms_array_map bounded.1 fun entry isEntry => ?_
      obtain ⟨topic, partition, error⟩ :=
        StopReplicaResponse.get?_entryRecord entry
      exact ⟨fun _ => ⟨_, topic, bounded.2 entry isEntry⟩,
        fun _ => ⟨_, partition, trivial⟩, fun _ => ⟨_, error, trivial⟩,
        trivial⟩

/-- A response is written at each version of its API if its lengths fit. -/
theorem Response.exists_encode {response : Response}
    (bounded : response.IsBounded)
    (supported : response.api.versions.contains version = true) :
    ∃ written, response.encode version = .ok written :=
  MessageSchema.exists_encode_iff.mpr
    ⟨supported, response.conforms_toRecord bounded version⟩

/-! ### Responses that were read -/

/-- The topics in what a schema read are as short as it announced. -/
theorem TopicPartition.utf8ByteSize_le {place : TopicPartition}
    {listed : List Field}
    (found : TopicPartition.ofRecord record = .ok place)
    (active : VersionRange.all.contains version = true)
    (hasTopic : { name := "topic", type := .string } ∈ listed)
    (conforms : (Schema.ofFields listed).Conforms version record) :
    place.topic.utf8ByteSize ≤ Encode.maxStringLength :=
  conforms.of_get? hasTopic active (get?_of_ofRecord found).1

/-- Whether a response can be written and says nothing that is left out then. -/
structure Response.IsSettled (response : Response) (version : Int16) :
    Prop where
  bounded : response.IsBounded
  carried : response.carried version = response

/-- A throttle time that was read was there, or else it is zero. -/
theorem ApiVersionsResponse.throttleTimeMs_eq_zero {throttleTimeMs : Int32}
    (supported : ApiKey.apiVersions.versions.contains version = true)
    (holds :
      ApiKey.apiVersions.responseSchema.body.HoldsExactly version record)
    (found :
      (if record.contains "throttle_time_ms" then
          record.int32 "throttle_time_ms"
        else pure 0) = .ok throttleTimeMs)
    (early : ¬ 1 ≤ version) : throttleTimeMs = 0 := by
  have absent :=
    mt (holds.contains_iff _).mp (not_mem_activeNames supported early)
  rw [if_neg absent] at found
  exact (Except.ok.inj found).symm

/-- A list of versions that was read can be written again. -/
theorem ApiVersionsResponse.isSettled_of_ofRecord
    {response : ApiVersionsResponse}
    (supported : ApiKey.apiVersions.versions.contains version = true)
    (holds :
      ApiKey.apiVersions.responseSchema.body.HoldsExactly version record)
    (found : ApiVersionsResponse.ofRecord record = .ok response) :
    (Response.apiVersions response).IsSettled version := by
  have active := ApiKey.isActive_all supported
  obtain ⟨records, error, isArray, converted, throttle, -, -⟩ :=
    ofRecord_eq_ok_iff.mp found
  constructor
  · have counted := (holds.conforms.of_get? (.tail _ (.head _)) active
      (Record.structArray_eq_ok_iff.mp isArray)).1
    rw [List.length_map] at counted
    rw [Response.IsBounded, ← (except_mapM_eq_ok_iff.mp converted).length_eq]
    exact counted
  · rw [Response.carried, carried]
    split
    · rfl
    · next early =>
        rw [← throttleTimeMs_eq_zero supported holds throttle early]

/-- An answer to a handshake that was read can be written again. -/
theorem SaslHandshakeResponse.isSettled_of_ofRecord
    {response : SaslHandshakeResponse}
    (supported : ApiKey.saslHandshake.versions.contains version = true)
    (holds :
      ApiKey.saslHandshake.responseSchema.body.HoldsExactly version record)
    (found : SaslHandshakeResponse.ofRecord record = .ok response) :
    (Response.saslHandshake response).IsSettled version := by
  obtain ⟨mechanisms, isArray, found⟩ := except_bind_eq_ok_iff.mp found
  obtain ⟨error, -, returned⟩ := except_bind_eq_ok_iff.mp found
  cases returned
  have isHeld :
      record.get? "enabled_mechanisms" =
        some (.array (mechanisms.map .string)) := by
    refine (Record.arrayOf_eq_ok_iff ?_).mp isArray
    intro value content
    cases value <;> simp [Value.string?]
  obtain ⟨counted, short⟩ := holds.conforms.of_get? (.tail _ (.head _))
    (ApiKey.isActive_all supported) isHeld
  rw [List.length_map] at counted
  exact ⟨⟨counted, List.forall_mem_map.mp short⟩, rfl⟩

/-- An answer to a token that was read can be written again. -/
theorem SaslAuthenticateResponse.isSettled_of_ofRecord
    {response : SaslAuthenticateResponse}
    (supported : ApiKey.saslAuthenticate.versions.contains version = true)
    (holds :
      ApiKey.saslAuthenticate.responseSchema.body.HoldsExactly version record)
    (found : SaslAuthenticateResponse.ofRecord version record = .ok response) :
    (Response.saslAuthenticate response).IsSettled version := by
  have active := ApiKey.isActive_all supported
  obtain ⟨lifetime, lasts, found⟩ := except_bind_eq_ok_iff.mp
    ((apply_ite (· >>= _) _ _ _).trans found)
  obtain ⟨error, -, found⟩ := except_bind_eq_ok_iff.mp found
  obtain ⟨errorMessage, isMessage, found⟩ := except_bind_eq_ok_iff.mp found
  obtain ⟨token, isToken, returned⟩ := except_bind_eq_ok_iff.mp found
  cases returned
  have short := holds.conforms.of_get? (.tail _ (.head _)) active
    (Record.nullableString_eq_ok_iff.mp isMessage)
  have counted := holds.conforms.of_get? (.tail _ (.tail _ (.head _))) active
    (Record.bytes_eq_ok_iff.mp isToken)
  refine ⟨⟨short, counted⟩, ?_⟩
  rw [Response.carried, carried]
  split
  · rfl
  · next early =>
      rw [if_neg early] at lasts
      cases lasts
      rfl

/-- The partition of an entry is that of its record. -/
theorem StopReplicaResponse.place_of_entryOfRecord
    {entry : TopicPartition × ErrorCode}
    (found : entryOfRecord record = .ok entry) :
    TopicPartition.ofRecord record = .ok entry.1 := by
  obtain ⟨error, -, found⟩ := except_bind_eq_ok_iff.mp found
  obtain ⟨place, isPlace, returned⟩ := except_bind_eq_ok_iff.mp found
  cases returned
  exact isPlace

/-- A response about stopped replicas that was read can be written again. -/
theorem StopReplicaResponse.isSettled_of_ofRecord
    {response : StopReplicaResponse}
    (supported : ApiKey.stopReplica.versions.contains version = true)
    (holds :
      ApiKey.stopReplica.responseSchema.body.HoldsExactly version record)
    (found : StopReplicaResponse.ofRecord record = .ok response) :
    (Response.stopReplica response).IsSettled version := by
  have active := ApiKey.isActive_all supported
  obtain ⟨records, isArray, found⟩ := except_bind_eq_ok_iff.mp found
  obtain ⟨entries, converted, found⟩ := except_bind_eq_ok_iff.mp found
  obtain ⟨error, -, returned⟩ := except_bind_eq_ok_iff.mp found
  cases returned
  obtain ⟨counted, conform⟩ := holds.conforms.of_get? (.tail _ (.head _))
    active (Record.structArray_eq_ok_iff.mp isArray)
  obtain ⟨sameLength, short⟩ :=
    forall_mem_of_mapM converted (List.forall_mem_map.mp conform)
      fun record entry conforms isEntry =>
        TopicPartition.utf8ByteSize_le (place_of_entryOfRecord isEntry) active
          (.head _) conforms
  rw [List.length_map, ← sameLength] at counted
  -- The table has dropped entries at most, so it is no longer than the list.
  refine ⟨⟨?_, ?_⟩, rfl⟩ <;> rw [partitions_ofEntries]
  · exact Nat.le_trans (Table.length_entries_ofList_le entries) counted
  · exact fun entry isEntry =>
      short entry (Table.mem_of_mem_entries_ofList isEntry)

/-- A response that was read can be written again at its version. -/
theorem Response.isSettled_of_ofRecord {api : ApiKey} {response : Response}
    (supported : api.versions.contains version = true)
    (holds : api.responseSchema.body.HoldsExactly version record)
    (found : Response.ofRecord api version record = .ok response) :
    response.api = api ∧ response.IsSettled version := by
  cases api with
  | apiVersions =>
      obtain ⟨content, isContent, rfl⟩ := except_map_eq_ok_iff.mp found
      exact ⟨rfl, content.isSettled_of_ofRecord supported holds isContent⟩
  | saslHandshake =>
      obtain ⟨content, isContent, rfl⟩ := except_map_eq_ok_iff.mp found
      exact ⟨rfl, content.isSettled_of_ofRecord supported holds isContent⟩
  | saslAuthenticate =>
      obtain ⟨content, isContent, rfl⟩ := except_map_eq_ok_iff.mp found
      exact ⟨rfl, content.isSettled_of_ofRecord supported holds isContent⟩
  | stopReplica =>
      obtain ⟨content, isContent, rfl⟩ := except_map_eq_ok_iff.mp found
      exact ⟨rfl, content.isSettled_of_ofRecord supported holds isContent⟩

/-- A body that was read at a version can be written again at it. -/
theorem Response.isSettled_of_parseExact {api : ApiKey} {response : Response}
    {bytes : Bytes}
    (parsed : parseExact api version bytes = .ok response) :
    response.api = api ∧ response.IsSettled version := by
  rw [parseExact] at parsed
  split at parsed
  · next record rest read =>
      obtain ⟨supported, holds⟩ := ApiKey.holdsExactly_of_read_response read
      exact isSettled_of_ofRecord supported holds parsed
  · cases parsed

/-- What version zero says, every version says. -/
theorem Response.IsSettled.of_zero {response : Response}
    (settled : response.IsSettled 0) (version : Int16) :
    response.IsSettled version := by
  refine ⟨settled.bounded, ?_⟩
  have carried := settled.carried
  have isZero : ¬ (1 : Int16) ≤ 0 := by decide
  cases response with
  | apiVersions response =>
      rw [Response.carried, ApiVersionsResponse.carried, if_neg isZero]
        at carried
      rw [Response.carried, ApiVersionsResponse.carried]
      split
      · rfl
      · exact carried
  | saslAuthenticate response =>
      rw [Response.carried, SaslAuthenticateResponse.carried, if_neg isZero]
        at carried
      rw [Response.carried, SaslAuthenticateResponse.carried]
      split
      · rfl
      · exact carried
  | saslHandshake | stopReplica =>
      rfl

/-- A second reading at version zero says nothing that is left out later. -/
theorem Response.isSettled_of_parse {api : ApiKey} {response : Response}
    {bytes : Bytes} (parsed : Response.parse api version bytes = .ok response) :
    response.api = api ∧ response.IsSettled version := by
  unfold parse at parsed
  split at parsed
  · obtain ⟨isApi, settled⟩ := isSettled_of_parseExact parsed
    exact ⟨isApi, settled.of_zero version⟩
  · exact isSettled_of_parseExact parsed

/-- A response that was read is written and read back as itself. -/
theorem Response.parse_encode_of_parse {api : ApiKey} {response : Response}
    {bytes : Bytes} (supported : api.versions.contains version = true)
    (parsed : Response.parse api version bytes = .ok response) :
    response.api = api ∧
      ∃ written,
        response.encode version = .ok written ∧
          Response.parse api version written = .ok response := by
  obtain ⟨rfl, settled⟩ := isSettled_of_parse parsed
  obtain ⟨written, encoded⟩ := response.exists_encode settled.bounded supported
  have readBack := parse_append_of_encode encoded []
  rw [List.append_nil, settled.carried] at readBack
  exact ⟨rfl, written, encoded, readBack⟩

end BrokerSession
