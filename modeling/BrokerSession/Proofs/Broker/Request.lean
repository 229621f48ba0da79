import BrokerSession.Catalog.Request
import BrokerSession.Proofs.Catalog.Record
import BrokerSession.Proofs.Session.Exchange

namespace BrokerSession

/-!
# Requests that a session can send

The requests of an exchange can be written as long as they fit a frame.  Only
those that carry tokens may be too long for one.
-/

/-- A header can be written if its client id is not too long. -/
theorem RequestHeader.exists_encode (header : RequestHeader)
    (bounded :
      ∀ clientId ∈ header.clientId,
        clientId.utf8ByteSize ≤ Encode.maxStringLength) :
    ∃ written,
      header.encode = .ok written ∧
        written.length = 10 + header.clientId.elim 0 String.utf8ByteSize := by
  rw [encode]
  cases isClientId : header.clientId with
  | none =>
      refine ⟨_, rfl, ?_⟩
      simp
  | some clientId =>
      have fits := bounded clientId isClientId
      rw [Encode.nullableString, Encode.string, if_pos fits]
      refine ⟨_, rfl, ?_⟩
      simp [Bytes.length_bigEndian]
      omega

namespace Request

variable {version : Int16}

/-- A request without fields is written as nothing. -/
theorem encode_apiVersions
    (supported : ApiKey.apiVersions.supports version = true) :
    encode { body := .apiVersions, version } = .ok [] := by
  have checked :
      ApiKey.apiVersions.requestSchema.checkVersion version = .ok () :=
    if_pos supported
  exact except_bind_eq_ok_iff.mpr ⟨(), checked, rfl⟩

/-- A request with one field is written as the content of the field. -/
theorem encode_of_write {body : RequestBody} {name : String}
    {type : FieldType} {value : Value} {written : Bytes}
    (supported : body.api.supports version = true)
    (fields : body.api.requestFields = [{ name, type }])
    (holds : body.toRecord.get? name = some value)
    (wrote : type.write name version value = .ok written) :
    encode { body, version } = .ok written := by
  have checked : body.api.requestSchema.checkVersion version = .ok () :=
    if_pos supported
  refine except_bind_eq_ok_iff.mpr ⟨(), checked, ?_⟩
  have active := ApiKey.isActive_all supported
  have wroteAll :
      (Schema.ofFields [{ name, type }]).write version body.toRecord =
        .ok written :=
    (Schema.write_cons_eq_ok_iff active).mpr
      ⟨value, written, [], holds, wrote, rfl, (List.append_nil _).symm⟩
  rw [← fields] at wroteAll
  exact wroteAll

theorem exists_encode_saslHandshake {mechanism : String}
    (supported : ApiKey.saslHandshake.supports version = true)
    (fits : mechanism.utf8ByteSize ≤ Encode.maxStringLength) :
    ∃ written,
      encode { body := .saslHandshake mechanism, version } = .ok written ∧
        written.length = 2 + mechanism.utf8ByteSize := by
  have wrote :
      FieldType.string.write "mechanism" version (.string mechanism) =
        .ok (Bytes.bigEndian 2 mechanism.utf8ByteSize ++
          Bytes.ofString mechanism) :=
    if_pos fits
  refine ⟨_, encode_of_write supported rfl ?_ wrote, ?_⟩
  · simp [RequestBody.toRecord, Table.ofList, Table.get?_insert]
  · simp [Bytes.length_bigEndian]

theorem exists_encode_saslAuthenticate {token : Bytes}
    (supported : ApiKey.saslAuthenticate.supports version = true)
    (fits : token.length ≤ Encode.maxCount) :
    ∃ written,
      encode { body := .saslAuthenticate token, version } = .ok written ∧
        written.length = 4 + token.length := by
  have wrote :
      FieldType.bytes.write "sasl_auth_bytes" version (.bytes token) =
        .ok (Bytes.bigEndian 4 token.length ++ token) := by
    have counted :
        Encode.count "sasl_auth_bytes" token.length =
          .ok (Bytes.bigEndian 4 token.length) :=
      if_pos fits
    exact except_bind_eq_ok_iff.mpr ⟨_, counted, rfl⟩
  refine ⟨_, encode_of_write supported rfl ?_ wrote, ?_⟩
  · simp [RequestBody.toRecord, Table.ofList, Table.get?_insert]
  · simp [Bytes.length_bigEndian]

/-- The header and the body of a request are as long as both together. -/
theorem exists_serialize {request : Request} {header : RequestHeader}
    {body : Bytes}
    (bounded :
      ∀ clientId ∈ header.clientId,
        clientId.utf8ByteSize ≤ Encode.maxStringLength)
    (encoded : request.encode = .ok body) :
    ∃ payload,
      request.serialize header = .ok payload ∧
        payload.length =
          10 + header.clientId.elim 0 String.utf8ByteSize + body.length := by
  obtain ⟨head, wroteHead, sized⟩ := header.exists_encode bounded
  refine ⟨head ++ body, ?_, ?_⟩
  · refine except_bind_eq_ok_iff.mpr ⟨head, wroteHead, ?_⟩
    exact except_bind_eq_ok_iff.mpr ⟨body, encoded, rfl⟩
  · rw [List.length_append, sized]

end Request

end BrokerSession
