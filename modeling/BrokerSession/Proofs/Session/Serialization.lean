import BrokerSession.Proofs.Catalog.Conversion
import BrokerSession.Proofs.Catalog.Lookup
import BrokerSession.Proofs.Session.Envelope

namespace BrokerSession

/-!
# Messages and their schemas

A message is written behind its header exactly if the version is supported and
no length is too great for what announces it.  A message is found in whatever
its schema reads.  So the records of messages and the schemas do not disagree
about the name, the type or the versions of a field.
-/

/-- A client's name is written exactly if it is absent or short. -/
theorem RequestHeader.exists_encode_iff {header : RequestHeader} :
    (∃ written, header.encode = .ok written) ↔
      ∀ clientId ∈ header.clientId,
        clientId.utf8ByteSize ≤ Encode.maxStringLength := by
  have named :
      (∃ written,
          Encode.nullableString "client_id" header.clientId = .ok written) ↔
        ∀ clientId ∈ header.clientId,
          clientId.utf8ByteSize ≤ Encode.maxStringLength :=
    FieldType.exists_write_iff header.version .nullableString "client_id"
      (.nullableString header.clientId)
  rw [← named]
  constructor
  · rintro ⟨written, encoded⟩
    obtain ⟨clientId, wrote, -⟩ := except_bind_eq_ok_iff.mp encoded
    exact ⟨clientId, wrote⟩
  · rintro ⟨clientId, wrote⟩
    exact ⟨_, except_bind_eq_ok_iff.mpr ⟨clientId, wrote, rfl⟩⟩

theorem Request.exists_serialize_iff {request : Request}
    {header : RequestHeader} :
    (∃ written, request.serialize header = .ok written) ↔
      request.api.supports request.version = true ∧
        (∀ clientId ∈ header.clientId,
          clientId.utf8ByteSize ≤ Encode.maxStringLength) ∧
        request.body.IsBounded := by
  rw [← RequestHeader.exists_encode_iff]
  constructor
  · rintro ⟨written, serialized⟩
    obtain ⟨head, body, wroteHead, wroteBody, -⟩ :=
      serialize_eq_ok_iff.mp serialized
    obtain ⟨supported, bounded⟩ := exists_encode_iff.mp ⟨body, wroteBody⟩
    exact ⟨supported, ⟨head, wroteHead⟩, bounded⟩
  · rintro ⟨supported, ⟨head, wroteHead⟩, bounded⟩
    obtain ⟨body, wroteBody⟩ := exists_encode_iff.mpr ⟨supported, bounded⟩
    exact ⟨head ++ body,
      serialize_eq_ok_iff.mpr ⟨head, body, wroteHead, wroteBody, rfl⟩⟩

theorem Response.exists_serialize_iff {response : Response}
    {correlationId : Int32} {version : Int16} :
    (∃ written, response.serialize correlationId version = .ok written) ↔
      response.api.supports version = true ∧ response.IsBounded := by
  rw [← exists_encode_iff]
  constructor
  · rintro ⟨written, serialized⟩
    obtain ⟨body, wroteBody, -⟩ := serialize_eq_ok_iff.mp serialized
    exact ⟨body, wroteBody⟩
  · rintro ⟨body, wroteBody⟩
    exact ⟨_, serialize_eq_ok_iff.mpr ⟨body, wroteBody, rfl⟩⟩

/-- Nothing but its version or a length keeps a request from being written. -/
theorem Request.failsOnly_serialize (request : Request)
    (header : RequestHeader) :
    FailsOnly SchemaError.IsOfWriting (request.serialize header) := by
  have head : FailsOnly SchemaError.IsOfWriting header.encode :=
    (Encode.failsOnly_nullableString "client_id" header.clientId).bind
      fun _ => failsOnly_ok _
  have body : FailsOnly SchemaError.IsOfWriting request.encode :=
    MessageSchema.failsOnly_encode request.body.describes_toRecord
  exact head.bind fun _ => body.bind fun _ => failsOnly_ok _

/-- Nothing but its version or a length keeps a response from being written. -/
theorem Response.failsOnly_serialize (response : Response)
    (correlationId : Int32) (version : Int16) :
    FailsOnly SchemaError.IsOfWriting
      (response.serialize correlationId version) :=
  (MessageSchema.failsOnly_encode response.describes_toRecord).bind
    fun _ => failsOnly_ok _

/--
The records of the messages agree with the schemas of the messages.

The first two parts say when a request and a response are written, and that
nothing but a version or a length is ever complained of.  The last two say that
reading complains of nothing but the version and the bytes, because a message
is found in each record that was read.
-/
theorem messages_agree_with_schemas :
    (∀ (request : Request) (header : RequestHeader),
      ((∃ written, request.serialize header = .ok written) ↔
        request.api.supports request.version = true ∧
          (∀ clientId ∈ header.clientId,
            clientId.utf8ByteSize ≤ Encode.maxStringLength) ∧
          request.body.IsBounded) ∧
        FailsOnly SchemaError.IsOfWriting (request.serialize header)) ∧
      (∀ (response : Response) (correlationId : Int32) (version : Int16),
        ((∃ written,
            response.serialize correlationId version = .ok written) ↔
          response.api.supports version = true ∧ response.IsBounded) ∧
          FailsOnly SchemaError.IsOfWriting
            (response.serialize correlationId version)) ∧
      (∀ (api : ApiKey) (version : Int16) (bytes : Bytes),
        FailsOnly SchemaError.IsOfReading (Request.parse api version bytes) ∧
          FailsOnly SchemaError.IsOfReading
            (Response.parse api version bytes)) ∧
      ∀ (api : ApiKey) (version : Int16) (bytes rest : Bytes)
        (record : Record),
        ((api.requestSchema.read version).run bytes = .ok record rest →
          ∃ request, Request.ofRecord api version record = .ok request) ∧
        ((api.responseSchema.read version).run bytes = .ok record rest →
          ∃ response, Response.ofRecord api version record = .ok response) := by
  refine ⟨?requests, ?responses, ?parsing, ?lookingUp⟩
  case requests =>
    intro request header
    exact ⟨Request.exists_serialize_iff, request.failsOnly_serialize header⟩
  case responses =>
    intro response correlationId version
    exact ⟨Response.exists_serialize_iff,
      response.failsOnly_serialize correlationId version⟩
  case parsing =>
    intro api version bytes
    exact ⟨Request.failsOnly_parse api version bytes,
      Response.failsOnly_parse api version bytes⟩
  case lookingUp =>
    intro api version bytes rest record
    exact ⟨Request.exists_ofRecord_of_read, Response.exists_ofRecord_of_read⟩

/-- A handshake is written, and one is found in what was read. -/
theorem messages_agree_with_schemas_handshake :
    (∃ written,
        Request.serialize ⟨.saslHandshake "PLAIN", 1⟩
          ⟨.saslHandshake, 1, 7, some "client"⟩ = .ok written) ∧
      (ApiKey.saslHandshake.responseSchema.read 0).run
          [0, 0, 0, 0, 0, 1, 0, 2, 72, 73] =
        .ok
          (Table.ofList
            [("error_code", .int16 0),
              ("enabled_mechanisms", .array [.string "HI"])])
          [] ∧
      ∃ response,
        Response.ofRecord .saslHandshake 0
            (Table.ofList
              [("error_code", .int16 0),
                ("enabled_mechanisms", .array [.string "HI"])]) =
          .ok response := by
  have read :
      (ApiKey.saslHandshake.responseSchema.read 0).run
          [0, 0, 0, 0, 0, 1, 0, 2, 72, 73] =
        .ok
          (Table.ofList
            [("error_code", .int16 0),
              ("enabled_mechanisms", .array [.string "HI"])])
          [] := by
    rfl
  have short : "PLAIN".utf8ByteSize ≤ Encode.maxStringLength := by decide
  have named : "client".utf8ByteSize ≤ Encode.maxStringLength := by decide
  obtain ⟨requests, -, -, lookingUp⟩ := messages_agree_with_schemas
  refine ⟨(requests _ _).1.mpr ⟨by decide, ?_, short⟩, read,
    (lookingUp .saslHandshake 0 _ _ _).2 read⟩
  rintro clientId ⟨⟩
  exact named

end BrokerSession
