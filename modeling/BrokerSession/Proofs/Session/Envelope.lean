import BrokerSession.Proofs.Schema.Primitive
import BrokerSession.Session.Envelope

namespace BrokerSession

/-!
# Headers on the wire

The bytes of a request header are its own and no other's.  A payload is decoded
as the response to a request only if it begins with the correlation id of that
request.
-/

/-! ## Requests -/

/-- Only the key of an API is looked up as the API. -/
theorem ApiKey.ofId_eq_ok_iff {id : Int16} {api : ApiKey} :
    ApiKey.ofId id = .ok api ↔ id = api.id := by
  constructor
  · intro found
    rw [ofId] at found
    split at found
    · next listed isListed =>
        cases found
        have named := List.find?_some isListed
        exact (of_decide_eq_true named).symm
    · cases found
  · rintro rfl
    exact ofId_id api

namespace RequestHeader

/-- The wire form of a header without the name of the client. -/
def fixedPart (header : RequestHeader) : Bytes :=
  Bytes.ofInt16 header.api.id ++ Bytes.ofInt16 header.version ++
    Bytes.ofInt32 header.correlationId

/-- The fixed part gives its three numbers back. -/
theorem numbers_of_fixedPart (header : RequestHeader) :
    Bytes.toInt16 (header.fixedPart.take 2) = header.api.id ∧
      Bytes.toInt16 ((header.fixedPart.drop 2).take 2) = header.version ∧
      Bytes.toInt32 (header.fixedPart.drop 4) = header.correlationId := by
  have others :
      header.fixedPart.drop 2 =
        Bytes.ofInt16 header.version ++ Bytes.ofInt32 header.correlationId := by
    rw [fixedPart, List.append_assoc]
    exact List.drop_left' (Bytes.length_ofInt16 _)
  refine ⟨?_, ?_, ?_⟩
  · rw [fixedPart, List.append_assoc,
      List.take_left' (Bytes.length_ofInt16 _), Bytes.toInt16_ofInt16]
  · rw [others, List.take_left' (Bytes.length_ofInt16 _),
      Bytes.toInt16_ofInt16]
  · have last :
        header.fixedPart.drop 4 = Bytes.ofInt32 header.correlationId :=
      List.drop_left' (by simp)
    rw [last, Bytes.toInt32_ofInt32]

/-- Eight bytes are the fixed part of the header with their numbers. -/
theorem fixedPart_of_numbers {header : RequestHeader} {fixed : Bytes}
    (sized : fixed.length = 8)
    (isApi : Bytes.toInt16 (fixed.take 2) = header.api.id)
    (isVersion : Bytes.toInt16 ((fixed.drop 2).take 2) = header.version)
    (isCorrelationId :
      Bytes.toInt32 (fixed.drop 4) = header.correlationId) :
    header.fixedPart = fixed := by
  have twoBytes : (fixed.take 2).length = 2 := by
    simp [sized]
  have nextTwoBytes : ((fixed.drop 2).take 2).length = 2 := by
    simp [sized]
  have fourBytes : (fixed.drop 4).length = 4 := by
    simp [sized]
  rw [fixedPart, ← isApi, ← isVersion, ← isCorrelationId,
    Bytes.ofInt16_toInt16 twoBytes, Bytes.ofInt16_toInt16 nextTwoBytes,
    Bytes.ofInt32_toInt32 fourBytes, List.append_assoc]
  have behind : fixed.drop 4 = (fixed.drop 2).drop 2 := by
    rw [List.drop_drop]
  rw [behind, List.take_append_drop, List.take_append_drop]

/-- A header is read exactly from its wire form, whatever follows it. -/
theorem read_eq_ok_iff {header : RequestHeader} {input rest : Bytes} :
    RequestHeader.read.run input = .ok header rest ↔
      ∃ written, header.encode = .ok written ∧ input = written ++ rest := by
  rw [RequestHeader.read, run_bind_eq_ok_iff]
  constructor
  · rintro ⟨fixed, between, took, goesOn⟩
    obtain ⟨sized, rfl⟩ := Decode.take_eq_ok_iff.mp took
    split at goesOn
    · cases goesOn
    · next api found =>
        obtain ⟨clientId, readClientId, rfl⟩ :=
          run_convert_eq_ok_iff.mp goesOn
        obtain ⟨written, wrote, rfl⟩ :=
          Decode.nullableString_eq_ok_iff.mp readClientId
        let read : RequestHeader :=
          { api
            version := Bytes.toInt16 ((fixed.drop 2).take 2)
            correlationId := Bytes.toInt32 (fixed.drop 4)
            clientId }
        have isFixed : read.fixedPart = fixed :=
          fixedPart_of_numbers sized (ApiKey.ofId_eq_ok_iff.mp found) rfl rfl
        refine ⟨fixed ++ written, except_bind_eq_ok_iff.mpr
          ⟨written, wrote, ?_⟩, (List.append_assoc ..).symm⟩
        exact congrArg (fun head => Except.ok (head ++ written)) isFixed
  · rintro ⟨written, encoded, rfl⟩
    obtain ⟨clientId, wrote, returned⟩ := except_bind_eq_ok_iff.mp encoded
    cases returned
    obtain ⟨isApi, isVersion, isCorrelationId⟩ := header.numbers_of_fixedPart
    refine ⟨header.fixedPart, clientId ++ rest,
      Decode.take_eq_ok_iff.mpr ⟨rfl, List.append_assoc ..⟩, ?_⟩
    rw [isApi, ApiKey.ofId_id]
    refine run_convert_eq_ok_iff.mpr
      ⟨header.clientId,
        Decode.nullableString_eq_ok_iff.mpr ⟨clientId, wrote, rfl⟩, ?_⟩
    rw [isVersion, isCorrelationId]

end RequestHeader

/-- A request is its header and its body, one after the other. -/
theorem Request.serialize_eq_ok_iff {request : Request}
    {header : RequestHeader} {written : Bytes} :
    request.serialize header = .ok written ↔
      ∃ head body,
        header.encode = .ok head ∧ request.encode = .ok body ∧
          written = head ++ body := by
  constructor
  · intro serialized
    obtain ⟨head, wroteHead, serialized⟩ :=
      except_bind_eq_ok_iff.mp serialized
    obtain ⟨body, wroteBody, returned⟩ := except_bind_eq_ok_iff.mp serialized
    cases returned
    exact ⟨head, body, wroteHead, wroteBody, rfl⟩
  · rintro ⟨head, body, wroteHead, wroteBody, rfl⟩
    exact except_bind_eq_ok_iff.mpr
      ⟨head, wroteHead, except_bind_eq_ok_iff.mpr ⟨body, wroteBody, rfl⟩⟩

/-! ## Responses -/

/-- The header of a response is its correlation id and nothing else. -/
theorem ResponseHeader.read_eq_ok_iff {input rest : Bytes}
    {header : ResponseHeader} :
    ResponseHeader.read.run input = .ok header rest ↔
      input = header.encode ++ rest := by
  rw [ResponseHeader.read, run_bind_eq_ok_iff]
  constructor
  · rintro ⟨taken, between, took, returned⟩
    obtain ⟨sized, rfl⟩ := Decode.take_eq_ok_iff.mp took
    cases returned
    rw [ResponseHeader.encode, Bytes.ofInt32_toInt32 sized]
  · intro shape
    refine ⟨header.encode, rest,
      Decode.take_eq_ok_iff.mpr ⟨Bytes.length_ofInt32 _, shape⟩, ?_⟩
    rw [ResponseHeader.encode, Bytes.toInt32_ofInt32]
    rfl

/-- A response is a correlation id and its body, one after the other. -/
theorem Response.serialize_eq_ok_iff {response : Response}
    {correlationId : Int32} {version : Int16} {written : Bytes} :
    response.serialize correlationId version = .ok written ↔
      ∃ body,
        response.encode version = .ok body ∧
          written = ResponseHeader.encode { correlationId } ++ body := by
  constructor
  · intro serialized
    obtain ⟨body, wroteBody, returned⟩ := except_bind_eq_ok_iff.mp serialized
    cases returned
    exact ⟨body, wroteBody, rfl⟩
  · rintro ⟨body, wroteBody, rfl⟩
    exact except_bind_eq_ok_iff.mpr ⟨body, wroteBody, rfl⟩

/-- A response repeats the correlation id of the request that it answers. -/
theorem Response.ofPayload_eq_ok_iff {header : RequestHeader}
    {payload : Bytes} {response : Response} :
    Response.ofPayload header payload = .ok response ↔
      ∃ body,
        payload =
            ResponseHeader.encode { correlationId := header.correlationId } ++
              body ∧
          Response.parse header.api header.version body = .ok response := by
  rw [Response.ofPayload]
  constructor
  · intro decoded
    split at decoded
    · cases decoded
    · next found body isHeader =>
        split at decoded
        · next same =>
            refine ⟨body, ?_, except_mapError_eq_ok_iff.mp decoded⟩
            rw [← same]
            exact ResponseHeader.read_eq_ok_iff.mp isHeader
        · cases decoded
  · rintro ⟨body, shape, parsed⟩
    rw [ResponseHeader.read_eq_ok_iff.mpr shape]
    simp only [if_pos]
    exact except_mapError_eq_ok_iff.mpr parsed

/-- A payload without room for a correlation id is an underrun. -/
theorem Response.ofPayload_of_short {header : RequestHeader} {payload : Bytes}
    (isShort : payload.length < 4) :
    Response.ofPayload header payload =
      .error (.schema
        (.bufferUnderrun "correlation_id" 4 payload.length)) := by
  have underrun :
      ResponseHeader.read.run payload =
        .error (.bufferUnderrun "correlation_id" 4 payload.length) payload := by
    have taken : payload.take 4 = payload :=
      List.take_of_length_le (Nat.le_of_lt isShort)
    simp [ResponseHeader.read, Decode.take, EStateM.run, bind, EStateM.bind,
      taken, isShort]
  rw [Response.ofPayload, underrun]

/-- The body counts only behind the correlation id of the request. -/
theorem Response.ofPayload_append (header : RequestHeader) (actual : Int32)
    (body : Bytes) :
    Response.ofPayload header (Bytes.ofInt32 actual ++ body) =
      if actual = header.correlationId then
        (Response.parse header.api header.version body).mapError .schema
      else .error (.correlationMismatch header.correlationId actual) := by
  have isHeader :
      ResponseHeader.read.run (Bytes.ofInt32 actual ++ body) =
        .ok { correlationId := actual } body :=
    ResponseHeader.read_eq_ok_iff.mpr rfl
  rw [Response.ofPayload, isHeader]

end BrokerSession
