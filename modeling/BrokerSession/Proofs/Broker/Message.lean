import BrokerSession.Proofs.Broker.Basic
import BrokerSession.Proofs.Catalog.RoundTrip
import BrokerSession.Proofs.Session.Envelope
import BrokerSession.Proofs.Session.Exchange

namespace BrokerSession

/-!
# Messages that get across

What a session sends is what a broker reads, and what the broker answers is
what the session reads, as far as the version of the answer says it.
-/

/-- A broker reads the request that was written, under its own header. -/
theorem Asked.ofPayload_serialize {request : Request} {header : RequestHeader}
    {payload : Bytes} (sameApi : header.api = request.api)
    (sameVersion : header.version = request.version)
    (serialized : request.serialize header = .ok payload) :
    Asked.ofPayload payload = .ok { header, request } := by
  obtain ⟨head, body, wroteHead, wroteBody, rfl⟩ :=
    Request.serialize_eq_ok_iff.mp serialized
  have parsed := Request.parse_append_of_encode wroteBody []
  rw [List.append_nil, ← sameApi, ← sameVersion] at parsed
  rw [Asked.ofPayload,
    RequestHeader.read_eq_ok_iff.mpr ⟨head, wroteHead, rfl⟩]
  exact except_bind_eq_ok_iff.mpr ⟨request, parsed, rfl⟩

/-- A session reads the response that was written to its request. -/
theorem Response.ofPayload_serialize {response : Response}
    {header : RequestHeader} {payload : Bytes}
    (sameApi : header.api = response.api)
    (serialized :
      response.serialize header.correlationId header.version = .ok payload) :
    Response.ofPayload header payload =
      .ok (response.carried header.version) := by
  obtain ⟨body, wroteBody, rfl⟩ := Response.serialize_eq_ok_iff.mp serialized
  have parsed := Response.parse_append_of_encode wroteBody []
  rw [List.append_nil, ← sameApi] at parsed
  exact Response.ofPayload_eq_ok_iff.mpr ⟨body, rfl, parsed⟩

end BrokerSession
