import BrokerSession.Proofs.Broker.Message
import BrokerSession.Proofs.Catalog.Rewriting

namespace BrokerSession

/-!
# Messages and their wire form

A request and its header are read from a buffer exactly if the buffer begins
with what they are written as.  A response is read back without the fields that
its version lacks, and one that was read can be written and read once more.
-/

/-! ## Requests -/

/--
Requests correspond to their wire forms.

A buffer is read as a header and a request exactly if both name the same API and
version and are written as the bytes at the beginning of the buffer.
-/
theorem Request.read_iff_serialized (buffer : Bytes) (header : RequestHeader)
    (request : Request) :
    (∃ rest,
      RequestHeader.read.run buffer = .ok header rest ∧
        Request.parse header.api header.version rest = .ok request) ↔
      (request.api = header.api ∧ request.version = header.version) ∧
        ∃ written,
          request.serialize header = .ok written ∧ written <+: buffer := by
  constructor
  · rintro ⟨rest, readHeader, parsed⟩
    obtain ⟨head, wroteHead, rfl⟩ := RequestHeader.read_eq_ok_iff.mp readHeader
    obtain ⟨same, body, wroteBody, isFront⟩ := Request.encode_of_parse parsed
    refine ⟨same, head ++ body, ?_, (List.prefix_append_right_inj head).mpr
      isFront⟩
    exact serialize_eq_ok_iff.mpr ⟨head, body, wroteHead, wroteBody, rfl⟩
  · rintro ⟨⟨sameApi, sameVersion⟩, written, serialized, suffix, rfl⟩
    obtain ⟨head, body, wroteHead, wroteBody, rfl⟩ :=
      serialize_eq_ok_iff.mp serialized
    refine ⟨body ++ suffix, RequestHeader.read_eq_ok_iff.mpr
      ⟨head, wroteHead, List.append_assoc ..⟩, ?_⟩
    rw [← sameApi, ← sameVersion]
    exact Request.parse_append_of_encode wroteBody suffix

/-- The wire form of a request of an anonymous client. -/
def handshakeBytes : Bytes :=
  [0, 17, 0, 1, 0, 0, 0, 7, 255, 255, 0, 5, 80, 76, 65, 73, 78]

theorem Request.read_iff_serialized_handshake :
    Request.serialize ⟨.saslHandshake "PLAIN", 1⟩
        ⟨.saslHandshake, 1, 7, none⟩ = .ok handshakeBytes ∧
      ∃ rest,
        RequestHeader.read.run (handshakeBytes ++ [9]) =
            .ok ⟨.saslHandshake, 1, 7, none⟩ rest ∧
          Request.parse .saslHandshake 1 rest =
            .ok ⟨.saslHandshake "PLAIN", 1⟩ := by
  have serialized :
      Request.serialize ⟨.saslHandshake "PLAIN", 1⟩
          ⟨.saslHandshake, 1, 7, none⟩ = .ok handshakeBytes := by
    decide +kernel
  have corresponds :=
    Request.read_iff_serialized (handshakeBytes ++ [9])
      ⟨.saslHandshake, 1, 7, none⟩ ⟨.saslHandshake "PLAIN", 1⟩
  exact ⟨serialized, corresponds.mpr
    ⟨⟨rfl, rfl⟩, _, serialized, List.prefix_append _ _⟩⟩

/-! ## Responses -/

/--
Responses come back from their wire forms.

What is read is the response that was written, without the fields that its
version lacks.  A body may be read from bytes that nobody would write, or at
another version than asked for; what it is read as can be written at the version
asked for and is read back from there.
-/
theorem Response.ofPayload_of_serialized :
    (∀ (response : Response) (header : RequestHeader) (payload : Bytes),
      header.api = response.api →
        response.serialize header.correlationId header.version = .ok payload →
          Response.ofPayload header payload =
            .ok (response.carried header.version)) ∧
    (∀ (header : RequestHeader) (bytes : Bytes) (response : Response),
      header.api.supports header.version = true →
        Response.parse header.api header.version bytes = .ok response →
          ∃ body payload,
            response.encode header.version = .ok body ∧
              Response.parse header.api header.version body = .ok response ∧
              response.serialize header.correlationId header.version =
                .ok payload ∧
              Response.ofPayload header payload = .ok response) := by
  constructor
  · intro response header payload sameApi serialized
    exact Response.ofPayload_serialize sameApi serialized
  · intro header bytes response supported parsed
    obtain ⟨-, body, encoded, readBack⟩ :=
      Response.parse_encode_of_parse supported parsed
    refine ⟨body, _, encoded, readBack,
      serialize_eq_ok_iff.mpr ⟨body, encoded, rfl⟩, ?_⟩
    exact Response.ofPayload_eq_ok_iff.mpr ⟨body, rfl, readBack⟩

/-- Three entries in no order: one partition twice, with an unknown error. -/
def repeatedPartitions : Bytes :=
  [0, 0, 0, 0, 0, 3,
    0, 1, 98, 0, 0, 0, 1, 0, 0,
    0, 1, 97, 0, 0, 0, 0, 0, 6,
    0, 1, 98, 0, 0, 0, 1, 127, 0]

/-- The two partitions, in order and with the error that was listed last. -/
def keptPartitions : Response :=
  .stopReplica (.ofEntries .none
    [(⟨"a", 0⟩, .notLeaderForPartition), (⟨"b", 1⟩, .unknownServerError)])

/-- A token whose session lifetime version zero lacks, and partitions. -/
theorem Response.ofPayload_of_serialized_lifetime :
    Response.ofPayload ⟨.saslAuthenticate, 0, 7, none⟩
        [0, 0, 0, 7, 0, 0, 255, 255, 0, 0, 0, 1, 5] =
      .ok (.saslAuthenticate ⟨.none, none, [5], 0⟩) ∧
    Response.parse .stopReplica 0 repeatedPartitions = .ok keptPartitions ∧
    ∃ payload,
      keptPartitions.serialize 7 0 = .ok payload ∧
        Response.ofPayload ⟨.stopReplica, 0, 7, some "client"⟩ payload =
          .ok keptPartitions := by
  obtain ⟨comesBack, isWritten⟩ := Response.ofPayload_of_serialized
  have serialized :
      Response.serialize (.saslAuthenticate ⟨.none, none, [5], 3600000⟩) 7 0 =
        .ok [0, 0, 0, 7, 0, 0, 255, 255, 0, 0, 0, 1, 5] := by
    decide +kernel
  have parsed :
      Response.parse .stopReplica 0 repeatedPartitions =
        .ok keptPartitions := by
    decide +kernel
  obtain ⟨-, payload, -, -, wrote, readBack⟩ :=
    isWritten ⟨.stopReplica, 0, 7, some "client"⟩ repeatedPartitions
      keptPartitions rfl parsed
  exact ⟨comesBack _ ⟨.saslAuthenticate, 0, 7, none⟩ _ rfl serialized, parsed,
    payload, wrote, readBack⟩

end BrokerSession
