import BrokerSession.Proofs.Sasl.Dialogue

namespace BrokerSession

/-!
# Authentication of both sides

A server that keeps the messages of an exchange as they went over the wire, and
signs those, signs the same transcript as the client.  It finds the client's key
in the proof, and the client finds its own expectation in the signature.
-/

namespace Scram

/-! ## The messages as a server keeps them -/

/-- Cut a message where a proof first begins: what is before, and the proof. -/
def cutAtProof : List Char → Option (List Char × List Char)
  | [] => none
  | char :: rest =>
      if [',', 'p', '='].isPrefixOf (char :: rest) then some ([], rest.drop 2)
      else
        (cutAtProof rest).map fun (before, proofText) =>
          (char :: before, proofText)

/-- The messages of an exchange up to the client's proof, byte for byte. -/
structure WireMessages where
  clientFirst : Bytes
  serverFirst : Bytes
  clientFinal : Bytes
  deriving Repr, DecidableEq

/-- The transcript and the proof that a server takes from the messages. -/
def WireMessages.read? (messages : WireMessages) :
    Option (Transcript × Bytes) := do
  let clientFirst ← Bytes.toString? messages.clientFirst
  let clientFirstBare ← withoutHeader? clientFirst.toList
  let serverFirst ← Bytes.toString? messages.serverFirst
  let clientFinal ← Bytes.toString? messages.clientFinal
  let (clientFinalBare, proofText) ← cutAtProof clientFinal.toList
  let proof ← Text.base64Decode? proofText
  let transcript : Transcript :=
    { clientFirstBare, serverFirst := serverFirst.toList, clientFinalBare }
  return (transcript, proof)

/-- No proof begins before the first comma. -/
theorem cutAtProof_append {part : List Char} (separate : ',' ∉ part)
    (rest : List Char) :
    cutAtProof (part ++ rest) =
      (cutAtProof rest).map fun (before, proofText) =>
        (part ++ before, proofText) := by
  induction part with
  | nil =>
      exact (Option.map_id' (x := cutAtProof rest)).symm
  | cons char others inductionHypothesis =>
      rw [List.mem_cons, not_or] at separate
      have elsewhere :
          [',', 'p', '='].isPrefixOf (char :: (others ++ rest)) = false := by
        simp [List.isPrefixOf, separate.1]
      rw [List.cons_append, cutAtProof, elsewhere,
        inductionHypothesis separate.2]
      simp [Option.map_map, Function.comp_def]

/-- A client's final message is cut where its proof was appended. -/
theorem cutAtProof_clientFinal {nonce : List Char} (separate : ',' ∉ nonce)
    (proof : Bytes) :
    cutAtProof (clientFinal (clientFinalBare nonce) proof) =
      some (clientFinalBare nonce, Text.base64Encode proof) := by
  let marked := ',' :: 'p' :: '=' :: Text.base64Encode proof
  have shape :
      clientFinal (clientFinalBare nonce) proof =
        ['c', '=', 'b', 'i', 'w', 's'] ++
          (',' :: (('r' :: '=' :: nonce) ++ marked)) := by
    unfold clientFinal clientFinalBare
    simp [marked]
  have ends : cutAtProof marked = some ([], Text.base64Encode proof) :=
    rfl
  have isNonce : ',' ∉ 'r' :: '=' :: nonce := by
    simpa using separate
  -- The comma in front of the nonce begins no proof.
  have passes :
      cutAtProof (',' :: (('r' :: '=' :: nonce) ++ marked)) =
        (cutAtProof (('r' :: '=' :: nonce) ++ marked)).map
          fun (before, proofText) => (',' :: before, proofText) :=
    rfl
  rw [shape, cutAtProof_append (by decide), passes,
    cutAtProof_append isNonce, ends]
  unfold clientFinalBare
  simp

/-- A server takes what the client has signed from what the client has sent. -/
theorem WireMessages.read?_utf8 (bare serverFirst : List Char)
    {nonce : List Char} (separate : ',' ∉ nonce) (proof : Bytes) :
    read?
        { clientFirst := utf8 (header ++ bare)
          serverFirst := utf8 serverFirst
          clientFinal :=
            utf8 (Scram.clientFinal (clientFinalBare nonce) proof) } =
      some
        ({ clientFirstBare := bare, serverFirst,
           clientFinalBare := clientFinalBare nonce },
          proof) := by
  have isText := ScramServer.toString?_utf8
  have headed : withoutHeader? (header ++ bare) = some bare :=
    rfl
  refine Option.bind_eq_some_iff.mpr ⟨_, isText _, ?_⟩
  rw [String.toList_ofList]
  refine Option.bind_eq_some_iff.mpr ⟨bare, headed, ?_⟩
  refine Option.bind_eq_some_iff.mpr ⟨_, isText _, ?_⟩
  refine Option.bind_eq_some_iff.mpr ⟨_, isText _, ?_⟩
  rw [String.toList_ofList, String.toList_ofList]
  refine Option.bind_eq_some_iff.mpr
    ⟨_, cutAtProof_clientFinal separate proof, ?_⟩
  exact Option.bind_eq_some_iff.mpr
    ⟨proof, Text.base64Decode?_base64Encode proof, rfl⟩

end Scram

namespace ScramClient

/-! ## Both sides -/

/--
What a client and a server that salts the same password make of each other.

The server signs nothing but the messages that it has received and sent.
-/
structure MutualExchange (client : ScramClient) (salted : Bytes)
    (nonce serverFirst : List Char) (clientFirst clientFinal : Bytes)
    (transcript : Scram.Transcript) (proof : Bytes) : Prop where
  taken :
    Scram.WireMessages.read?
        { clientFirst, serverFirst := Scram.utf8 serverFirst, clientFinal } =
      some (transcript, proof)
  bound : transcript.clientFinalBare = "c=biws,r=".toList ++ nonce
  /-- The proof uncovers a key whose digest is the stored key. -/
  convinces :
    let stored :=
      client.suite.hash
        (client.suite.hmac salted (Bytes.ofString "Client Key"))
    client.suite.hash
        (Digest.xorBytes proof
          (client.suite.hmac stored transcript.authMessage)) =
      stored
  /-- The client is not satisfied before it knows the server's signature. -/
  waits :
    Mechanism.isComplete (client.after [[], Scram.utf8 serverFirst]) = false
  completes :
    let signature :=
      client.suite.hmac
        (client.suite.hmac salted (Bytes.ofString "Server Key"))
        transcript.authMessage
    let challenges : List Bytes :=
      [[], Scram.utf8 serverFirst,
        Scram.utf8 ("v=".toList ++ Text.base64Encode signature)]
    client.replies challenges =
        [.ok (some clientFirst), .ok (some clientFinal), .ok none] ∧
      Mechanism.isComplete (client.after challenges) = true

end ScramClient

namespace ScramServer

variable {server : ScramServer} {nonce : String}

/-- An honest server and the user of its password agree. -/
theorem IsHonest.mutualExchange (honest : server.IsHonest nonce) :
    (server.user nonce).MutualExchange server.salted (server.fullNonce nonce)
      (server.first nonce)
      (Scram.utf8 (Scram.header ++
        Scram.clientFirstBare server.username nonce))
      (Scram.utf8 (server.clientFinal nonce)) (server.transcript nonce)
      (server.suite.proof server.salted (server.transcript nonce)) := by
  have opens := accepts_opening server nonce
  have proves := honest.accepts_proving
  have confirms := accepts_confirming server nonce
  constructor
  case taken =>
    exact Scram.WireMessages.read?_utf8 _ _ honest.not_mem_fullNonce _
  case bound =>
    rfl
  case convinces =>
    exact congrArg server.suite.hash honest.xorBytes_proof
  case waits =>
    have proved := (ScramClient.after_of_accepts opens _).trans
      (ScramClient.after_of_accepts proves [])
    exact congrArg (fun client => Mechanism.isComplete client) proved
  case completes =>
    have confirmed := (ScramClient.after_of_accepts opens _).trans
      ((ScramClient.after_of_accepts proves _).trans
        (ScramClient.after_of_accepts confirms []))
    refine ⟨?_, congrArg (fun client => Mechanism.isComplete client) confirmed⟩
    refine (ScramClient.replies_of_accepts opens _).trans
      (congrArg (_ :: ·) ?_)
    refine (ScramClient.replies_of_accepts proves _).trans
      (congrArg (_ :: ·) ?_)
    exact ScramClient.replies_of_accepts confirms []

end ScramServer

namespace ScramClient

end ScramClient

end BrokerSession
