import BrokerSession.Proofs.Sasl.Scram

namespace BrokerSession

/-!
# The exchange that a SCRAM client accepts

A server may send whatever it likes: a client is satisfied by one kind of
exchange alone.  The first part says which messages of a server have the right
form and content; the second follows a client through a list of challenges.
-/

namespace Scram

/-! ## Messages of the server -/

/-- An attribute as it stands in a message. -/
def Attribute.part (entry : Attribute) : List Char :=
  entry.1 :: '=' :: entry.2

/-- Whether a message consists of attributes, separated by commas. -/
structure Lists (message : List Char) (listed : List Attribute) : Prop where
  parts : message.splitOn ',' = listed.map Attribute.part
  /-- No key is the equals sign that ends a key. -/
  keys : ∀ entry ∈ listed, entry.1 ≠ '='

theorem parsePart_eq_ok_iff {part : List Char} {entry : Attribute} :
    parsePart part = .ok entry ↔
      entry.1 ≠ '=' ∧ part = entry.part := by
  rcases entry with ⟨key, value⟩
  constructor
  · intro parsed
    unfold parsePart at parsed
    split at parsed
    · split at parsed
      · cases parsed
      · next notEquals =>
          cases parsed
          exact ⟨notEquals, rfl⟩
    · cases parsed
  · rintro ⟨notEquals, rfl⟩
    exact if_neg notEquals

/-- A message is read as attributes exactly if it consists of them. -/
theorem attributes_eq_ok_iff {message : List Char} {listed : List Attribute} :
    attributes message = .ok listed ↔ Lists message listed := by
  rw [attributes, except_mapM_eq_ok_iff]
  simp only [parsePart_eq_ok_iff]
  generalize parts : message.splitOn ',' = pieces
  constructor
  · intro parsed
    have shape : pieces = listed.map Attribute.part ∧
        ∀ entry ∈ listed, entry.1 ≠ '=' := by
      clear parts
      induction parsed with
      | nil =>
          exact ⟨rfl, by simp⟩
      | cons isAttribute _ inductionHypothesis =>
          obtain ⟨others, keys⟩ := inductionHypothesis
          refine ⟨by rw [isAttribute.2, others, List.map_cons], ?_⟩
          exact List.forall_mem_cons.mpr ⟨isAttribute.1, keys⟩
    exact ⟨parts.trans shape.1, shape.2⟩
  · rintro ⟨shape, keys⟩
    rw [← parts, shape, List.forall₂_map_left_iff, List.forall₂_same]
    intro entry member
    exact ⟨keys entry member, rfl⟩

/-- What a client takes from the attributes of the server's first message. -/
structure Admits (suite : Suite) (clientNonce : List Char)
    (listed : List Attribute) (first : ServerFirst) : Prop where
  noExtension : find? listed 'm' = none
  nonce : find? listed 'r' = some first.nonce
  /-- The server adds at least one character to the client's nonce. -/
  extended :
    clientNonce <+: first.nonce ∧ clientNonce.length < first.nonce.length
  salt :
    ∃ text, find? listed 's' = some text ∧
      Text.base64Decode? text = some first.salt
  iterations :
    ∃ text, find? listed 'i' = some text ∧
      Text.unsigned32? text = some first.iterations
  enough : suite.minIterations ≤ first.iterations

/-- A first message is read exactly if its attributes are admitted. -/
theorem ofMessage_eq_ok_iff {suite : Suite} {clientNonce message : List Char}
    {first : ServerFirst} :
    ServerFirst.ofMessage suite clientNonce message = .ok first ↔
      ∃ listed, Lists message listed ∧
        Admits suite clientNonce listed first := by
  rw [ServerFirst.ofMessage, except_bind_eq_ok_iff]
  simp only [attributes_eq_ok_iff]
  refine exists_congr fun listed => and_congr_right fun _ => ?_
  constructor
  · intro read
    cases noExtension : find? listed 'm' with
    | some extension =>
        simp only [noExtension] at read
        cases read
    | none =>
        simp only [noExtension] at read
        obtain ⟨nonce, isNonce, checked⟩ := except_bind_eq_ok_iff.mp read
        split at checked
        · next isExtended =>
            obtain ⟨saltText, isSalt, salted⟩ :=
              except_bind_eq_ok_iff.mp checked
            cases decoded : Text.base64Decode? saltText with
            | none =>
                simp only [decoded] at salted
                cases salted
            | some salt =>
                simp only [decoded] at salted
                obtain ⟨countText, isCount, counted⟩ :=
                  except_bind_eq_ok_iff.mp salted
                cases number : Text.unsigned32? countText with
                | none =>
                    simp only [number] at counted
                    cases counted
                | some iterations =>
                    simp only [number] at counted
                    split at counted
                    · cases counted
                    · next notFewer =>
                        cases counted
                        simp only [Bool.and_eq_true, List.isPrefixOf_iff_prefix,
                          decide_eq_true_eq] at isExtended
                        exact
                          { noExtension := noExtension
                            nonce := find_eq_ok_iff.mp isNonce
                            extended := isExtended
                            salt :=
                              ⟨saltText, find_eq_ok_iff.mp isSalt, decoded⟩
                            iterations :=
                              ⟨countText, find_eq_ok_iff.mp isCount, number⟩
                            enough := UInt32.not_lt.mp notFewer }
        · cases checked
  · intro admits
    obtain ⟨saltText, isSalt, decoded⟩ := admits.salt
    obtain ⟨countText, isCount, number⟩ := admits.iterations
    have isExtended :
        (clientNonce.isPrefixOf first.nonce &&
          decide (clientNonce.length < first.nonce.length)) = true := by
      simp only [Bool.and_eq_true, List.isPrefixOf_iff_prefix,
        decide_eq_true_eq]
      exact admits.extended
    simp only [admits.noExtension]
    refine except_bind_eq_ok_iff.mpr
      ⟨first.nonce, find_eq_ok_iff.mpr admits.nonce, ?_⟩
    rw [if_pos isExtended]
    refine except_bind_eq_ok_iff.mpr
      ⟨saltText, find_eq_ok_iff.mpr isSalt, ?_⟩
    simp only [decoded]
    refine except_bind_eq_ok_iff.mpr
      ⟨countText, find_eq_ok_iff.mpr isCount, ?_⟩
    simp only [number]
    rw [if_neg (UInt32.not_lt.mpr admits.enough)]
    rfl

end Scram

namespace ScramClient

/-! ## Lists of challenges -/

/-- The client after some challenges. -/
def after (client : ScramClient) (challenges : List Bytes) : ScramClient :=
  challenges.foldl (fun client challenge => (client.evaluate challenge).2)
    client

/-- What the client says to each of some challenges. -/
def replies (client : ScramClient) :
    List Bytes → List (Except MechanismError (Option Bytes))
  | [] => []
  | challenge :: later =>
      (client.evaluate challenge).1 ::
        replies (client.evaluate challenge).2 later

/-- The token of a reply, if there is one. -/
def token? : Except MechanismError (Option Bytes) → Option Bytes
  | .ok token => token
  | .error _ => none

variable {client : ScramClient} {phase : ScramPhase}
  {challenge : Bytes} {challenges before later : List Bytes}

@[simp] theorem after_nil (client : ScramClient) : client.after [] = client :=
  rfl

@[simp] theorem after_cons (client : ScramClient) (challenge : Bytes)
    (later : List Bytes) :
    client.after (challenge :: later) =
      (client.evaluate challenge).2.after later :=
  rfl

theorem after_append (client : ScramClient) (before later : List Bytes) :
    client.after (before ++ later) = (client.after before).after later :=
  List.foldl_append

theorem replies_append (client : ScramClient) (before later : List Bytes) :
    client.replies (before ++ later) =
      client.replies before ++ (client.after before).replies later := by
  induction before generalizing client with
  | nil =>
      rfl
  | cons challenge rest inductionHypothesis =>
      rw [List.cons_append, replies, replies, inductionHypothesis, after_cons,
        List.cons_append]

/-- A challenge is accepted as the phase says, or it is refused. -/
theorem evaluate_cases (client : ScramClient) (challenge : Bytes) :
    (∃ token next,
        client.Accepts client.phase challenge token next ∧
          client.evaluate challenge =
            (.ok token, { client with phase := next })) ∨
      ((∀ token next, ¬ client.Accepts client.phase challenge token next) ∧
        ∃ refusal, client.evaluate challenge =
          (.error refusal,
            if client.phase = .complete then client
            else { client with phase := .failed })) := by
  rw [evaluate]
  cases answered : client.answer challenge with
  | ok answer =>
      exact Or.inl ⟨answer.1, answer.2, answer_eq_ok_iff.mp answered, rfl⟩
  | error refusal =>
      refine Or.inr ⟨?_, refusal, rfl⟩
      intro token next accepts
      cases answered.symm.trans (answer_eq_ok_iff.mpr accepts)

section Accepting

variable {token : Option Bytes} {next : ScramPhase}

/-- In a phase a challenge is accepted as that phase says. -/
theorem evaluate_of_accepts
    (accepts : client.Accepts phase challenge token next) :
    ScramClient.evaluate { client with phase := phase } challenge =
      (.ok token, { client with phase := next }) :=
  evaluate_eq_ok_iff.mpr ⟨next, accepts_phase_iff.mpr accepts, rfl⟩

theorem after_of_accepts
    (accepts : client.Accepts phase challenge token next)
    (later : List Bytes) :
    ScramClient.after { client with phase := phase } (challenge :: later) =
      ScramClient.after { client with phase := next } later := by
  rw [after_cons, evaluate_of_accepts accepts]

theorem replies_of_accepts
    (accepts : client.Accepts phase challenge token next)
    (later : List Bytes) :
    ScramClient.replies { client with phase := phase } (challenge :: later) =
      .ok token :: ScramClient.replies { client with phase := next } later := by
  rw [replies, evaluate_of_accepts accepts]

end Accepting

/-! ## Phases that are never left -/

/-- A phase whose client answers every challenge with one and the same failure. -/
inductive IsOver : ScramPhase → MechanismError → Prop where
  | complete : IsOver .complete .alreadyComplete
  | failed : IsOver .failed (.invalidChallenge .alreadyFailed)

theorem evaluate_of_isOver {failure : MechanismError}
    (ended : IsOver phase failure) (client : ScramClient) (challenge : Bytes) :
    ScramClient.evaluate { client with phase := phase } challenge =
      (.error failure, { client with phase := phase }) := by
  cases ended <;> rfl

theorem after_of_isOver {failure : MechanismError}
    (ended : IsOver phase failure) (client : ScramClient)
    (challenges : List Bytes) :
    ScramClient.after { client with phase := phase } challenges =
      { client with phase := phase } := by
  induction challenges with
  | nil =>
      rfl
  | cons challenge later inductionHypothesis =>
      rw [after_cons, evaluate_of_isOver ended, inductionHypothesis]

theorem replies_of_isOver {failure : MechanismError}
    (ended : IsOver phase failure) (client : ScramClient)
    (challenges : List Bytes) :
    ScramClient.replies { client with phase := phase } challenges =
      challenges.map fun _ => .error failure := by
  induction challenges with
  | nil =>
      rfl
  | cons challenge later inductionHypothesis =>
      rw [replies, evaluate_of_isOver ended, inductionHypothesis, List.map_cons]

/-- An unfinished client fails for good with the first challenge it refuses. -/
theorem failed_of_refused (unfinished : client.phase ≠ .complete)
    {refusal : MechanismError}
    (refused : (client.evaluate challenge).1 = .error refusal) :
    (client.evaluate challenge).2 = { client with phase := .failed } := by
  rcases evaluate_cases client challenge with
    ⟨token, next, -, evaluated⟩ | ⟨-, other, evaluated⟩
  · rw [evaluated] at refused
    cases refused
  · rw [evaluated]
    exact if_neg unfinished

/-- The next challenge of an unfinished client has to be accepted. -/
theorem phase_after_eq_complete_iff (unfinished : client.phase ≠ .complete) :
    (client.after challenges).phase = .complete ↔
      ∃ challenge later token next,
        challenges = challenge :: later ∧
          client.Accepts client.phase challenge token next ∧
          ({ client with phase := next }.after later).phase = .complete := by
  cases challenges with
  | nil =>
      constructor
      · intro complete
        exact (unfinished complete).elim
      · rintro ⟨_, _, _, _, ⟨⟩, _⟩
  | cons challenge later =>
      rw [after_cons]
      constructor
      · intro complete
        rcases evaluate_cases client challenge with
          ⟨token, next, accepts, evaluated⟩ | ⟨-, refusal, evaluated⟩
        · rw [evaluated] at complete
          exact ⟨challenge, later, token, next, rfl, accepts, complete⟩
        · rw [evaluated, if_neg unfinished, after_of_isOver .failed] at complete
          cases complete
      · rintro ⟨_, _, token, next, ⟨⟩, accepts, complete⟩
        rw [evaluate_eq_ok_iff.mpr ⟨next, accepts, rfl⟩]
        exact complete

/-- How many tokens a client in a phase still has to send. -/
def tokensAhead : ScramPhase → Nat
  | .sendClientFirst => 2
  | .receiveServerFirst _ => 1
  | _ => 0

theorem length_tokens_le (client : ScramClient) (challenges : List Bytes) :
    ((client.replies challenges).filterMap token?).length ≤
      tokensAhead client.phase := by
  induction challenges generalizing client with
  | nil =>
      exact Nat.zero_le _
  | cons challenge later inductionHypothesis =>
      rw [replies]
      rcases evaluate_cases client challenge with
        ⟨token, next, accepts, evaluated⟩ | ⟨-, refusal, evaluated⟩
      · rw [evaluated]
        have remaining := inductionHypothesis { client with phase := next }
        dsimp only at remaining
        generalize client.phase = phase at accepts
        cases accepts with
        | opening | proving | confirming =>
            simp only [tokensAhead, List.filterMap_cons, token?,
              List.length_cons] at remaining ⊢
            omega
      · rw [evaluated]
        by_cases complete : client.phase = .complete
        · rw [if_pos complete]
          exact inductionHypothesis client
        · rw [if_neg complete]
          have remaining := inductionHypothesis { client with phase := .failed }
          exact Nat.le_trans remaining (Nat.zero_le _)

/-! ## The one exchange -/

/-- Two messages of a server that satisfy a client, with what they say. -/
structure Satisfaction (client : ScramClient)
    (serverFirst serverFinal : String) where
  firstListed : List Scram.Attribute
  first : Scram.ServerFirst
  finalListed : List Scram.Attribute
  /-- The first value of `v` in the server's final message. -/
  verifier : List Char
  firstLists : Scram.Lists serverFirst.toList firstListed
  admits :
    Scram.Admits client.suite client.nonce.toList firstListed first
  /-- The server asks for no fewer iterations than the standards allow. -/
  enough : 4096 ≤ first.iterations
  finalLists : Scram.Lists serverFinal.toList finalListed
  noError : Scram.find? finalListed 'e' = none
  isFirst : Scram.find? finalListed 'v' = some verifier
  /-- The server signs what both sides have sent in this exchange. -/
  signed :
    Text.base64Decode? verifier =
      some
        (client.suite.hmac
          (client.suite.serverKey
            (client.suite.saltedPassword (Bytes.ofString client.password)
              first.salt first.iterations))
          (Scram.utf8
            (Scram.clientFirstBare client.username client.nonce ++
              ',' :: serverFirst.toList ++
              ',' :: Scram.clientFinalBare first.nonce)))

namespace Satisfaction

variable {serverFirst serverFinal : String}

/-- The password after the salt and the iterations of the server. -/
def salted (satisfaction : client.Satisfaction serverFirst serverFinal) :
    Bytes :=
  client.suite.saltedPassword (Bytes.ofString client.password)
    satisfaction.first.salt satisfaction.first.iterations

/-- The messages of the exchange, as both sides sign them. -/
def transcript (satisfaction : client.Satisfaction serverFirst serverFinal) :
    Scram.Transcript where
  clientFirstBare := Scram.clientFirstBare client.username client.nonce
  serverFirst := serverFirst.toList
  clientFinalBare := Scram.clientFinalBare satisfaction.first.nonce

/-- What the client answers to the server's first message. -/
def clientFinal (satisfaction : client.Satisfaction serverFirst serverFinal) :
    Bytes :=
  Scram.utf8
    (Scram.clientFinal (Scram.clientFinalBare satisfaction.first.nonce)
      (client.suite.proof satisfaction.salted satisfaction.transcript))

/-- The server's first message is answered as it should be. -/
theorem answerServerFirst
    (satisfaction : client.Satisfaction serverFirst serverFinal) :
    client.answerServerFirst
        (Scram.clientFirstBare client.username client.nonce)
        serverFirst.toList =
      .ok (satisfaction.clientFinal,
        client.suite.serverSignature satisfaction.salted
          satisfaction.transcript) := by
  have read := Scram.ofMessage_eq_ok_iff.mpr
    ⟨satisfaction.firstListed, satisfaction.firstLists, satisfaction.admits⟩
  exact except_bind_eq_ok_iff.mpr ⟨satisfaction.first, read, rfl⟩

/-- The server's final message carries the expected signature. -/
theorem verified (satisfaction : client.Satisfaction serverFirst serverFinal) :
    Scram.verifyServerFinal
        (client.suite.serverSignature satisfaction.salted
          satisfaction.transcript)
        serverFinal.toList =
      .ok () :=
  Scram.verifyServerFinal_eq_ok_iff.mpr
    ⟨satisfaction.finalListed, satisfaction.verifier,
      Scram.attributes_eq_ok_iff.mpr satisfaction.finalLists,
      satisfaction.noError, satisfaction.isFirst, satisfaction.signed⟩

end Satisfaction

/-- Messages that are answered and verified satisfy the client. -/
theorem satisfaction_of_verified {serverFirst serverFinal : String}
    {message expected : Bytes} (minimum : client.suite.minIterations = 4096)
    (answered :
      client.answerServerFirst
          (Scram.clientFirstBare client.username client.nonce)
          serverFirst.toList =
        .ok (message, expected))
    (verified : Scram.verifyServerFinal expected serverFinal.toList = .ok ()) :
    Nonempty (client.Satisfaction serverFirst serverFinal) := by
  obtain ⟨first, read, returned⟩ := except_bind_eq_ok_iff.mp answered
  cases returned
  obtain ⟨firstListed, firstLists, admits⟩ :=
    Scram.ofMessage_eq_ok_iff.mp read
  obtain ⟨finalListed, verifier, parsed, noError, isFirst, decoded⟩ :=
    Scram.verifyServerFinal_eq_ok_iff.mp verified
  exact
    ⟨{ firstListed, first, finalListed, verifier, firstLists, admits
       enough := minimum ▸ admits.enough
       finalLists := Scram.attributes_eq_ok_iff.mp parsed
       noError, isFirst
       signed := decoded }⟩

/-- What a client makes of any challenges at all. -/
structure AcceptsOneExchange (client : ScramClient) (challenges : List Bytes) :
    Prop where
  /-- Only the first three challenges can satisfy a client. -/
  complete_iff :
    Mechanism.isComplete (client.after challenges) = true ↔
      ∃ serverFirst serverFinal later,
        challenges =
            [] :: Bytes.ofString serverFirst :: Bytes.ofString serverFinal ::
              later ∧
          Nonempty (client.Satisfaction serverFirst serverFinal)
  /-- What a satisfied client has sent is what the server has signed. -/
  sent :
    ∀ serverFirst serverFinal later
      (satisfaction : client.Satisfaction serverFirst serverFinal),
      challenges =
          [] :: Bytes.ofString serverFirst :: Bytes.ofString serverFinal ::
            later →
        client.replies challenges =
          .ok (some (Scram.utf8 (Scram.header ++
              Scram.clientFirstBare client.username client.nonce))) ::
            .ok (some satisfaction.clientFinal) :: .ok none ::
            later.map fun _ => .error .alreadyComplete
  fewTokens : ((client.replies challenges).filterMap token?).length ≤ 2
  /-- The first refusal is final. -/
  refused :
    ∀ before challenge later refusal,
      challenges = before ++ challenge :: later →
        Mechanism.isComplete (client.after before) = false →
          ((client.after before).evaluate challenge).1 = .error refusal →
            Mechanism.isComplete (client.after challenges) = false ∧
              client.replies challenges =
                client.replies before ++ .error refusal ::
                  later.map fun _ => .error (.invalidChallenge .alreadyFailed)
  /-- A complete client stays so and answers nothing more. -/
  completed :
    ∀ before later, challenges = before ++ later →
      Mechanism.isComplete (client.after before) = true →
        Mechanism.isComplete (client.after challenges) = true ∧
          client.replies challenges =
            client.replies before ++ later.map fun _ => .error .alreadyComplete

theorem isComplete_iff (client : ScramClient) :
    Mechanism.isComplete client = true ↔ client.phase = .complete :=
  decide_eq_true_iff

/-- The challenges that lead a fresh client to completion, one by one. -/
theorem phase_after_of_fresh (fresh : client.phase = .sendClientFirst) :
    (client.after challenges).phase = .complete ↔
      ∃ serverFirst serverFinal later message expected,
        challenges =
            [] :: Bytes.ofString serverFirst :: Bytes.ofString serverFinal ::
              later ∧
          client.answerServerFirst
              (Scram.clientFirstBare client.username client.nonce)
              serverFirst.toList =
            .ok (message, expected) ∧
          Scram.verifyServerFinal expected serverFinal.toList = .ok () := by
  rw [phase_after_eq_complete_iff (by rw [fresh]; exact ScramPhase.noConfusion),
    fresh]
  constructor
  · rintro ⟨_, afterOpening, _, _, rfl, ⟨⟩, complete⟩
    obtain ⟨proof, afterProof, _, _, rfl, accepts, complete⟩ :=
      (phase_after_eq_complete_iff ScramPhase.noConfusion).mp complete
    cases accepts with
    | @proving _ _ message expected serverFirst isText proved =>
        obtain ⟨final, later, _, _, rfl, accepts, -⟩ :=
          (phase_after_eq_complete_iff ScramPhase.noConfusion).mp complete
        cases accepts with
        | @confirming _ _ serverFinal isFinalText verified =>
            refine ⟨serverFirst, serverFinal, later, message, expected, ?_,
              proved, verified⟩
            rw [Bytes.ofString_of_toString? isText,
              Bytes.ofString_of_toString? isFinalText]
  · rintro ⟨serverFirst, serverFinal, later, message, expected, rfl, proved,
      verified⟩
    refine ⟨_, _, _, _, rfl, .opening, ?_⟩
    refine (phase_after_eq_complete_iff ScramPhase.noConfusion).mpr
      ⟨_, _, _, _, rfl, .proving (Bytes.toString?_ofString _) proved, ?_⟩
    refine (phase_after_eq_complete_iff ScramPhase.noConfusion).mpr
      ⟨_, _, _, _, rfl, .confirming (Bytes.toString?_ofString _) verified, ?_⟩
    rw [after_of_isOver .complete]

/-- A SCRAM client is satisfied by one kind of exchange, whatever is sent. -/
theorem acceptsOneExchange_of_fresh (client : ScramClient)
    (fresh : client.phase = .sendClientFirst)
    (minimum : client.suite.minIterations = 4096) (challenges : List Bytes) :
    client.AcceptsOneExchange challenges := by
  constructor
  case complete_iff =>
    rw [isComplete_iff, phase_after_of_fresh fresh]
    constructor
    · rintro ⟨serverFirst, serverFinal, later, message, expected, shape, proved,
        verified⟩
      exact ⟨serverFirst, serverFinal, later, shape,
        satisfaction_of_verified minimum proved verified⟩
    · rintro ⟨serverFirst, serverFinal, later, shape, ⟨satisfaction⟩⟩
      exact ⟨serverFirst, serverFinal, later, _, _, shape,
        satisfaction.answerServerFirst, satisfaction.verified⟩
  case sent =>
    rintro serverFirst serverFinal later satisfaction rfl
    have opening :
        client.replies
            ([] :: Bytes.ofString serverFirst :: Bytes.ofString serverFinal ::
              later) =
          ScramClient.replies { client with phase := .sendClientFirst }
            ([] :: Bytes.ofString serverFirst :: Bytes.ofString serverFinal ::
              later) := by
      rw [← fresh]
    rw [opening, replies_of_accepts .opening,
      replies_of_accepts
        (.proving (Bytes.toString?_ofString _) satisfaction.answerServerFirst),
      replies_of_accepts
        (.confirming (Bytes.toString?_ofString _) satisfaction.verified),
      replies_of_isOver .complete]
  case fewTokens =>
    have bound := length_tokens_le client challenges
    rwa [fresh] at bound
  case refused =>
    rintro before challenge later refusal rfl incomplete refused
    have unfinished : (client.after before).phase ≠ .complete := by
      rw [ne_eq, ← isComplete_iff, incomplete]
      exact Bool.false_ne_true
    have failed := failed_of_refused unfinished refused
    constructor
    · rw [after_append, after_cons, failed, after_of_isOver .failed]
      rfl
    · rw [replies_append, replies, refused, failed, replies_of_isOver .failed]
  case completed =>
    rintro before later rfl complete
    have ended :
        client.after before =
          { client.after before with phase := .complete } := by
      rw [← (isComplete_iff _).mp complete]
    rw [after_append, replies_append, ended, after_of_isOver .complete,
      replies_of_isOver .complete]
    exact ⟨rfl, rfl⟩

/-- A client with simple digests, and a server that it is satisfied by. -/
theorem acceptsOneExchange_of_fresh_pencil :
    let suite : Scram.Suite :=
      { name := "SCRAM-SHA-256"
        minIterations := 4096
        hash := id
        hmac := fun key _ => key.take 3
        saltedPassword := fun password salt _ => password ++ salt }
    let client : ScramClient :=
      { suite, username := "user", password := "pencil", nonce := "fyko" }
    let challenges : List Bytes :=
      [[], Bytes.ofString "r=fyko3r,s=QSXC,i=4096", Bytes.ofString "v=cGVu",
        []]
    client.phase = .sendClientFirst ∧ client.suite.minIterations = 4096 ∧
      Mechanism.isComplete (client.after challenges) = true ∧
      client.AcceptsOneExchange challenges := by
  intro suite client challenges
  have fresh : client.phase = .sendClientFirst := rfl
  have minimum : client.suite.minIterations = 4096 := rfl
  have complete : Mechanism.isComplete (client.after challenges) = true := by
    decide +kernel
  exact ⟨fresh, minimum, complete,
    acceptsOneExchange_of_fresh client fresh minimum challenges⟩

end ScramClient

end BrokerSession
